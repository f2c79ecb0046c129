import ResponseCheck.Check.Plan
import ResponseCheck.Proofs.Http.Headers
import ResponseCheck.Proofs.Schema.Record
import ResponseCheck.Rules

/-!
# Writing rules

Rules that are written with all their fields are read back as they are, but for a body that is null:
null is how a request says that it has no body, so no file has such a body either. And there are
many ways to write rules, as a file may be respelled without a change of the rules that it holds.

## Main definitions

* `RequestRule.Respells`, `ExpectationRule.Respells`, `Rules.Respells` — other ways to write a
  request, an expectation, and rules

## Main results

* `RequestRule.decode_toJson`, `ExpectationRule.decode_toJson`, `Rules.decode_toJson` — what is
  written is read back
* `Rules.toOption_decode_of_respells` — rules are the same when they are respelled
* `rules_survive_writing` — both for the rules that are read from a file
-/

namespace ResponseCheck

open Schema (Record Field)

/-! ### Leaves -/

theorem Http.Method.decode_name (method : Http.Method) :
    Http.Method.decode (.str method.name) = .ok method := by
  cases method <;> rfl

theorem ExpectationKind.decode_name (kind : ExpectationKind) :
    ExpectationKind.decode (.str kind.name) = .ok kind := by
  cases kind <;> rfl

theorem Schema.headers_toJson (headers : Http.Headers) :
    Schema.headers headers.toJson = .ok headers := by
  rw [Http.Headers.toJson, Schema.headers, Except.mapM_map_eq_ok]
  · exact congrArg Except.ok headers.ofList_entries
  · exact fun _ _ => rfl

/-- Null is no value, and any other value is one. -/
theorem Schema.optional_of_ne_null {α : Type} {read : Json → Except Schema.Error α} {value : Json}
    (h : value ≠ .null) : Schema.optional read value = some <$> read value := by
  cases value with
  | null => exact absurd rfl h
  | bool | num | str | arr | obj => rfl

theorem Schema.read_of_optional_eq_some {α : Type} {read : Json → Except Schema.Error α}
    {value : Json} {a : α} (h : Schema.optional read value = .ok (some a)) :
    read value = .ok a := by
  by_cases hnull : value = .null
  · rw [hnull] at h
    cases h
  · rw [optional_of_ne_null hnull] at h
    cases hread : read value with
    | error e =>
      rw [hread] at h
      cases h
    | ok b =>
      rw [hread] at h
      cases h
      rfl

theorem Schema.optional_getD_map {α : Type} {read : Json → Except Schema.Error α}
    {write : α → Json} {value : Option α}
    (h : ∀ a, value = some a → write a ≠ .null ∧ read (write a) = .ok a) :
    Schema.optional read ((value.map write).getD .null) = .ok value := by
  cases value with
  | none => rfl
  | some a =>
    obtain ⟨hnull, hread⟩ := h a rfl
    rw [Option.map_some, Option.getD_some, optional_of_ne_null hnull, hread]
    rfl

/-! ### Requests -/

namespace RequestRule

theorem lawful_schema : schema.Lawful where
  nodup_names := by decide
  commutes := by
    simp only [schema, List.pairwise_cons, List.forall_mem_cons]
    -- Each field with the ones behind it; every one of them sets a part of its own.
    refine ⟨⟨?_, ?_, ?_, ?_, nofun⟩, ⟨?_, ?_, ?_, nofun⟩, ⟨?_, ?_, nofun⟩, ⟨?_, nofun⟩, nofun, .nil⟩
    all_goals exact Field.Sets.commutes (Field.sets _ _ _ _) (Field.sets _ _ _ _) fun _ _ _ => rfl

/-- What is read as a request has no null for a body. -/
theorem body_ne_null {value : Json} {rule : RequestRule} (h : decode value = .ok rule) :
    rule.body ≠ some .null := by
  refine lawful_schema.decode_preserves (P := fun rule => rule.body ≠ some .null) ?_ ?_ h
  · simp only [schema, List.forall_mem_cons]
    refine ⟨?_, ?_, ?_, ?_, ?_, nofun⟩
    -- Only the fourth field sets the body, and it takes null for none.
    case refine_4 =>
      refine Field.Sets.preserves (Field.sets _ _ _ _) fun value rule body _ hvalue hnull => ?_
      obtain rfl : body = some .null := hnull
      cases Schema.read_of_optional_eq_some hvalue
      cases hvalue
    all_goals exact Field.Sets.preserves (Field.sets _ _ _ _) fun _ _ _ hbody _ => hbody
  · simp

theorem decode_toJson {rule : RequestRule} (hbody : rule.body ≠ some .null) :
    decode rule.toJson = .ok rule := by
  have hbody : Schema.optional .ok (rule.body.getD .null) = .ok rule.body := by
    cases hvalue : rule.body with
    | none => rfl
    | some body => exact Schema.optional_of_ne_null fun hnull => hbody (hnull ▸ hvalue)
  rw [decode, toJson, Record.decode_obj_eq_ok_iff]
  refine ⟨by simp [schema], ?_⟩
  simp [Record.readNamed?, Field.read?, schema, Http.Method.decode_name, Schema.headers_toJson,
    Schema.bool, Schema.string, hbody]

/-- What omitted fields of a request stand for. -/
def defaults : List (String × Json) :=
  [("method", .str "GET"), ("headers", .obj []), ("body", .null), ("nonjson", .bool false)]

/-- Other ways to write a request. -/
def Respells : Json → Json → Prop := schema.Respells defaults fun _ _ _ => False

theorem toOption_decode_of_respells {value value' : Json} (h : Respells value value') :
    (decode value).toOption = (decode value').toOption := by
  refine lawful_schema.toOption_decode_of_respells ?_ nofun h
  simp only [defaults, List.forall_mem_cons]
  exact ⟨⟨_, .head _, rfl, rfl, rfl⟩, ⟨_, .tail _ (.tail _ (.head _)), rfl, rfl, rfl⟩,
    ⟨_, .tail _ (.tail _ (.tail _ (.head _))), rfl, rfl, rfl⟩,
    ⟨_, .tail _ (.tail _ (.tail _ (.tail _ (.head _)))), rfl, rfl, rfl⟩, nofun⟩

end RequestRule

/-! ### Expectations -/

namespace ExpectationRule

theorem lawful_schema : schema.Lawful where
  nodup_names := by decide
  commutes := by
    simp only [schema, List.pairwise_cons, List.forall_mem_cons]
    -- What is expected is not parsed: it may be any value.
    have hexpected : Field.Sets
        ⟨"expected", .never, fun value (rule : ExpectationRule) =>
          return { rule with expected := value }⟩
        .ok fun rule expected => { rule with expected } := fun _ _ => rfl
    refine ⟨⟨?_, ?_, ?_, nofun⟩, ⟨?_, ?_, nofun⟩, ⟨?_, nofun⟩, nofun, .nil⟩
    case refine_3 | refine_5 | refine_6 =>
      exact Field.Sets.commutes (Field.sets _ _ _ _) hexpected fun _ _ _ => rfl
    all_goals exact Field.Sets.commutes (Field.sets _ _ _ _) (Field.sets _ _ _ _) fun _ _ _ => rfl

theorem decode_toJson (rule : ExpectationRule) : decode rule.toJson = .ok rule := by
  have hpath : Schema.optional Schema.string ((rule.path.map .str).getD .null) = .ok rule.path :=
    Schema.optional_getD_map fun path _ => ⟨nofun, rfl⟩
  rw [decode, toJson, Record.decode_obj_eq_ok_iff]
  refine ⟨by simp [schema], ?_⟩
  simp [Record.readNamed?, Field.read?, schema, ExpectationKind.decode_name, hpath, Schema.bool]

/-- What omitted fields of an expectation stand for. -/
def defaults : List (String × Json) := [("path", .null), ("optional", .bool false)]

/-- Other ways to write an expectation. -/
def Respells : Json → Json → Prop := schema.Respells defaults fun _ _ _ => False

theorem toOption_decode_of_respells {value value' : Json} (h : Respells value value') :
    (decode value).toOption = (decode value').toOption := by
  refine lawful_schema.toOption_decode_of_respells ?_ nofun h
  simp only [defaults, List.forall_mem_cons]
  exact ⟨⟨_, .tail _ (.head _), rfl, rfl, rfl⟩, ⟨_, .tail _ (.tail _ (.head _)), rfl, rfl, rfl⟩,
    nofun⟩

end ExpectationRule

/-! ### Rules -/

namespace Rules

theorem lawful_schema : schema.Lawful where
  nodup_names := by decide
  commutes := by
    simp only [schema, List.pairwise_cons, List.forall_mem_cons]
    refine ⟨⟨?_, nofun⟩, nofun, .nil⟩
    exact Field.Sets.commutes (Field.sets _ _ _ _) (Field.sets _ _ _ _) fun _ _ _ => rfl

theorem decode_toJson {rules : Rules}
    (hbody : ∀ rule, rules.request = some rule → rule.body ≠ some .null) :
    decode rules.toJson = .ok rules := by
  have hrequest : Schema.optional RequestRule.decode
      ((rules.request.map RequestRule.toJson).getD .null) = .ok rules.request :=
    Schema.optional_getD_map fun rule hrule =>
      ⟨nofun, RequestRule.decode_toJson (hbody rule hrule)⟩
  have hexpectations : Schema.list ExpectationRule.decode
      (.arr (rules.expectations.map ExpectationRule.toJson)) = .ok rules.expectations :=
    Except.mapM_map_eq_ok fun rule _ => rule.decode_toJson
  rw [decode, toJson, Record.decode_obj_eq_ok_iff]
  refine ⟨by simp [schema], ?_⟩
  simp [Record.readNamed?, Field.read?, schema, hrequest, hexpectations]

/-- What omitted fields of rules stand for. -/
def defaults : List (String × Json) := [("request", .null), ("expectations", .arr [])]

/-- Other ways to write the request of rules, or one of the expectations. -/
inductive RespellsPart : String → Json → Json → Prop
  | request {value value' : Json} (h : RequestRule.Respells value value') :
      RespellsPart "request" value value'
  | expectation (before after : List Json) {value value' : Json}
      (h : ExpectationRule.Respells value value') :
      RespellsPart "expectations" (.arr (before ++ value :: after))
        (.arr (before ++ value' :: after))

/-- Other ways to write rules. -/
def Respells : Json → Json → Prop := schema.Respells defaults RespellsPart

theorem toOption_decode_of_respells {value value' : Json} (h : Respells value value') :
    (decode value).toOption = (decode value').toOption := by
  refine lawful_schema.toOption_decode_of_respells ?_ ?_ h
  · simp only [defaults, List.forall_mem_cons]
    exact ⟨⟨_, .head _, rfl, rfl, rfl⟩, ⟨_, .tail _ (.head _), rfl, rfl, rfl⟩, nofun⟩
  · intro name value value' hpart rules
    cases hpart with
    | request h =>
      have hread (value : Json) : schema.readNamed? rules ("request", value) =
          (Schema.optional RequestRule.decode value).toOption.map fun request =>
            { rules with request } := Field.sets _ _ _ _ value rules
      rw [hread, hread, Schema.optional_of_ne_null h.ne_null.1,
        Schema.optional_of_ne_null h.ne_null.2, Except.toOption_map, Except.toOption_map,
        RequestRule.toOption_decode_of_respells h]
    | @expectation before after value value' h =>
      have hread (value : Json) : schema.readNamed? rules ("expectations", value) =
          (Schema.list ExpectationRule.decode value).toOption.map fun expectations =>
            { rules with expectations } := Field.sets _ _ _ _ value rules
      simp only [hread, Schema.list, List.mapM_append, List.mapM_cons, Except.toOption_bind,
        ExpectationRule.toOption_decode_of_respells h]

theorem body_ne_null {value : Json} {rules : Rules} (h : decode value = .ok rules)
    {rule : RequestRule} (hrule : rules.request = some rule) : rule.body ≠ some .null := by
  refine lawful_schema.decode_preserves
    (P := fun rules => ∀ rule, rules.request = some rule → rule.body ≠ some .null) ?_ ?_ h rule
    hrule
  · simp only [schema, List.forall_mem_cons]
    refine ⟨?_, ?_, nofun⟩
    case refine_1 =>
      refine Field.Sets.preserves (Field.sets _ _ _ _) fun value rules request _ hvalue => ?_
      rintro rule rfl
      exact RequestRule.body_ne_null (Schema.read_of_optional_eq_some hvalue)
    case refine_2 =>
      exact Field.Sets.preserves (Field.sets _ _ _ _) fun _ _ _ hbody _ => hbody
  · simp

end Rules

/-- **Rules survive writing.** What is read from a file is read again when it is written with all
fields, and so it has the same plans and sends the same headers and body. And it is what is read if
the file is respelled: in another order of the keys of the rules, of the request or of an
expectation, or with what omitted fields stand for. -/
theorem rules_survive_writing {value : Json} {rules : Rules} (h : Rules.decode value = .ok rules) :
    Rules.decode rules.toJson = .ok rules ∧
      (∀ again, Rules.decode rules.toJson = .ok again →
        Check.Plan.ofRules 0 again.expectations = Check.Plan.ofRules 0 rules.expectations ∧
          again.request.map RequestRule.options = rules.request.map RequestRule.options) ∧
      ∀ value', Relation.ReflTransGen Rules.Respells value value' →
        Rules.decode value' = .ok rules := by
  have hagain : Rules.decode rules.toJson = .ok rules :=
    Rules.decode_toJson fun _ hrule => Rules.body_ne_null h hrule
  refine ⟨hagain, fun again hread => ?_, fun value' hrespelled => ?_⟩
  · obtain rfl : rules = again := Except.ok.inj (hagain.symm.trans hread)
    exact ⟨rfl, rfl⟩
  · induction hrespelled with
    | refl => exact h
    | tail _ hlast ih =>
      rw [← Except.toOption_eq_some_iff] at ih ⊢
      rw [← Rules.toOption_decode_of_respells hlast, ih]

/-- The null of the body is within an array, and the expected null is a value. -/
theorem rules_survive_writing_of_nulls :
    let body : Json := .arr [.null]
    let request : Json := .obj [("url", .str "/a"), ("body", body), ("method", .str "POST")]
    let first : Json := .arr [.obj [("json", .null)], .null, .bool true, .null]
    let second : Json := .obj [("expected", .int 200), ("kind", .str "status")]
    let second' : Json := .obj [("expected", .int 200), ("path", .null), ("kind", .str "status")]
    let rules : Rules := {
      request := some { method := .post, url := "/a", body := some body }
      expectations := [⟨.json, none, true, .null⟩, ⟨.status, none, false, .int 200⟩] }
    Rules.decode (.obj [("expectations", .arr [first, second]), ("request", request)]) = .ok rules ∧
      Rules.decode rules.toJson = .ok rules ∧
      Rules.decode (.obj [("request", request), ("expectations", .arr [first, second'])]) =
        .ok rules := by
  intro body request first second second' rules
  have hread : Rules.decode (.obj [("expectations", .arr [first, second]), ("request", request)]) =
      .ok rules := rfl
  obtain ⟨hagain, -, hrespelled⟩ := rules_survive_writing hread
  have horder : Rules.Respells
      (.obj [("expectations", .arr [first, second]), ("request", request)])
      (.obj [("request", request), ("expectations", .arr [first, second])]) :=
    .order (by decide) (.swap ..)
  have hdefault : ExpectationRule.Respells second second' :=
    .defaultEntry [("expected", .int 200)] [("kind", .str "status")] (by decide) (.head _)
  have hpart : Rules.Respells
      (.obj [("request", request), ("expectations", .arr [first, second])])
      (.obj [("request", request), ("expectations", .arr [first, second'])]) :=
    .entry [("request", request)] [] (.expectation [first] [] hdefault)
  exact ⟨hread, hagain, hrespelled _ (.tail (.single horder) hpart)⟩

end ResponseCheck
