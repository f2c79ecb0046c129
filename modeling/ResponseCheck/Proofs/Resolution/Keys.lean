import ResponseCheck.Proofs.Lookup
import ResponseCheck.Proofs.Resolution.Basic
import ResponseCheck.Proofs.Text.Numeral

/-!
# Paths of keys

A key leads from an object to the value of that name and from an array to the item at an index, and
to at most one value. So a path without wildcards is a walk: it either comes to the one value at its
end, or to the first key that leads nowhere.
-/

namespace ResponseCheck

namespace Json

variable {key : String} {keys before after : List String} {value here next last other : Json}
  {items : List Json} {entries : List (String × Json)}

/-- Where a key leads: from an array to the item at the index that the key is a numeral for, from an
object to the value of the first entry with that name. -/
inductive LeadsTo (key : String) : Json → Json → Prop
  | item {items : List Json} {item : Json} {n : Nat} (hkey : Text.IsNumeral key n)
      (hitem : items[n]? = some item) : LeadsTo key (.arr items) item
  | entry {entries before after : List (String × Json)} {value : Json}
      (hentries : entries = before ++ (key, value) :: after)
      (hfirst : key ∉ before.map Prod.fst) : LeadsTo key (.obj entries) value

theorem get?_eq_some_iff_leadsTo :
    get? entries key = some value ↔ LeadsTo key (.obj entries) value := by
  have hother (before : List (String × Json)) :
      (∀ entry ∈ before, key != entry.1) ↔ key ∉ before.map Prod.fst := by
    simp only [bne_iff_ne, ne_eq, List.mem_map, not_exists, not_and, eq_comm (a := key)]
  simp only [get?, List.lookup_eq_some_iff, hother]
  constructor
  · rintro ⟨before, after, hentries, hfirst⟩
    exact .entry hentries hfirst
  · rintro (_ | ⟨hentries, hfirst⟩)
    exact ⟨_, _, hentries, hfirst⟩

theorem child?_eq_some_iff : value.child? key = some next ↔ LeadsTo key value next := by
  cases value with
  | obj entries => exact get?_eq_some_iff_leadsTo
  | arr items =>
    rw [child?, Option.bind_eq_some_iff]
    constructor
    · rintro ⟨n, hkey, hitem⟩
      exact .item (Text.unsigned?_eq_some_iff_isNumeral.mp hkey) hitem
    · rintro (⟨hkey, hitem⟩ | _)
      exact ⟨_, Text.unsigned?_eq_some_iff_isNumeral.mpr hkey, hitem⟩
  | null | bool | num | str =>
    refine iff_of_false (by simp [child?]) ?_
    rintro ⟨⟩

/-- A step goes where its key leads. -/
theorem step_eq_ok_iff_leadsTo : value.step key = .ok next ↔ LeadsTo key value next :=
  step_eq_ok_iff.trans child?_eq_some_iff

/-- A step fails where its key leads nowhere, and tells where that is. -/
theorem step_eq_error_iff {mismatch : Mismatch} :
    value.step key = .error mismatch ↔
      mismatch = .navigation key value ∧ ∀ next, ¬ LeadsTo key value next := by
  simp only [← step_eq_ok_iff_leadsTo]
  cases hstep : value.step key with
  | ok next => simp
  | error found => simp [eq_navigation_of_step_eq_error hstep, eq_comm]

theorem exists_step_arr_eq_ok_iff :
    (∃ item, (Json.arr items).step key = .ok item) ↔
      ∃ n < items.length, Text.IsNumeral key n := by
  simp only [step_eq_ok_iff_leadsTo]
  constructor
  · rintro ⟨item, ⟨hkey, hitem⟩ | _⟩
    exact ⟨_, (List.getElem?_eq_some_iff.mp hitem).1, hkey⟩
  · rintro ⟨n, hlt, hkey⟩
    exact ⟨items[n], .item hkey (List.getElem?_eq_getElem hlt)⟩

theorem exists_step_obj_eq_ok_iff :
    (∃ value, (Json.obj entries).step key = .ok value) ↔ key ∈ entries.map Prod.fst := by
  simp only [step_eq_ok_iff, child?, get?]
  rw [← isSome_lookup_iff, Option.isSome_iff_exists]

/-- The item of an array may as well be found by a word that is large enough for its indices. -/
theorem toOption_step_arr {bits : Nat} (hlength : items.length ≤ 2 ^ bits) :
    ((Json.arr items).step key).toOption =
      (Text.word? bits key.toList).bind (items[·.toNat]?) := by
  rw [Text.word?_bind_getElem? hlength, step, child?]
  cases (Text.unsigned? key.toList).bind (items[·]?) <;> rfl

/-! ### Several keys -/

/-- Where several keys lead, one after the other. -/
inductive KeysLeadTo : List String → Json → Json → Prop
  | nil (value : Json) : KeysLeadTo [] value value
  | cons {key : String} {keys : List String} {value next last : Json}
      (hkey : LeadsTo key value next) (hkeys : KeysLeadTo keys next last) :
      KeysLeadTo (key :: keys) value last

theorem LeadsTo.unique (h : LeadsTo key value next) (h' : LeadsTo key value other) :
    next = other := by
  rw [← child?_eq_some_iff] at h h'
  exact Option.some.inj (h.symm.trans h')

theorem KeysLeadTo.unique (h : KeysLeadTo keys value last) (h' : KeysLeadTo keys value other) :
    last = other := by
  induction h with
  | nil => cases h'; rfl
  | cons hkey _ ih =>
    obtain _ | ⟨hkey', hkeys'⟩ := h'
    obtain rfl := hkey.unique hkey'
    exact ih hkeys'

/-- Keys that stop at one of them lead nowhere. -/
theorem KeysLeadTo.not_of_stops (hbefore : KeysLeadTo before value here)
    (hstops : ∀ next, ¬ LeadsTo key here next) :
    ¬ KeysLeadTo (before ++ key :: after) value last := by
  induction hbefore with
  | nil =>
    rintro (_ | ⟨hkey, -⟩)
    exact hstops _ hkey
  | cons hfirst _ ih =>
    rintro (_ | ⟨hfirst', hrest⟩)
    obtain rfl := hfirst.unique hfirst'
    exact ih hstops hrest

/-- Keys lead to a value, or they stop at the first one that leads nowhere. -/
theorem keysLeadTo_or_stops (keys : List String) (value : Json) :
    (∃ last, KeysLeadTo keys value last) ∨
      ∃ before key after here, keys = before ++ key :: after ∧ KeysLeadTo before value here ∧
        ∀ next, ¬ LeadsTo key here next := by
  -- On the keys: the first one leads nowhere, or the others go on from where it leads.
  induction keys generalizing value with
  | nil => exact .inl ⟨value, .nil value⟩
  | cons key keys ih =>
    by_cases hkey : ∃ next, LeadsTo key value next
    · obtain ⟨next, hnext⟩ := hkey
      rcases ih next with ⟨last, hlast⟩ | ⟨before, stop, after, here, rfl, hbefore, hstop⟩
      · exact .inl ⟨last, .cons hnext hlast⟩
      · exact .inr ⟨key :: before, stop, after, here, rfl, .cons hnext hbefore, hstop⟩
    · exact .inr ⟨[], key, keys, value, rfl, .nil value, not_exists.mp hkey⟩

end Json

/-! ### Paths -/

section Paths

variable {m : Type → Type} [Monad m] {policy : Policy} {check : Json → m Verdict}
  {whole rest : List Segment} {keys : List String} {value here last : Json}

/-- The keys in front of a path are walked before the rest of it is resolved. -/
theorem resolveFrom_of_keysLeadTo (h : Json.KeysLeadTo keys value here) :
    resolveFrom policy false check whole (keys.map .literal ++ rest) value =
      resolveFrom policy false check whole rest here := by
  induction h with
  | nil => rfl
  | cons hkey _ ih =>
    rw [← ih]
    exact resolveFrom_child rfl (Json.step_eq_ok_iff_leadsTo.mpr hkey)

/-- A path of keys that lead to a value is resolved by the check of that value, whatever effects the
check has. -/
theorem resolveM_of_keysLeadTo (h : Json.KeysLeadTo keys value last) :
    (⟨keys.map .literal, false⟩ : Path).resolveM policy check value = check last := by
  rw [Path.resolveM, ← List.append_nil (keys.map Segment.literal), resolveFrom_of_keysLeadTo h]
  rfl

/-- A path of keys that stop at one of them fails there, and there is no effect. -/
theorem resolveM_of_stops {before after : List String} {stop : String}
    (hbefore : Json.KeysLeadTo before value here) (hstop : ∀ next, ¬ Json.LeadsTo stop here next) :
    (⟨(before ++ stop :: after).map .literal, false⟩ : Path).resolveM policy check value =
      pure (.error (.navigation stop here)) := by
  rw [Path.resolveM, List.map_append, List.map_cons, resolveFrom_of_keysLeadTo hbefore]
  exact resolveFrom_noChild rfl (Json.step_eq_error_iff.mpr ⟨rfl, hstop⟩)

/-- **Keys are looked up in turn.** A step goes where its key leads: into an array by a numeral for
one of its indices, however long it is, and into an object by one of its names. Any other step, like
every step into a scalar, fails with the key and the value, and tells the type of the value. That an
index is read into a word makes no difference if the word is large enough for the indices that there
are. So a path of keys gives the one value that the keys lead to in turn to the check, or it fails
like the first step that does, without a check. -/
theorem keys_look_up_in_turn (key : String) (value : Json) (items : List Json)
    (entries : List (String × Json)) (policy : Policy) (check : Json → m Verdict)
    (keys : List String) :
    ((∃ item, (Json.arr items).step key = .ok item) ↔
      ∃ n < items.length, Text.IsNumeral key n) ∧
    ((∃ entry, (Json.obj entries).step key = .ok entry) ↔ key ∈ entries.map Prod.fst) ∧
    (∀ next, value.step key = .ok next ↔ Json.LeadsTo key value next) ∧
    (∀ mismatch, value.step key = .error mismatch ↔
      mismatch = .navigation key value ∧ ∀ next, ¬ Json.LeadsTo key value next) ∧
    (Mismatch.navigation key value).message =
      "expected " ++ value.typeName ++ "\nto be an object with property `" ++ key ++ "`" ∧
    (¬ value.IsContainer → value.step key = .error (.navigation key value)) ∧
    (∀ bits, items.length ≤ 2 ^ bits → ((Json.arr items).step key).toOption =
      (Text.word? bits key.toList).bind (items[·.toNat]?)) ∧
    ((∃ last, (∀ other, Json.KeysLeadTo keys value other ↔ other = last) ∧
      (⟨keys.map .literal, false⟩ : Path).resolveM policy check value = check last) ∨
    ∃ before stop after here mismatch, keys = before ++ stop :: after ∧
      Json.KeysLeadTo before value here ∧ here.step stop = .error mismatch ∧
      (∀ last, ¬ Json.KeysLeadTo keys value last) ∧
      (⟨keys.map .literal, false⟩ : Path).resolveM policy check value =
        pure (.error mismatch)) := by
  refine ⟨Json.exists_step_arr_eq_ok_iff, Json.exists_step_obj_eq_ok_iff,
    fun next => Json.step_eq_ok_iff_leadsTo, fun mismatch => Json.step_eq_error_iff, rfl,
    fun hscalar => ?_, fun bits => Json.toOption_step_arr, ?_⟩
  · -- Keys lead out of containers only.
    refine Json.step_eq_error_iff.mpr ⟨rfl, ?_⟩
    intro next hlead
    cases hlead with
    | item => exact hscalar trivial
    | entry => exact hscalar trivial
  · rcases Json.keysLeadTo_or_stops keys value with
      ⟨last, hlast⟩ | ⟨before, stop, after, here, rfl, hbefore, hstop⟩
    · have hunique (other : Json) : Json.KeysLeadTo keys value other ↔ other = last :=
        ⟨fun hother => hother.unique hlast, fun h => h ▸ hlast⟩
      exact .inl ⟨last, hunique, resolveM_of_keysLeadTo hlast⟩
    · have hfails : here.step stop = .error (.navigation stop here) :=
        Json.step_eq_error_iff.mpr ⟨rfl, hstop⟩
      exact .inr ⟨before, stop, after, here, _, rfl, hbefore, hfails,
        fun last => hbefore.not_of_stops hstop, resolveM_of_stops hbefore hstop⟩

end Paths

/-- A numeral with many zeros leads to an item, one that a word would wrap around to an index does
not, and nothing leads into a text. -/
theorem keys_look_up_in_turn_of_long_numerals :
    let items := [Json.int 5, .int 6]
    items.length ≤ 2 ^ 64 ∧
    ((Json.arr items).step "+0000000000000000000000001").toOption = some (.int 6) ∧
    ((Json.arr items).step "18446744073709551617").toOption = none ∧
    ¬ (Json.str "5").IsContainer ∧
    (Json.str "5").step "0" = .error (.navigation "0" (.str "5")) := by
  intro items
  have hlength : items.length ≤ 2 ^ 64 := by decide
  have hscalar : ¬ (Json.str "5").IsContainer := id
  have hzeros : Text.word? 64 "+0000000000000000000000001".toList = some 1 := by decide +kernel
  have hlarge : Text.word? 64 "18446744073709551617".toList = none := by decide +kernel
  have hstep (key : String) := keys_look_up_in_turn (m := Id) key (.str "5") items [] .mostRecent
    (fun _ => .ok ()) []
  obtain ⟨-, -, -, -, -, -, hword, -⟩ := hstep "+0000000000000000000000001"
  obtain ⟨-, -, -, -, -, -, hwordLarge, -⟩ := hstep "18446744073709551617"
  obtain ⟨-, -, -, -, -, hfails, -⟩ := hstep "0"
  refine ⟨hlength, ?_, ?_, hscalar, hfails hscalar⟩
  · rw [hword 64 hlength, hzeros]
    rfl
  · rw [hwordLarge 64 hlength, hlarge]
    rfl

end ResponseCheck
