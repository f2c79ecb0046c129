import ResponseCheck.Proofs.Resolution.Basic

/-!
# The values that a check is given

A path and a value alone fix which values the check is applied to, and in which order. Nothing else
has a say: neither what the check answers, nor effects that it has, nor the policy, nor whether the
path is optional. In particular no element is left out because others have failed or matched, and
none is checked twice.
-/

namespace ResponseCheck

/-- The values that segments reach, in document order and with repeats. A key that leads nowhere
reaches nothing, and neither does a wildcard on a value without elements. -/
def reached : List Segment → Json → List Json
  | [], value => [value]
  | .literal key :: rest, value =>
    match value.step key with
    | .ok next => reached rest next
    | .error _ => []
  | .wildcard _ :: rest, .arr items => items.flatMap (reached rest)
  | .wildcard _ :: rest, .obj entries => entries.flatMap fun entry => reached rest entry.2
  | .wildcard _ :: _, _ => []

variable {rest : List Segment} {value : Json}

/-- A null ends a resolution with no value for the check, whether it is forgiven or not. -/
theorem reached_null (segment : Segment) : reached (segment :: rest) .null = [] := by
  cases segment <;> rfl

theorem reached_elements (quantifier : Quantifier) {elements : List Json}
    (h : value.elements? = some elements) :
    reached (.wildcard quantifier :: rest) value = elements.flatMap (reached rest) := by
  cases value with
  | arr items =>
    obtain rfl : items = elements := by simpa [Json.elements?] using h
    rfl
  | obj entries =>
    obtain rfl : entries.map Prod.snd = elements := by simpa [Json.elements?] using h
    exact (List.flatMap_map ..).symm
  | null | bool | num | str => simp [Json.elements?] at h

theorem reached_noElements (quantifier : Quantifier) (h : value.elements? = none) :
    reached (.wildcard quantifier :: rest) value = [] := by
  cases value <;> first | rfl | simp [Json.elements?] at h

/-- Joined segments reach what the second ones reach from the values that the first ones reach. -/
theorem reached_append (before after : List Segment) (value : Json) :
    reached (before ++ after) value = (reached before value).flatMap (reached after) := by
  induction before generalizing value with
  | nil => simp [reached]
  | cons segment before ih =>
    rw [List.cons_append]
    cases segment with
    | literal key =>
      cases hstep : value.step key with
      | ok next => simp only [reached, hstep, ih]
      | error mismatch => simp only [reached, hstep, List.flatMap_nil]
    | wildcard quantifier =>
      cases helements : value.elements? with
      | none => simp only [reached_noElements quantifier helements, List.flatMap_nil]
      | some elements =>
        rw [reached_elements quantifier helements, reached_elements quantifier helements,
          List.flatMap_assoc]
        exact congrArg elements.flatMap (funext ih)

theorem mem_reached_key {key : String} {value next : Json} (h : value.step key = .ok next) :
    next ∈ reached [.literal key] value := by
  simp [reached, h]

theorem mem_reached_element {quantifier : Quantifier} {value element : Json}
    (h : element.IsElement value) : element ∈ reached [.wildcard quantifier] value := by
  cases h with
  | item hmem => simpa [reached] using hmem
  | entry hmem => simpa [reached] using ⟨_, hmem⟩

/-! ### Branches

A branch comes to a segment with a value that the segments before it reach. -/

/-- Whether something holds of every segment of a path and every value that a branch comes to it
with. -/
def OnBranches (p : Segment → Json → Prop) (segments : List Segment) (value : Json) : Prop :=
  ∀ before segment after, segments = before ++ segment :: after →
    ∀ here ∈ reached before value, p segment here

theorem onBranches_nil (p : Segment → Json → Prop) (value : Json) : OnBranches p [] value := by
  intro before segment after hsegments
  simp at hsegments

/-- It holds of the first segment, and behind it from wherever this one leads. -/
theorem onBranches_cons_iff {p : Segment → Json → Prop} {segment : Segment} :
    OnBranches p (segment :: rest) value ↔
      p segment value ∧ ∀ next ∈ reached [segment] value, OnBranches p rest next := by
  constructor
  · intro h
    refine ⟨h [] segment rest rfl value (List.mem_singleton_self value), ?_⟩
    rintro next hnext before last after rfl here hhere
    refine h (segment :: before) last after rfl here ?_
    rw [← List.singleton_append, reached_append]
    exact List.mem_flatMap.mpr ⟨next, hnext, hhere⟩
  · rintro ⟨hfirst, hrest⟩ before last after hsegments here hhere
    -- Before the segment there are no others, or the first one and others.
    cases before with
    | nil =>
      obtain ⟨rfl, -⟩ := List.cons.inj hsegments
      rwa [List.mem_singleton.mp hhere]
    | cons first before =>
      obtain ⟨rfl, hbehind⟩ := List.cons.inj hsegments
      rw [← List.singleton_append, reached_append, List.mem_flatMap] at hhere
      obtain ⟨next, hnext, hhere⟩ := hhere
      exact hrest next hnext before last after hbehind here hhere

/-! ### Checks that keep what they are given -/

variable {m : Type → Type} [Monad m]

/-- A check that also keeps the values it is given, after those that are kept already. -/
def logging (check : Json → m Verdict) (value : Json) : StateT (List Json) m Verdict := do
  modify (· ++ [value])
  check value

variable [LawfulMonad m] {α β : Type}

/-- Steps that each add to the log what depends on their argument alone add the concatenation. -/
theorem run_mapM_log {step : α → StateT (List Json) m β} {plain : α → m β} {added : α → List Json}
    {as : List α} (h : ∀ a ∈ as, ∀ log, (step a).run log = (·, log ++ added a) <$> plain a)
    (log : List Json) :
    (as.mapM step).run log = (·, log ++ as.flatMap added) <$> as.mapM plain := by
  induction as generalizing log with
  | nil => simp
  | cons a as ih =>
    obtain ⟨ha, has⟩ := List.forall_mem_cons.mp h
    simp [ha, ih has]

variable {policy : Policy} {optional : Bool} {check : Json → m Verdict}

/-- From any segment on, a check that keeps a log resolves as the check itself does, and adds to the
log exactly the values that are reached. -/
theorem resolveFrom_logging {whole segments : List Segment} {value : Json} (log : List Json) :
    (resolveFrom policy optional (logging check) whole segments value).run log =
      (·, log ++ reached segments value) <$>
        resolveFrom policy optional check whole segments value := by
  induction segments, value using resolution_induction optional generalizing whole log with
  | nil => simp [resolveFrom, logging, reached]
  | null segment rest value hnull =>
    obtain rfl : value = .null := by simp_all
    simp [resolveFrom_null segment hnull, reached_null]
  | noChild key rest value mismatch hnull hstep =>
    simp [resolveFrom_noChild hnull hstep, reached, hstep]
  | child key rest value next hnull hstep ih =>
    simp [resolveFrom_child hnull hstep, reached, hstep, ih]
  | noElements quantifier rest value hnull helements =>
    simp [resolveFrom_noElements hnull helements, reached_noElements quantifier helements]
  | elements quantifier rest value elements hnull helements ih =>
    rw [resolveFrom_elements hnull helements, resolveFrom_elements hnull helements,
      reached_elements quantifier helements]
    simp [run_mapM_log fun element hmem log => ih element hmem log]

/-- **What a check sees is fixed by path and value.** A pure check is given exactly the values that
are reached, and the verdict is that of the resolution; a check with effects of any kind, which may
depend on what it was given before, is given the same values in the same order. -/
theorem visits_eq_reached (segments : List Segment) (optional : Bool) (policy : Policy)
    (value : Json) (check : Json → Verdict) (effectful : Json → m Verdict) :
    (⟨segments, optional⟩ : Path).resolveRecording policy check value =
      ((⟨segments, optional⟩ : Path).resolve policy check value, reached segments value) ∧
    ((⟨segments, optional⟩ : Path).resolveM policy (logging effectful) value).run [] =
      (·, reached segments value) <$>
        (⟨segments, optional⟩ : Path).resolveM policy effectful value :=
  ⟨resolveFrom_logging (m := Id) [], resolveFrom_logging []⟩

/-- A check that loses patience: it accepts the first value that it is given, and no other. -/
def impatient (value : Json) : StateM Nat Verdict := do
  let seen ← getModify (· + 1)
  return if seen = 0 then .ok () else .error (.navigation "" value)

/-- Below an element that matched, one that is empty and one that is null, the fourth is visited
all the same, in an optional path as well. -/
theorem visits_of_impatient :
    LawfulMonad (StateM Nat) ∧
    (⟨[.literal "a", .wildcard .one, .wildcard .all], true⟩ : Path).resolveRecording .collectAll
        (fun _ => .ok ())
        (.obj [("a", .arr [.arr [.int 1, .int 2], .obj [], .null, .obj [("b", .int 1)]])]) =
      (.ok (), [.int 1, .int 2, .int 1]) ∧
    ((⟨[.literal "a", .wildcard .one, .wildcard .all], true⟩ : Path).resolveM .collectAll
        (logging impatient)
        (.obj [("a", .arr [.arr [.int 1, .int 2], .obj [], .null, .obj [("b", .int 1)]])])).run
        [] 0 =
      ((.ok (), [.int 1, .int 2, .int 1]), 3) := by
  obtain ⟨hpure, heffectful⟩ := visits_eq_reached (m := StateM Nat)
    [.literal "a", .wildcard .one, .wildcard .all] true .collectAll
    (.obj [("a", .arr [.arr [.int 1, .int 2], .obj [], .null, .obj [("b", .int 1)]])])
    (fun _ => .ok ()) impatient
  exact ⟨inferInstance, hpure, congrFun heffectful 0⟩

end ResponseCheck
