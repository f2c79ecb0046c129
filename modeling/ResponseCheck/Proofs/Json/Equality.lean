import ResponseCheck.Proofs.Json.Basic

/-! Two values may be the same but for the notation of their numbers: where one has an integer, the
other one has a binary number that is equal to it. Numeric equality is lifted from numbers to values
here, names and order included. It is reflexive and symmetric, but not transitive, since integers
that are not equal can be rounded to the same binary number. -/

namespace ResponseCheck

theorem Binary64.eqv_comm (x y : Binary64) : x.eqv y = y.eqv x := by
  rw [eqv, eqv, Bool.and_comm, BEq.comm]

namespace Json

namespace Number

/-- Against a binary number, the other one is rounded to a binary number. -/
theorem eqv_float (m : Number) (y : Binary64) : m.eqv (.float y) = m.toBinary?.any (·.eqv y) := by
  simp only [eqv]
  generalize m.toBinary? = rounded
  cases rounded <;> rfl

theorem float_eqv (x : Binary64) (n : Number) : (float x).eqv n = n.toBinary?.any (x.eqv ·) := by
  simp only [eqv]
  generalize n.toBinary? = rounded
  cases rounded <;> rfl

theorem eqv_self (n : Number) : n.eqv n = true := by
  cases n with
  | int => exact beq_self_eq_true _
  | float x => simp [eqv_float, toBinary?, Binary64.eqv]

theorem eqv_comm (m n : Number) : m.eqv n = n.eqv m := by
  cases m with
  | float x => simp only [float_eqv, eqv_float, Binary64.eqv_comm x]
  | int i =>
    cases n with
    | int j => exact BEq.comm
    | float y => simp only [float_eqv, eqv_float, Binary64.eqv_comm y]

end Number

/-- Values that differ in nothing but numbers, and there only where these are numerically equal. -/
inductive Eqv : Json → Json → Prop
  | null : Eqv .null .null
  | bool (b : Bool) : Eqv (.bool b) (.bool b)
  | num {m n : Number} (h : m.eqv n = true) : Eqv (.num m) (.num n)
  | str (s : String) : Eqv (.str s) (.str s)
  | array {items items' : List Json} (hlength : items.length = items'.length)
      (hitems : ∀ (i : Nat) item item', items[i]? = some item → items'[i]? = some item' →
        Eqv item item') :
      Eqv (.arr items) (.arr items')
  | object {entries entries' : List (String × Json)}
      (hnames : entries.map Prod.fst = entries'.map Prod.fst)
      (hvalues : ∀ (i : Nat) entry entry', entries[i]? = some entry → entries'[i]? = some entry' →
        Eqv entry.2 entry'.2) :
      Eqv (.obj entries) (.obj entries')

theorem Eqv.refl (value : Json) : Eqv value value := by
  induction value using Json.induction with
  | null => exact .null
  | bool b => exact .bool b
  | num n => exact .num n.eqv_self
  | str s => exact .str s
  | arr items ih =>
    refine .array rfl fun i item item' hitem hitem' => ?_
    obtain rfl := Option.some.inj (hitem.symm.trans hitem')
    exact ih item (List.mem_of_getElem? hitem)
  | obj entries ih =>
    refine .object rfl fun i entry entry' hentry hentry' => ?_
    obtain rfl := Option.some.inj (hentry.symm.trans hentry')
    exact ih entry (List.mem_of_getElem? hentry)

theorem Eqv.symm {value value' : Json} (h : Eqv value value') : Eqv value' value := by
  induction h with
  | null => exact .null
  | bool b => exact .bool b
  | num h => exact .num (Number.eqv_comm _ _ ▸ h)
  | str s => exact .str s
  | array hlength _ ih =>
    exact .array hlength.symm fun i item item' hitem hitem' => ih i item' item hitem' hitem
  | object hnames _ ih =>
    exact .object hnames.symm fun i entry entry' hentry hentry' => ih i entry' entry hentry' hentry

end Json

end ResponseCheck
