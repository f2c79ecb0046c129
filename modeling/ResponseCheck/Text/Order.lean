/-! Texts are ordered by the code points of their characters, which is also the order of their
bytes. -/

namespace ResponseCheck.Text

/-- Whether characters come before others: where they first differ they have the smaller code point,
or they have ended. -/
def charsPrecede : List Char → List Char → Bool
  | _, [] => false
  | [], _ :: _ => true
  | c :: cs, d :: ds => decide (c.toNat < d.toNat) || (c == d && charsPrecede cs ds)

/-- Whether a text comes before another one. -/
def precedes (a b : String) : Bool := charsPrecede a.toList b.toList

theorem charsPrecede_trans :
    ∀ {a b c : List Char}, charsPrecede a b = true → charsPrecede b c = true →
      charsPrecede a c = true
  | _, _, [], _, h => by simp [charsPrecede] at h
  | _, [], _ :: _, h, _ => by simp [charsPrecede] at h
  | [], _ :: _, _ :: _, _, _ => rfl
  | x :: xs, y :: ys, z :: zs, hxy, hyz => by
    simp only [charsPrecede, Bool.or_eq_true, decide_eq_true_eq, Bool.and_eq_true,
      beq_iff_eq] at hxy hyz ⊢
    rcases hxy with hxy | ⟨rfl, hxy⟩
    · rcases hyz with hyz | ⟨rfl, _⟩
      · exact .inl (Nat.lt_trans hxy hyz)
      · exact .inl hxy
    · rcases hyz with hyz | ⟨rfl, hyz⟩
      · exact .inl hyz
      · exact .inr ⟨rfl, charsPrecede_trans hxy hyz⟩

theorem eq_of_not_charsPrecede :
    ∀ {a b : List Char}, charsPrecede a b = false → charsPrecede b a = false → a = b
  | [], [], _, _ => rfl
  | [], _ :: _, h, _ => by simp [charsPrecede] at h
  | _ :: _, [], _, h => by simp [charsPrecede] at h
  | x :: xs, y :: ys, hxy, hyx => by
    simp only [charsPrecede, Bool.or_eq_false_iff, decide_eq_false_iff_not, Nat.not_lt,
      Bool.and_eq_false_imp, beq_iff_eq] at hxy hyx
    obtain rfl : x = y := Char.toNat_inj.1 (Nat.le_antisymm hyx.1 hxy.1)
    rw [eq_of_not_charsPrecede (hxy.2 rfl) (hyx.2 rfl)]

theorem precedes_trans {a b c : String} (hab : precedes a b = true) (hbc : precedes b c = true) :
    precedes a c = true :=
  charsPrecede_trans hab hbc

theorem eq_of_not_precedes {a b : String} (hab : precedes a b = false)
    (hba : precedes b a = false) : a = b :=
  String.toList_inj.1 (eq_of_not_charsPrecede hab hba)

end ResponseCheck.Text
