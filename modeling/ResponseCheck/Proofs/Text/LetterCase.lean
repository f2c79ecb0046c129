import Mathlib
import ResponseCheck.Text.Blank

/-! Small texts are compared instead of texts where letter case is of no account. To make a text
small undoes every change of letter case, and leaves all that is no letter where it is. -/

namespace ResponseCheck.Text

/-- Nothing but itself becomes a character that is no letter. -/
theorem toLower_eq_iff {c d : Char} (hd : d.isAlpha = false) : c.toLower = d ↔ c = d := by
  have hupper (e : Char) (he : e.isAlpha = false) : ¬ e.isUpper = true := by
    rw [Char.isAlpha, Bool.or_eq_false_iff] at he
    rw [he.1]
    exact Bool.false_ne_true
  constructor
  · intro h
    have hc : c.isAlpha = false := by rwa [← Char.isAlpha_toLower_eq_isAlpha, h]
    rwa [Char.toLower_eq_of_not_isUpper (hupper c hc)] at h
  · rintro rfl
    exact Char.toLower_eq_of_not_isUpper (hupper c hd)

variable {a b : String} {c : Char}

theorem toList_asciiLower (text : String) :
    (asciiLower text).toList = text.toList.map Char.toLower :=
  String.toList_map

@[simp] theorem asciiLower_asciiLower (text : String) :
    asciiLower (asciiLower text) = asciiLower text := by
  rw [← String.toList_inj, toList_asciiLower, toList_asciiLower, List.map_map]
  exact List.map_congr_left fun c _ => Char.toLower_toLower_eq_toLower c

theorem mem_asciiLower_iff (hc : c.isAlpha = false) : c ∈ (asciiLower a).toList ↔ c ∈ a.toList := by
  simp only [toList_asciiLower, List.mem_map, toLower_eq_iff hc, exists_eq_right]

theorem asciiLower_eq_singleton_iff (hc : c.isAlpha = false) :
    asciiLower a = String.singleton c ↔ a = String.singleton c := by
  rw [← String.toList_inj, ← String.toList_inj, toList_asciiLower, String.toList_singleton,
    List.map_eq_singleton_iff]
  simp only [toLower_eq_iff hc, exists_eq_right]

/-- The texts that come of changing the case of some ASCII letters of a text. -/
def Recased (a b : String) : Prop :=
  List.Forall₂ (fun c d => d = c ∨ d = c.toLower ∨ d = c.toUpper) a.toList b.toList

/-- Texts that differ in letter case only are the same when they are made small. -/
theorem Recased.asciiLower_eq (h : Recased a b) : asciiLower a = asciiLower b := by
  rw [← String.toList_inj, toList_asciiLower, toList_asciiLower, ← List.forall₂_eq_eq_eq,
    List.forall₂_map_left_iff, List.forall₂_map_right_iff]
  refine h.imp fun c d hletter => ?_
  rcases hletter with rfl | rfl | rfl
  · rfl
  · rw [Char.toLower_toLower_eq_toLower]
  · rw [Char.toLower_toUpper_eq_toLower]

/-- Nothing but letter case is lost when texts are made small. -/
theorem recased_iff_asciiLower_eq : Recased a b ↔ asciiLower a = asciiLower b := by
  refine ⟨Recased.asciiLower_eq, fun h => ?_⟩
  rw [← String.toList_inj, toList_asciiLower, toList_asciiLower, ← List.forall₂_eq_eq_eq,
    List.forall₂_map_left_iff, List.forall₂_map_right_iff] at h
  refine h.imp fun c d hsmall => ?_
  by_cases hupper : d.isUpper = true
  · right; right
    rw [← Char.toUpper_toLower_eq_toUpper c, hsmall, Char.toUpper_toLower_eq_toUpper,
      Char.toUpper_eq_of_not_isLower (Char.not_isLower_of_isUpper hupper)]
  · right; left
    rw [hsmall, Char.toLower_eq_of_not_isUpper hupper]

end ResponseCheck.Text
