import Mathlib.Data.List.Infix
import Mathlib.Tactic.Tauto
import ResponseCheck.Text.Blank

/-!
# Parts of lists between separators

Splitting and searching are those of the library, so that its laws apply.
-/

namespace ResponseCheck.Text

variable {α : Type*} {c : α} {a b : List α}

theorem splitOn_eq [BEq α] (sep : α) (cs : List α) : splitOn sep cs = cs.splitOn sep := by
  induction cs with
  | nil => rfl
  | cons c cs ih =>
    change _ = (c :: cs).splitOnP (· == sep)
    rw [splitOn, ih, List.splitOnP_cons_eq_if_modifyHead]
    split
    · rfl
    · unfold List.splitOn
      cases hparts : cs.splitOnP (· == sep) with
      | nil => exact absurd hparts (List.splitOnP_ne_nil _ _)
      | cons part parts => rfl

theorem splitOn_append_cons [BEq α] [ReflBEq α] (sep : α) (a b : List α) :
    splitOn sep (a ++ sep :: b) = splitOn sep a ++ splitOn sep b := by
  rw [splitOn_eq, splitOn_eq, splitOn_eq]
  exact List.splitOnP_append_cons a b (BEq.refl sep)

theorem occursIn_iff (part cs : List Char) : occursIn part cs = true ↔ part <:+: cs := by
  induction cs with
  | nil => simp [occursIn]
  | cons c cs ih =>
    rw [occursIn, Bool.or_eq_true, List.isPrefixOf_iff_prefix, ih, List.infix_cons_iff]

theorem pair_infix_cons_iff {d : α} :
    [c, c] <:+: d :: a ↔ (c = d ∧ a.head? = some c) ∨ [c, c] <:+: a := by
  rw [List.infix_cons_iff, List.cons_prefix_cons]
  cases a with
  | nil => simp
  | cons e a => simp [List.cons_prefix_cons, eq_comm]

/-- A separator meets itself in one of the lists, at the end of the first or at the start of the
second. -/
theorem pair_infix_append_cons_iff :
    [c, c] <:+: a ++ c :: b ↔
      [c, c] <:+: a ∨ [c, c] <:+: b ∨ a.getLast? = some c ∨ b.head? = some c := by
  induction a with
  | nil =>
    rw [List.nil_append, pair_infix_cons_iff]
    simp [or_comm]
  | cons d a ih =>
    rw [List.cons_append, pair_infix_cons_iff, ih, pair_infix_cons_iff]
    -- Only the last element of the first list stands next to the separator.
    cases a with
    | nil =>
      simp only [List.nil_append, List.head?_cons, List.getLast?_singleton, Option.some.injEq]
      have hnil : ¬ [c, c] <:+: ([] : List α) := by simp
      tauto
    | cons e a =>
      rw [List.getLast?_cons_cons, List.cons_append, List.head?_cons, List.head?_cons]
      tauto

/-- A separator meets itself where an empty part has others on both sides. -/
theorem pair_infix_intercalate_iff {parts : List (List α)} (hparts : ∀ part ∈ parts, c ∉ part) :
    [c, c] <:+: [c].intercalate parts ↔ [] ∈ parts.tail.dropLast := by
  have hfree {part : List α} (hpart : c ∉ part) : ¬ [c, c] <:+: part := fun h =>
    hpart (h.subset List.mem_cons_self)
  induction parts with
  | nil => simp
  | cons part parts ih =>
    obtain ⟨hpart, hrest⟩ := List.forall_mem_cons.mp hparts
    cases parts with
    | nil => simpa using hfree hpart
    | cons next parts =>
      have hlast : part.getLast? ≠ some c := fun h => hpart (List.mem_of_getLast? h)
      have hnext : c ∉ next := hrest next List.mem_cons_self
      have hmeet : [c, c] <:+: [c].intercalate (next :: parts) ↔
          [] ∈ (next :: parts).tail.dropLast := ih hrest
      rw [List.intercalate_cons_cons, List.append_assoc, List.singleton_append,
        pair_infix_append_cons_iff, hmeet]
      -- The separators around the second part meet if it is empty and not the last one.
      cases parts with
      | nil =>
        have hhead : next.head? ≠ some c := fun h => hnext (List.mem_of_head? h)
        simp [hfree hpart, hlast, hhead]
      | cons last parts =>
        have hhead : ([c].intercalate (next :: last :: parts)).head? = some c ↔ next = [] := by
          rw [List.intercalate_cons_cons]
          cases next with
          | nil => simp
          | cons d next =>
            have hd : d ≠ c := fun h => hnext (h ▸ List.mem_cons_self)
            simp [hd]
        rw [hhead]
        simp [hfree hpart, hlast, or_comm, eq_comm]

theorem notMem_of_mem_splitOn [BEq α] [LawfulBEq α] {part : List α}
    (h : part ∈ a.splitOn c) : c ∉ part := by
  induction a generalizing part with
  | nil =>
    obtain rfl : part = [] := by simpa using h
    exact List.not_mem_nil
  | cons d a ih =>
    rw [List.splitOn_cons_eq_if_modifyHead] at h
    split at h
    · rcases List.mem_cons.mp h with rfl | h
      · exact List.not_mem_nil
      · exact ih h
    · next hd =>
      cases hparts : a.splitOn c with
      | nil => exact absurd hparts (by simp)
      | cons first parts =>
        rw [hparts, List.modifyHead_cons] at h
        rcases List.mem_cons.mp h with rfl | h
        · have hfirst : c ∉ first := ih (hparts ▸ List.mem_cons_self)
          have hne : c ≠ d := fun heq => hd (heq ▸ BEq.refl c)
          exact List.not_mem_cons_of_ne_of_not_mem hne hfirst
        · exact ih (hparts ▸ List.mem_cons_of_mem _ h)

/-- A separator meets itself in a list where one of the parts between separators is empty. -/
theorem pair_infix_iff [BEq α] [LawfulBEq α] :
    [c, c] <:+: a ↔ [] ∈ (a.splitOn c).tail.dropLast := by
  rw [← pair_infix_intercalate_iff fun _ => notMem_of_mem_splitOn, List.intercalate_splitOn]

end ResponseCheck.Text
