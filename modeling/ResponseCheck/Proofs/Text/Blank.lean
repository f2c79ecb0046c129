import Mathlib.Data.List.DropRight
import ResponseCheck.Proofs.Text.Parts
import ResponseCheck.Text.Blank

/-!
# Trimming, words and lines

Trimming, splitting into words and splitting into lines are put down to operations of the library.
From these it follows what becomes of a text whose parts are known.
-/

namespace ResponseCheck.Text

variable {p : Char → Bool} {c sep : Char} {cs line word rest : List Char}

/-! ### Trimming -/

theorem dropEndWhile_cons (p : Char → Bool) (c : Char) (cs : List Char) :
    dropEndWhile p (c :: cs) =
      if (dropEndWhile p cs).isEmpty && p c then [] else c :: dropEndWhile p cs := rfl

theorem dropEndWhile_eq (p : Char → Bool) (cs : List Char) :
    dropEndWhile p cs = cs.rdropWhile p := by
  induction cs with
  | nil => rfl
  | cons c cs ih =>
    rw [dropEndWhile_cons, ih, List.rdropWhile, List.rdropWhile, List.reverse_cons,
      List.dropWhile_append]
    cases hrest : cs.reverse.dropWhile p <;> cases hc : p c <;> simp [hc]

theorem dropEndWhile_append_cons (hc : p c = false) (before rest : List Char) :
    dropEndWhile p (before ++ c :: rest) = before ++ c :: dropEndWhile p rest := by
  induction before with
  | nil => simp [dropEndWhile_cons, hc]
  | cons d before ih => simp [dropEndWhile_cons, ih]

/-- It does not matter which end is trimmed first. -/
theorem dropWhile_dropEndWhile (p : Char → Bool) (cs : List Char) :
    (dropEndWhile p cs).dropWhile p = dropEndWhile p (cs.dropWhile p) := by
  induction cs with
  | nil => rfl
  | cons c cs ih =>
    cases hc : p c with
    | true =>
      rw [List.dropWhile_cons_of_pos hc, ← ih, dropEndWhile_cons]
      cases dropEndWhile p cs <;> simp [hc]
    | false => simp [dropEndWhile_cons, hc]

theorem trimChars_dropEndWhile (cs : List Char) :
    trimChars (dropEndWhile isBlank cs) = trimChars cs := by
  rw [trimChars, dropWhile_dropEndWhile, trimChars, dropEndWhile_eq, dropEndWhile_eq,
    List.rdropWhile_idempotent]

theorem trimChars_cons_of_isBlank (hc : isBlank c = true) : trimChars (c :: cs) = trimChars cs := by
  rw [trimChars, List.dropWhile_cons_of_pos hc, trimChars]

theorem trim_eq_self_iff {text : String} :
    trim text = text ↔ trimChars text.toList = text.toList := by
  rw [trim, ← String.toList_inj, String.toList_ofList]

/-- Around a character that is not blank, both sides are trimmed by themselves. -/
theorem trimChars_append_cons_eq (hc : isBlank c = false) (before rest : List Char) :
    trimChars (before ++ c :: rest) =
      before.dropWhile isBlank ++ c :: dropEndWhile isBlank rest := by
  have hstop : (c :: rest).dropWhile isBlank = c :: rest :=
    List.dropWhile_cons_of_neg (by simp [hc])
  have hstart : (before ++ c :: rest).dropWhile isBlank =
      before.dropWhile isBlank ++ c :: rest := by
    rw [List.dropWhile_append, hstop]
    split
    · next hempty => rw [List.isEmpty_iff.mp hempty, List.nil_append]
    · rfl
  rw [trimChars, hstart, dropEndWhile_append_cons hc]

theorem trimChars_eq_nil_iff : trimChars cs = [] ↔ ∀ c ∈ cs, isBlank c = true := by
  constructor
  · intro h c hmem
    by_contra hc
    obtain ⟨before, rest, rfl⟩ := List.append_of_mem hmem
    rw [trimChars_append_cons_eq (Bool.eq_false_iff.mpr hc)] at h
    simp at h
  · intro h
    rw [trimChars, List.dropWhile_eq_nil_iff.mpr h]
    rfl

theorem trimChars_ne_nil_iff : trimChars cs ≠ [] ↔ ∃ c ∈ cs, isBlank c = false := by
  simp [trimChars_eq_nil_iff]

/-- Trimming loses nothing but blanks. -/
theorem mem_trimChars_iff (hc : isBlank c = false) : c ∈ trimChars cs ↔ c ∈ cs := by
  constructor
  · intro h
    rw [trimChars, dropEndWhile_eq] at h
    exact (List.dropWhile_suffix _).subset ((List.rdropWhile_prefix _ _).subset h)
  · intro h
    obtain ⟨before, rest, rfl⟩ := List.append_of_mem h
    rw [trimChars_append_cons_eq hc]
    exact List.mem_append_right _ List.mem_cons_self

theorem splitOnce_eq_none (hsep : sep ∉ cs) : splitOnce sep cs = none := by
  have hcs : cs.dropWhile (· != sep) = [] := by
    rw [List.dropWhile_eq_nil_iff]
    intro c hc
    rw [bne_iff_ne]
    exact fun heq => hsep (heq ▸ hc)
  rw [splitOnce, hcs]

theorem splitOnce_append_cons (hsep : sep ∉ cs) :
    splitOnce sep (cs ++ sep :: rest) = some (cs, rest) := by
  have hcs : ∀ c ∈ cs, (c != sep) = true := fun c hc => by
    rw [bne_iff_ne]
    exact fun heq => hsep (heq ▸ hc)
  rw [splitOnce, List.dropWhile_append_of_pos hcs, List.takeWhile_append_of_pos hcs]
  simp

/-! ### Words -/

theorem isAsciiBlank_of_isDigit (hc : c.isDigit = true) : isAsciiBlank c = false := by
  refine Bool.eq_false_iff.mpr fun hblank => ?_
  simp only [isAsciiBlank, Bool.or_eq_true, beq_iff_eq] at hblank
  rcases hblank with (((rfl | rfl) | rfl) | rfl) | rfl <;> exact absurd hc (by decide)

/-- The runs between ASCII blanks, where blanks in a row are one separator. -/
def runs (cs : List Char) : List (List Char) :=
  cs.foldr
    (fun c acc =>
      if isAsciiBlank c then
        match acc with
        | [] :: _ => acc
        | _ => [] :: acc
      else match acc with
        | [] => [[c]]
        | word :: rest => (c :: word) :: rest)
    [[]]

theorem runs_cons (c : Char) (cs : List Char) :
    runs (c :: cs) =
      if isAsciiBlank c then
        match runs cs with
        | [] :: _ => runs cs
        | _ => [] :: runs cs
      else match runs cs with
        | [] => [[c]]
        | word :: rest => (c :: word) :: rest := rfl

/-- The first run is the first part between blanks; the others differ in empty parts only. -/
theorem exists_runs_eq (cs : List Char) :
    ∃ first others parts, runs cs = first :: others ∧
      cs.splitOnP isAsciiBlank = first :: parts ∧
      others.filter (!·.isEmpty) = parts.filter (!·.isEmpty) := by
  induction cs with
  | nil => exact ⟨[], [], [], rfl, rfl, rfl⟩
  | cons c cs ih =>
    obtain ⟨first, others, parts, hruns, hparts, hsame⟩ := ih
    rw [List.splitOnP_cons_eq_if_modifyHead, hparts, runs_cons, hruns]
    cases isAsciiBlank c with
    | true =>
      cases first with
      | nil => exact ⟨[], others, [] :: parts, rfl, rfl, hsame⟩
      | cons d first => exact ⟨[], _, _, rfl, rfl, congrArg ((d :: first) :: ·) hsame⟩
    | false => exact ⟨c :: first, others, parts, rfl, rfl, hsame⟩

/-- Words are what is between blanks, if it is not empty. -/
theorem words_eq (cs : List Char) :
    words cs = (cs.splitOnP isAsciiBlank).filter (!·.isEmpty) := by
  obtain ⟨first, others, parts, hruns, hparts, hsame⟩ := exists_runs_eq cs
  change (runs cs).filter _ = _
  rw [hruns, hparts, List.filter_cons, List.filter_cons, hsame]

theorem words_append_cons (hword : ∀ c ∈ word, isAsciiBlank c = false) (hne : word ≠ [])
    (hc : isAsciiBlank c = true) : words (word ++ c :: rest) = word :: words rest := by
  rw [words_eq, List.splitOnP_append_cons _ _ hc, List.splitOnP_eq_singleton hword,
    List.singleton_append, List.filter_cons_of_pos (by simpa using hne), words_eq]

theorem words_cons_of_isAsciiBlank (hc : isAsciiBlank c = true) : words (c :: cs) = words cs := by
  have hsplit : (c :: cs).splitOnP isAsciiBlank = [] :: cs.splitOnP isAsciiBlank := by
    rw [List.splitOnP_cons_eq_if_modifyHead, if_pos hc]
  rw [words_eq, words_eq, hsplit, List.filter_cons_of_neg (by simp)]

theorem words_append_of_isAsciiBlank {lead : List Char}
    (hlead : ∀ c ∈ lead, isAsciiBlank c = true) : words (lead ++ cs) = words cs := by
  induction lead with
  | nil => rfl
  | cons c lead ih =>
    obtain ⟨hc, hlead⟩ := List.forall_mem_cons.mp hlead
    rw [List.cons_append, words_cons_of_isAsciiBlank hc, ih hlead]

/-- A word ends before a blank, or with the text. -/
theorem words_append (hword : ∀ c ∈ word, isAsciiBlank c = false) (hne : word ≠ [])
    (hrest : ∀ c ∈ rest.head?, isAsciiBlank c = true) :
    words (word ++ rest) = word :: words rest := by
  cases rest with
  | nil =>
    rw [List.append_nil, words_eq, List.splitOnP_eq_singleton hword]
    simp [hne, words]
  | cons c rest =>
    have hc : isAsciiBlank c = true := hrest c rfl
    rw [words_append_cons hword hne hc, words_cons_of_isAsciiBlank hc]

/-- The first word stands behind blanks, and before the others. -/
theorem words_eq_cons_iff {others : List (List Char)} :
    words cs = word :: others ↔
      ∃ lead rest, cs = lead ++ word ++ rest ∧ (∀ c ∈ lead, isAsciiBlank c = true) ∧ word ≠ [] ∧
        (∀ c ∈ word, isAsciiBlank c = false) ∧ (∀ c ∈ rest.head?, isAsciiBlank c = true) ∧
        words rest = others := by
  constructor
  · intro h
    -- The blanks, then what is not blank: this is the first word, since it is one.
    let lead := cs.takeWhile isAsciiBlank
    let first := (cs.dropWhile isAsciiBlank).takeWhile (!isAsciiBlank ·)
    let rest := (cs.dropWhile isAsciiBlank).dropWhile (!isAsciiBlank ·)
    have hsplit : cs = lead ++ first ++ rest := by
      rw [List.append_assoc, List.takeWhile_append_dropWhile, List.takeWhile_append_dropWhile]
    have hlead : ∀ c ∈ lead, isAsciiBlank c = true := fun c hc => List.mem_takeWhile_imp hc
    have hfirst : ∀ c ∈ first, isAsciiBlank c = false := fun c hc => by
      simpa using List.mem_takeWhile_imp hc
    have hrest : ∀ c ∈ rest.head?, isAsciiBlank c = true := fun c hc => by
      have hstop := List.head?_dropWhile_not (!isAsciiBlank ·) (cs.dropWhile isAsciiBlank)
      rw [Option.mem_def.mp hc] at hstop
      simpa using hstop
    have hne : first ≠ [] := by
      intro hempty
      have hall : cs.dropWhile isAsciiBlank = [] := by
        cases hstart : cs.dropWhile isAsciiBlank with
        | nil => rfl
        | cons c tail =>
          have hc := List.head?_dropWhile_not isAsciiBlank cs
          rw [hstart] at hc
          simp [first, hstart, show isAsciiBlank c = false by simpa using hc] at hempty
      have hnone : words cs = [] := by
        rw [← List.append_nil cs, words_append_of_isAsciiBlank (List.dropWhile_eq_nil_iff.mp hall)]
        rfl
      rw [hnone] at h
      cases h
    have hwords : words cs = first :: words rest := by
      conv_lhs => rw [hsplit]
      rw [List.append_assoc, words_append_of_isAsciiBlank hlead, words_append hfirst hne hrest]
    obtain ⟨rfl, hothers⟩ := List.cons.inj (h.symm.trans hwords)
    exact ⟨lead, rest, hsplit, hlead, hne, hfirst, hrest, hothers.symm⟩
  · rintro ⟨lead, rest, rfl, hlead, hne, hword, hrest, rfl⟩
    rw [List.append_assoc, words_append_of_isAsciiBlank hlead, words_append hword hne hrest]

/-! ### Lines -/

theorem dropReturn_of_notMem (hline : '\r' ∉ line) : dropReturn line = line := by
  rw [dropReturn, if_neg]
  simp only [beq_iff_eq]
  exact fun hlast => hline (List.mem_of_getLast? hlast)

theorem dropReturn_append_return (line : List Char) : dropReturn (line ++ ['\r']) = line := by
  simp [dropReturn]

theorem lines_append_cons (hline : '\n' ∉ line) :
    lines (String.ofList (line ++ '\n' :: rest)) =
      String.ofList (dropReturn line) :: lines (String.ofList rest) := by
  unfold lines
  rw [String.toList_ofList, String.toList_ofList, splitOn_append_cons, splitOn_eq _ line,
    List.splitOn_eq_singleton hline, List.singleton_append]
  cases hparts : splitOn '\n' rest with
  | nil =>
    rw [splitOn_eq] at hparts
    exact absurd hparts (List.splitOnP_ne_nil _ _)
  | cons part parts =>
    -- The last part, which may be unfinished, is one of the rest.
    dsimp only
    rw [List.dropLast_cons_of_ne_nil (List.cons_ne_nil _ _), List.getLast?_cons_cons, List.map_cons]
    split <;> rfl

theorem lines_of_notMem (hline : '\n' ∉ line) (hne : line ≠ []) :
    lines (String.ofList line) = [String.ofList line] := by
  unfold lines
  rw [String.toList_ofList, splitOn_eq, List.splitOn_eq_singleton hline]
  cases line with
  | nil => exact absurd rfl hne
  | cons c line => rfl

end ResponseCheck.Text
