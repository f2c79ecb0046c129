import ResponseCheck.Proofs.Text.Blank

/-! A line ends with LF or CRLF. The last one may be unfinished; it is a line if it is not empty,
and then a carriage return at its end belongs to it. -/

namespace ResponseCheck.Text

/-- The lines of a text. -/
inductive HasLines : List Char → List (List Char) → Prop
  | nil : HasLines [] []
  | unfinished {line : List Char} (hline : '\n' ∉ line) (hne : line ≠ []) : HasLines line [line]
  | lf {line rest : List Char} {lines : List (List Char)} (hline : '\n' ∉ line)
      (hreturn : line.getLast? ≠ some '\r') (hrest : HasLines rest lines) :
      HasLines (line ++ '\n' :: rest) (line :: lines)
  | crlf {line rest : List Char} {lines : List (List Char)} (hline : '\n' ∉ line)
      (hrest : HasLines rest lines) : HasLines (line ++ '\r' :: '\n' :: rest) (line :: lines)

variable {cs : List Char} {parts : List (List Char)}

theorem exists_hasLines (cs : List Char) : ∃ parts, HasLines cs parts := by
  -- The first line feed ends the first line, and what is behind it is shorter.
  induction hlength : cs.length using Nat.strongRecOn generalizing cs with
  | ind n ih =>
    by_cases hfeed : '\n' ∈ cs
    · obtain ⟨line, rest, rfl, hline⟩ := List.eq_append_cons_of_mem hfeed
      have hshorter : rest.length < n := by
        rw [← hlength, List.length_append, List.length_cons]
        omega
      obtain ⟨parts, hparts⟩ := ih rest.length hshorter rest rfl
      -- One carriage return before the line feed belongs to the line end.
      by_cases hreturn : line.getLast? = some '\r'
      · obtain ⟨front, rfl⟩ := List.getLast?_eq_some_iff.mp hreturn
        have hfront : '\n' ∉ front := fun h => hline (List.mem_append_left _ h)
        rw [List.append_assoc, List.singleton_append]
        exact ⟨_, .crlf hfront hparts⟩
      · exact ⟨_, .lf hline hreturn hparts⟩
    · by_cases hempty : cs = []
      · exact ⟨[], hempty ▸ .nil⟩
      · exact ⟨[cs], .unfinished hfeed hempty⟩

theorem HasLines.lines_eq (h : HasLines cs parts) :
    lines (String.ofList cs) = parts.map String.ofList := by
  induction h with
  | nil => rfl
  | unfinished hline hne => exact lines_of_notMem hline hne
  | @lf line rest parts hline hreturn _ ih =>
    have hkept : dropReturn line = line := by
      rw [dropReturn, if_neg (by simpa using hreturn)]
    rw [lines_append_cons hline, hkept, ih, List.map_cons]
  | @crlf line rest parts hline _ ih =>
    have hchars : line ++ '\r' :: '\n' :: rest = (line ++ ['\r']) ++ '\n' :: rest := by simp
    rw [hchars, lines_append_cons (by simpa using hline), dropReturn_append_return, ih,
      List.map_cons]

/-- A text is split into its lines. -/
theorem lines_eq_iff : lines (String.ofList cs) = parts.map String.ofList ↔ HasLines cs parts := by
  constructor
  · intro h
    obtain ⟨parts', hparts⟩ := exists_hasLines cs
    have hsame : parts'.map String.ofList = parts.map String.ofList := hparts.lines_eq.symm.trans h
    have hinjective : Function.Injective String.ofList := fun _ _ => String.ofList_inj.mp
    rwa [← List.map_injective_iff.mpr hinjective hsame]
  · exact HasLines.lines_eq

end ResponseCheck.Text
