import ResponseCheck.Path
import ResponseCheck.Proofs.Text.Parts

/-! A path can be read unless two dots meet in it, and its segments are then those of its parts. So
two paths that are joined by a dot can be read when each of them can, and no dot comes before or
after the dot between them. -/

namespace ResponseCheck

variable {raw first second : String} {segments : List Segment}

theorem Segment.parse_eq_ok_iff :
    Segment.parse raw = .ok segments ↔
      ¬ ['.', '.'] <:+: raw.toList ∧
        (Text.splitOn '.' raw.toList).map Segment.ofPart = segments := by
  rw [Segment.parse, ← Text.occursIn_iff]
  split
  · next hdots => simp [hdots]
  · next hdots => simp [hdots]

theorem Path.parse_eq_ok_iff {optional : Bool} {path : Path} :
    Path.parse optional raw = .ok path ↔
      ∃ segments, Segment.parse raw = .ok segments ∧ path = ⟨segments, optional⟩ := by
  rw [Path.parse]
  cases hparse : Segment.parse raw with
  | error mismatch => simp [bind, Except.bind]
  | ok segments => simp [bind, Except.bind, pure, Except.pure, eq_comm]

theorem toList_joined : (first ++ "." ++ second).toList = first.toList ++ '.' :: second.toList := by
  simp

/-- What a text of two parts around a dot is read as. -/
theorem Segment.parse_join_iff :
    Segment.parse (first ++ "." ++ second) = .ok segments ↔
      (∃ before after, Segment.parse first = .ok before ∧ Segment.parse second = .ok after ∧
        segments = before ++ after) ∧
      first.toList.getLast? ≠ some '.' ∧ second.toList.head? ≠ some '.' := by
  simp only [Segment.parse_eq_ok_iff, toList_joined, Text.pair_infix_append_cons_iff,
    Text.splitOn_append_cons, List.map_append]
  constructor
  · rintro ⟨hdots, rfl⟩
    obtain ⟨hfirst, hsecond, hend, hstart⟩ : _ ∧ _ ∧ _ ∧ _ := by simpa only [not_or] using hdots
    exact ⟨⟨_, _, ⟨hfirst, rfl⟩, ⟨hsecond, rfl⟩, rfl⟩, hend, hstart⟩
  · rintro ⟨⟨_, _, ⟨hfirst, rfl⟩, ⟨hsecond, rfl⟩, rfl⟩, hend, hstart⟩
    refine ⟨?_, rfl⟩
    rintro (hdots | hdots | hdots | hdots)
    · exact hfirst hdots
    · exact hsecond hdots
    · exact hend hdots
    · exact hstart hdots

/-- What a path of two parts around a dot is read as. -/
theorem Path.parse_join_iff {optional : Bool} {whole : Path} :
    Path.parse optional (first ++ "." ++ second) = .ok whole ↔
      (∃ before after, Path.parse optional first = .ok before ∧
        Path.parse optional second = .ok after ∧
        whole = ⟨before.segments ++ after.segments, optional⟩) ∧
      first.toList.getLast? ≠ some '.' ∧ second.toList.head? ≠ some '.' := by
  simp only [Path.parse_eq_ok_iff, Segment.parse_join_iff]
  constructor
  · rintro ⟨_, ⟨⟨before, after, hbefore, hafter, rfl⟩, hdots⟩, rfl⟩
    exact ⟨⟨_, _, ⟨before, hbefore, rfl⟩, ⟨after, hafter, rfl⟩, rfl⟩, hdots⟩
  · rintro ⟨⟨_, _, ⟨before, hbefore, rfl⟩, ⟨after, hafter, rfl⟩, rfl⟩, hdots⟩
    exact ⟨_, ⟨⟨before, after, hbefore, hafter, rfl⟩, hdots⟩, rfl⟩

end ResponseCheck
