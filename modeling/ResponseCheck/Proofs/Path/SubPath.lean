import ResponseCheck.Proofs.Path.Encoding

/-! The path that is left after some segments of a path needs no reading of its own: it is what its
text would be read as. Its text is the end of the text of the path, after one of the dots. -/

namespace ResponseCheck

theorem Segment.WellFormed.drop {segments : List Segment} {count : Nat}
    (h : WellFormed segments) (hne : segments.drop count ≠ []) :
    WellFormed (segments.drop count) where
  ne_nil := hne
  plain := fun segment hmem => h.plain segment (List.mem_of_mem_drop hmem)
  inner_nonempty := by
    -- What is inner to the end of a list is inner to the whole list.
    have hinner : (segments.drop count).tail.dropLast = segments.tail.dropLast.drop count := by
      rw [List.tail_drop, ← List.drop_tail, List.dropLast_drop_eq_drop_dropLast]
    rw [hinner]
    exact fun hmem => h.inner_nonempty (List.mem_of_mem_drop hmem)

theorem Segment.join_append {before after : List Segment} (hbefore : before ≠ [])
    (hafter : after ≠ []) : join (before ++ after) = join before ++ "." ++ join after := by
  rw [join, List.map_append, String.intercalate_append_of_ne_nil (by simpa using hbefore)
    (by simpa using hafter)]
  rfl

namespace Path

variable {optional : Bool} {raw : String} {path : Path} {index : Nat}

theorem subPath_subPath (path : Path) (i j : Nat) :
    (path.subPath i).subPath j = path.subPath (i + j + 1) := by
  have hcount : i + 1 + (j + 1) = i + j + 1 + 1 := by omega
  simp only [subPath, List.drop_drop, hcount]

/-- What is left after several steps is left after one step. -/
theorem exists_foldl_subPath_eq {indices : List Nat} (hne : indices ≠ []) (path : Path) :
    ∃ index, indices.foldl subPath path = path.subPath index := by
  induction indices generalizing path with
  | nil => exact absurd rfl hne
  | cons first rest ih =>
    -- The first step is put together with the one that the others come to, if there are any.
    rw [List.foldl_cons]
    by_cases hrest : rest = []
    · exact ⟨first, by rw [hrest, List.foldl_nil]⟩
    · obtain ⟨index, hindex⟩ := ih hrest (path.subPath first)
      exact ⟨first + index + 1, by rw [hindex, subPath_subPath]⟩

/-- What is left of a path that was read is what its own text is read as. -/
theorem parse_text_subPath (hparse : Path.parse optional raw = .ok path)
    (hne : (path.subPath index).segments ≠ []) :
    Path.parse optional (path.subPath index).text = .ok (path.subPath index) := by
  obtain ⟨-, hoptional, hsegments⟩ := parse_eq_ok_iff_text.mp hparse
  exact parse_eq_ok_iff_text.mpr ⟨rfl, hoptional, hsegments.drop hne⟩

/-- The text of what is left comes after the dot behind the segments that are gone. -/
theorem text_eq_append_text_subPath (hne : (path.subPath index).segments ≠ []) :
    path.text =
      Segment.join (path.segments.take (index + 1)) ++ "." ++ (path.subPath index).text := by
  have hbefore : path.segments.take (index + 1) ≠ [] := by
    intro hnil
    have hsegments : path.segments = [] := by simpa using hnil
    exact hne (by simp [subPath, hsegments])
  calc path.text
    _ = Segment.join (path.segments.take (index + 1) ++ path.segments.drop (index + 1)) := by
      rw [List.take_append_drop, text]
    _ = _ := Segment.join_append hbefore hne

end Path

end ResponseCheck
