import Mathlib.Data.Set.Function
import ResponseCheck.Proofs.Except
import ResponseCheck.Proofs.Path.Basic

/-!
# Texts of paths

The text of a path says everything about its segments. A text that can be read is the text of what
it is read as, and a list of segments is read back from its text if its keys cannot be mistaken:
they have no dots, are not spelled like wildcards, and are empty at the two ends only. So reading
and writing are inverse to each other between the texts without two dots in a row and these lists.
-/

namespace ResponseCheck

/-- Whether an empty part of a text stands between two dots. -/
def HasEmptyInnerPart (raw : String) : Prop := [] ∈ (raw.toList.splitOn '.').tail.dropLast

/-- The segments that are not mistaken for others when they are written: keys without dots that are
not spelled like a wildcard, and wildcards. -/
def Segment.Plain : Segment → Prop
  | .literal key => '.' ∉ key.toList ∧ key ≠ "*" ∧ key ≠ "?"
  | .wildcard _ => True

/-- The lists of segments that paths are read as. Only the first and the last key may be empty. -/
structure Segment.WellFormed (segments : List Segment) : Prop where
  ne_nil : segments ≠ []
  plain : ∀ segment ∈ segments, segment.Plain
  inner_nonempty : .literal "" ∉ segments.tail.dropLast

theorem hasEmptyInnerPart_iff {raw : String} :
    HasEmptyInnerPart raw ↔ ['.', '.'] <:+: raw.toList :=
  Text.pair_infix_iff.symm

namespace Segment

variable {raw : String} {part : List Char} {segment : Segment} {segments : List Segment}

/-! ### One segment -/

theorem text_ofPart (part : List Char) : (ofPart part).text = String.ofList part := by
  unfold ofPart
  split <;> rfl

theorem plain_ofPart (hpart : '.' ∉ part) : (ofPart part).Plain := by
  unfold ofPart
  split
  · trivial
  · trivial
  · next hall hone =>
    refine ⟨by rwa [String.toList_ofList], fun hkey => hall ?_, fun hkey => hone ?_⟩
    · exact String.ofList_injective hkey
    · exact String.ofList_injective hkey

/-- A part is read as an empty key only if it is empty. -/
theorem ofPart_eq_literal_empty_iff : ofPart part = .literal "" ↔ part = [] := by
  constructor
  · intro h
    have htext := congrArg Segment.text h
    rw [text_ofPart] at htext
    exact String.ofList_injective htext
  · rintro rfl
    rfl

theorem ofPart_toList_text (h : segment.Plain) : ofPart segment.text.toList = segment := by
  cases segment with
  | wildcard quantifier => cases quantifier <;> rfl
  | literal key =>
    obtain ⟨-, hall, hone⟩ := h
    unfold ofPart
    -- A key that is spelled like a wildcard would be read as one.
    split
    · next hkey => exact absurd (String.toList_inj.mp hkey) hall
    · next hkey => exact absurd (String.toList_inj.mp hkey) hone
    · exact congrArg Segment.literal String.ofList_toList

theorem dot_notMem_text (h : segment.Plain) : '.' ∉ segment.text.toList := by
  cases segment with
  | wildcard quantifier => cases quantifier <;> decide
  | literal key => exact h.1

/-! ### Lists of segments -/

theorem toList_join (segments : List Segment) :
    (join segments).toList =
      ['.'].intercalate (segments.map fun segment => segment.text.toList) := by
  rw [join, String.toList_intercalate, List.map_map]
  rfl

theorem join_map_ofPart (parts : List (List Char)) :
    join (parts.map ofPart) = String.ofList (['.'].intercalate parts) := by
  refine String.toList_inj.mp ?_
  have htexts : (fun part => (ofPart part).text.toList) = id :=
    funext fun part => by rw [text_ofPart, String.toList_ofList, id]
  rw [toList_join, List.map_map, Function.comp_def, htexts, List.map_id, String.toList_ofList]

/-- The text of plain segments has the texts of these segments as its parts. -/
theorem splitOn_join (hne : segments ≠ []) (hplain : ∀ segment ∈ segments, segment.Plain) :
    (join segments).toList.splitOn '.' = segments.map fun segment => segment.text.toList := by
  rw [toList_join]
  refine List.splitOn_intercalate '.' ?_ (by simpa using hne)
  intro text htext
  obtain ⟨segment, hmem, rfl⟩ := List.mem_map.mp htext
  exact dot_notMem_text (hplain segment hmem)

theorem map_ofPart_text (hplain : ∀ segment ∈ segments, segment.Plain) :
    (segments.map fun segment => segment.text.toList).map ofPart = segments := by
  rw [List.map_map]
  calc segments.map (ofPart ∘ fun segment => segment.text.toList)
    _ = segments.map id :=
      List.map_congr_left fun segment hmem => ofPart_toList_text (hplain segment hmem)
    _ = segments := List.map_id segments

theorem wellFormed_map_ofPart (h : ¬ HasEmptyInnerPart raw) :
    WellFormed ((raw.toList.splitOn '.').map ofPart) where
  ne_nil := by simp
  plain := by
    intro segment hmem
    obtain ⟨part, hpart, rfl⟩ := List.mem_map.mp hmem
    exact plain_ofPart (Text.notMem_of_mem_splitOn hpart)
  inner_nonempty := by
    intro hmem
    rw [← List.map_tail, ← List.map_dropLast] at hmem
    obtain ⟨part, hpart, hempty⟩ := List.mem_map.mp hmem
    obtain rfl := ofPart_eq_literal_empty_iff.mp hempty
    exact h hpart

theorem WellFormed.not_hasEmptyInnerPart (h : WellFormed segments) :
    ¬ HasEmptyInnerPart (join segments) := by
  intro hempty
  rw [HasEmptyInnerPart, splitOn_join h.ne_nil h.plain, ← List.map_tail,
    ← List.map_dropLast] at hempty
  obtain ⟨segment, hmem, htext⟩ := List.mem_map.mp hempty
  have hplain := h.plain segment (List.mem_of_mem_tail (List.mem_of_mem_dropLast hmem))
  -- The segment is read back from its text, and from an empty text only an empty key is.
  have hsegment : segment = .literal "" := by
    rw [← ofPart_toList_text hplain, htext]
    rfl
  exact h.inner_nonempty (hsegment ▸ hmem)

/-- A text is read as the well-formed segments whose text it is. -/
theorem parse_eq_ok_iff_join :
    parse raw = .ok segments ↔ join segments = raw ∧ WellFormed segments := by
  rw [parse_eq_ok_iff, ← hasEmptyInnerPart_iff, Text.splitOn_eq]
  constructor
  · rintro ⟨hinner, rfl⟩
    refine ⟨?_, wellFormed_map_ofPart hinner⟩
    rw [join_map_ofPart, List.intercalate_splitOn, String.ofList_toList]
  · rintro ⟨rfl, hsegments⟩
    refine ⟨hsegments.not_hasEmptyInnerPart, ?_⟩
    rw [splitOn_join hsegments.ne_nil hsegments.plain, map_ofPart_text hsegments.plain]

theorem parse_eq_error_iff {mismatch : Mismatch} :
    parse raw = .error mismatch ↔ mismatch = .invalidPath raw ∧ HasEmptyInnerPart raw := by
  rw [parse, hasEmptyInnerPart_iff, ← Text.occursIn_iff]
  split
  · next hdots => simp [hdots, eq_comm]
  · next hdots => simp [hdots]

end Segment

namespace Path

variable {optional : Bool} {raw : String}

theorem parse_eq_ok_iff_text {path : Path} :
    Path.parse optional raw = .ok path ↔
      path.text = raw ∧ path.optional = optional ∧ Segment.WellFormed path.segments := by
  rw [parse_eq_ok_iff]
  constructor
  · rintro ⟨segments, hparse, rfl⟩
    obtain ⟨htext, hsegments⟩ := Segment.parse_eq_ok_iff_join.mp hparse
    exact ⟨htext, rfl, hsegments⟩
  · rintro ⟨htext, rfl, hsegments⟩
    exact ⟨path.segments, Segment.parse_eq_ok_iff_join.mpr ⟨htext, hsegments⟩, rfl⟩

theorem parse_eq_error_iff {mismatch : Mismatch} :
    Path.parse optional raw = .error mismatch ↔
      mismatch = .invalidPath raw ∧ HasEmptyInnerPart raw := by
  rw [← Segment.parse_eq_error_iff, Path.parse, Except.bind_eq_error_iff]
  simp [pure, Except.pure]

end Path

/-- **Path texts are faithful.** A text cannot be read if it has an empty part between two dots,
that is, two dots in a row; this is the only error, and it carries the text. Any other text is read
as the one path with the given flag whose segments are well formed and whose text it is. So reading
is a bijection between the texts without two dots in a row and the well-formed lists of segments. -/
theorem path_text_faithful (optional : Bool) :
    (∀ raw mismatch, Path.parse optional raw = .error mismatch ↔
      mismatch = .invalidPath raw ∧ HasEmptyInnerPart raw) ∧
    (∀ raw, HasEmptyInnerPart raw ↔ ['.', '.'] <:+: raw.toList) ∧
    (∀ raw path, Path.parse optional raw = .ok path ↔
      path.text = raw ∧ path.optional = optional ∧ Segment.WellFormed path.segments) ∧
    Set.BijOn (Path.parse optional) {raw | ¬ ['.', '.'] <:+: raw.toList}
      {verdict | ∃ segments, Segment.WellFormed segments ∧ verdict = .ok ⟨segments, optional⟩} := by
  have hread (raw : String) (hdots : ¬ ['.', '.'] <:+: raw.toList) :
      ∃ path, Path.parse optional raw = .ok path := by
    cases hparse : Path.parse optional raw with
    | ok path => exact ⟨path, rfl⟩
    | error mismatch =>
      obtain ⟨-, hempty⟩ := Path.parse_eq_error_iff.mp hparse
      exact absurd (hasEmptyInnerPart_iff.mp hempty) hdots
  refine ⟨fun _ _ => Path.parse_eq_error_iff, fun _ => hasEmptyInnerPart_iff,
    fun _ _ => Path.parse_eq_ok_iff_text, ?_, ?_, ?_⟩
  · intro raw hdots
    obtain ⟨path, hparse⟩ := hread raw hdots
    obtain ⟨-, rfl, hsegments⟩ := Path.parse_eq_ok_iff_text.mp hparse
    exact ⟨path.segments, hsegments, hparse⟩
  · -- Texts that are read alike are the text of what they are read as.
    intro first hfirst second hsecond hsame
    obtain ⟨path, hparse⟩ := hread first hfirst
    obtain ⟨htext, -⟩ := Path.parse_eq_ok_iff_text.mp hparse
    obtain ⟨hother, -⟩ := Path.parse_eq_ok_iff_text.mp (hsame ▸ hparse)
    exact htext.symm.trans hother
  · rintro _ ⟨segments, hsegments, rfl⟩
    refine ⟨Segment.join segments, ?_, Path.parse_eq_ok_iff_text.mpr ⟨rfl, rfl, hsegments⟩⟩
    exact fun hdots => hsegments.not_hasEmptyInnerPart (hasEmptyInnerPart_iff.mpr hdots)

end ResponseCheck
