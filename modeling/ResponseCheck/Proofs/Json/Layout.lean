import ResponseCheck.Json.Printer

/-!
# Layouts of JSON text

A value can be written with blanks between its parts. A layout says which blanks: those in front of
items, entries and closing brackets, by depth, and those behind a colon. The text on one line and
the indented text are the texts of two layouts.
-/

namespace ResponseCheck.Json

/-- The characters that may stand between the parts of a value. -/
def IsBlankChar (c : Char) : Prop := c ∈ [' ', '\n', '\t', '\r']

/-- The blanks between the parts of a value. -/
structure Layout where
  /-- In front of an item or an entry that is inside of some containers, and of the bracket that
  closes a container inside of some others. -/
  gap : Nat → List Char
  afterColon : List Char
  gap_blank : ∀ depth, ∀ c ∈ gap depth, IsBlankChar c
  afterColon_blank : ∀ c ∈ afterColon, IsBlankChar c

namespace Layout

/-- No blanks. -/
def oneLine : Layout where
  gap _ := []
  afterColon := []
  gap_blank _ := by simp
  afterColon_blank := by simp

/-- One item or entry per line. -/
def indented : Layout where
  gap := newline
  afterColon := [' ']
  gap_blank depth c hc := by
    rcases List.mem_cons.mp hc with rfl | hc
    · simp [IsBlankChar]
    · rw [(List.mem_replicate.mp hc).2]
      simp [IsBlankChar]
  afterColon_blank := by simp [IsBlankChar]

mutual

/-- The characters of a value in a layout, inside of `depth` containers. -/
def spell (layout : Layout) (depth : Nat) : Json → List Char
  | .arr [] => ['[', ']']
  | .arr (v :: rest) =>
    '[' :: (layout.gap (depth + 1) ++ spell layout (depth + 1) v ++ spellItems layout depth rest)
  | .obj [] => ['\x7b', '\x7d']
  | .obj ((name, v) :: rest) =>
    '\x7b' :: (layout.gap (depth + 1) ++ quote name ++ ':' :: layout.afterColon
      ++ spell layout (depth + 1) v ++ spellEntries layout depth rest)
  | .null => compactChars .null
  | .bool b => compactChars (.bool b)
  | .num n => n.chars
  | .str s => quote s

/-- The items after the first one, and the closing bracket. -/
def spellItems (layout : Layout) (depth : Nat) : List Json → List Char
  | [] => layout.gap depth ++ [']']
  | v :: rest =>
    ',' :: (layout.gap (depth + 1) ++ spell layout (depth + 1) v ++ spellItems layout depth rest)

/-- The entries after the first one, and the closing brace. -/
def spellEntries (layout : Layout) (depth : Nat) : List (String × Json) → List Char
  | [] => layout.gap depth ++ ['\x7d']
  | (name, v) :: rest =>
    ',' :: (layout.gap (depth + 1) ++ quote name ++ ':' :: layout.afterColon
      ++ spell layout (depth + 1) v ++ spellEntries layout depth rest)

end

end Layout

open Layout

mutual

/-- The text on one line has no blanks, at any depth. -/
theorem compactChars_eq_spell (depth : Nat) : ∀ v : Json, compactChars v = oneLine.spell depth v
  | .null | .num _ | .str _ => by simp only [compactChars, spell]
  | .bool _ => by rw [spell]
  | .arr [] | .obj [] => by simp only [compactChars, spell]
  | .arr (v :: rest) => by
    rw [compactChars, spell, compactChars_eq_spell (depth + 1) v,
      compactItems_eq_spellItems depth rest]
    rfl
  | .obj ((_, v) :: rest) => by
    rw [compactChars, spell, compactChars_eq_spell (depth + 1) v,
      compactEntries_eq_spellEntries depth rest]
    simp [oneLine]

theorem compactItems_eq_spellItems (depth : Nat) :
    ∀ items : List Json, compactItems items = oneLine.spellItems depth items
  | [] => rfl
  | v :: rest => by
    rw [compactItems, spellItems, compactChars_eq_spell (depth + 1) v,
      compactItems_eq_spellItems depth rest]
    rfl

theorem compactEntries_eq_spellEntries (depth : Nat) :
    ∀ entries : List (String × Json), compactEntries entries = oneLine.spellEntries depth entries
  | [] => rfl
  | (_, v) :: rest => by
    rw [compactEntries, spellEntries, compactChars_eq_spell (depth + 1) v,
      compactEntries_eq_spellEntries depth rest]
    simp [oneLine]

end

mutual

/-- The indented text has a line for each item and entry, and a blank behind each colon. -/
theorem prettyChars_eq_spell (depth : Nat) :
    ∀ v : Json, prettyChars depth v = indented.spell depth v
  | .null | .bool _ | .num _ | .str _ => by simp only [prettyChars, spell]
  | .arr [] | .obj [] => by simp only [prettyChars, spell]
  | .arr (v :: rest) => by
    rw [prettyChars, spell, prettyChars_eq_spell (depth + 1) v,
      prettyItems_eq_spellItems depth rest]
    rfl
  | .obj ((_, v) :: rest) => by
    rw [prettyChars, spell, prettyChars_eq_spell (depth + 1) v,
      prettyEntries_eq_spellEntries depth rest]
    rfl

theorem prettyItems_eq_spellItems (depth : Nat) :
    ∀ items : List Json, prettyItems depth items = indented.spellItems depth items
  | [] => rfl
  | v :: rest => by
    rw [prettyItems, spellItems, prettyChars_eq_spell (depth + 1) v,
      prettyItems_eq_spellItems depth rest]
    rfl

theorem prettyEntries_eq_spellEntries (depth : Nat) :
    ∀ entries : List (String × Json),
      prettyEntries depth entries = indented.spellEntries depth entries
  | [] => rfl
  | (_, v) :: rest => by
    rw [prettyEntries, spellEntries, prettyChars_eq_spell (depth + 1) v,
      prettyEntries_eq_spellEntries depth rest]
    rfl

end

end ResponseCheck.Json
