import DesiredState.Json.Reader

/-!
# Layouts of JSON texts

The compact and the indented text of a document differ in the blanks between
its tokens only.  A `Layout` says which blanks are put where, and
`Layout.spell` writes a document down with them, so that what holds of every
layout holds of both texts.

* `Layout.Blank` — a layout puts nothing but blanks between tokens;
* `tight_spell` — the compact text is laid out without blanks;
* `indented_spell` — the indented text has a line for each item and member.
-/

namespace DesiredState
namespace Json

/-- The blanks between the tokens of a text. -/
structure Layout where
  /-- What stands before an item or member, and before a closing bracket, by the
  number of brackets around it. -/
  gap : Nat → List Char
  /-- What stands after a colon. -/
  afterColon : List Char

namespace Layout

/-- No blanks at all. -/
def tight : Layout := ⟨fun _ => [], []⟩

/-- A line for each item and member, with two blanks for each level of nesting. -/
def indented : Layout := ⟨fun depth => '\n' :: List.replicate (2 * depth) ' ', [' ']⟩

/-- Nothing but blanks is put between tokens. -/
structure Blank (layout : Layout) : Prop where
  gap : ∀ depth, ∀ c ∈ layout.gap depth, isSpace c = true
  afterColon : ∀ c ∈ layout.afterColon, isSpace c = true

mutual

/-- The characters of a document within some brackets. -/
def spell (layout : Layout) (depth : Nat) : Json → List Char
  | .array [] => ['[', ']']
  | .array (item :: rest) =>
      '[' :: (layout.gap (depth + 1) ++ (spellItems layout (depth + 1) (item :: rest) ++
        (layout.gap depth ++ [']'])))
  | .object [] => ['\x7b', '\x7d']
  | .object (member :: rest) =>
      '\x7b' :: (layout.gap (depth + 1) ++ (spellMembers layout (depth + 1) (member :: rest) ++
        (layout.gap depth ++ ['\x7d'])))
  | scalar => (scalarText scalar).toList

/-- The items of an array, from the first one to the end of the last one. -/
def spellItems (layout : Layout) (depth : Nat) : List Json → List Char
  | [] => []
  | [item] => spell layout depth item
  | item :: rest =>
      spell layout depth item ++ ',' :: (layout.gap depth ++ spellItems layout depth rest)

/-- The members of an object, from the first name to the end of the last value. -/
def spellMembers (layout : Layout) (depth : Nat) : List (String × Json) → List Char
  | [] => []
  | [(name, value)] =>
      (quote name).toList ++ ':' :: (layout.afterColon ++ spell layout depth value)
  | (name, value) :: rest =>
      (quote name).toList ++ ':' :: (layout.afterColon ++ (spell layout depth value ++
        ',' :: (layout.gap depth ++ spellMembers layout depth rest)))

end

theorem blank_tight : tight.Blank where
  gap := fun _ => List.forall_mem_nil _
  afterColon := List.forall_mem_nil _

theorem blank_indented : indented.Blank where
  gap := by
    intro depth c hc
    rcases List.mem_cons.mp hc with rfl | hindent
    · rfl
    · obtain ⟨-, rfl⟩ := List.mem_replicate.mp hindent
      rfl
  afterColon := List.forall_mem_singleton.mpr rfl

@[simp] theorem gap_tight (depth : Nat) : tight.gap depth = [] :=
  rfl

@[simp] theorem afterColon_tight : tight.afterColon = [] :=
  rfl

@[simp] theorem toList_newline (depth : Nat) : (newline depth).toList = indented.gap depth :=
  String.toList_ofList

@[simp] theorem afterColon_indented : indented.afterColon = [' '] :=
  rfl

/-! ## The compact text -/

mutual

/-- The compact text is laid out without blanks. -/
theorem tight_spell (depth : Nat) : (document : Json) →
    tight.spell depth document = document.compact.toList
  | .null | .flag _ | .int _ | .real _ | .text _ | .unreadable => rfl
  | .array [] => rfl
  | .array (item :: rest) => by
      simp [spell, compact, tight_spellItems (depth + 1) (item :: rest)]
  | .object [] => rfl
  | .object (member :: rest) => by
      simp [spell, compact, tight_spellMembers (depth + 1) (member :: rest)]

theorem tight_spellItems (depth : Nat) : (items : List Json) →
    tight.spellItems depth items = (compactItems items).toList
  | [] => rfl
  | [item] => tight_spell depth item
  | item :: next :: rest => by
      simp [spellItems, compactItems, tight_spell depth item,
        tight_spellItems depth (next :: rest)]

theorem tight_spellMembers (depth : Nat) : (members : List (String × Json)) →
    tight.spellMembers depth members = (compactMembers members).toList
  | [] => rfl
  | [(name, value)] => by
      simp [spellMembers, compactMembers, tight_spell depth value]
  | (name, value) :: next :: rest => by
      simp [spellMembers, compactMembers, tight_spell depth value,
        tight_spellMembers depth (next :: rest)]

end

/-! ## The indented text -/

mutual

/-- The indented text has a line for each item and member. -/
theorem indented_spell (depth : Nat) : (document : Json) →
    indented.spell depth document = (document.prettyAt depth).toList
  | .null | .flag _ | .int _ | .real _ | .text _ | .unreadable => rfl
  | .array [] => by simp [spell, prettyAt]
  | .array (item :: rest) => by
      have hitems := indented_spellItems (depth + 1) (item :: rest) (List.cons_ne_nil _ _)
      simp [spell, prettyAt, ← hitems]
  | .object [] => by simp [spell, prettyAt]
  | .object (member :: rest) => by
      have hmembers := indented_spellMembers (depth + 1) (member :: rest) (List.cons_ne_nil _ _)
      simp [spell, prettyAt, ← hmembers]

theorem indented_spellItems (depth : Nat) : (items : List Json) → items ≠ [] →
    indented.gap depth ++ indented.spellItems depth items = (prettyItems depth items).toList
  | [], h => absurd rfl h
  | [item], _ => by simp [spellItems, prettyItems, indented_spell depth item]
  | item :: next :: rest, _ => by
      have hrest := indented_spellItems depth (next :: rest) (List.cons_ne_nil _ _)
      simp [spellItems, prettyItems, indented_spell depth item, ← hrest]

theorem indented_spellMembers (depth : Nat) : (members : List (String × Json)) →
    members ≠ [] →
      indented.gap depth ++ indented.spellMembers depth members =
        (prettyMembers depth members).toList
  | [], h => absurd rfl h
  | [(name, value)], _ => by
      simp [spellMembers, prettyMembers, indented_spell depth value]
  | (name, value) :: next :: rest, _ => by
      have hrest := indented_spellMembers depth (next :: rest) (List.cons_ne_nil _ _)
      simp [spellMembers, prettyMembers, indented_spell depth value, ← hrest]

end

end Layout
end Json
end DesiredState
