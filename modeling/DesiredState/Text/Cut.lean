/-!
# Cutting text at a separator

A text is cut in two at the first or at the last occurrence of a character, or
into all of its segments.  The cuts are defined on character lists and carried
over to strings.
-/

namespace DesiredState
namespace Text

/-- The characters before and after the first separator. -/
def cutFirstChars (separator : Char) : List Char → Option (List Char × List Char)
  | [] => none
  | c :: rest =>
      if c = separator then
        some ([], rest)
      else
        (cutFirstChars separator rest).map fun (before, after) => (c :: before, after)

/-- The characters before and after the last separator. -/
def cutLastChars (separator : Char) : List Char → Option (List Char × List Char)
  | [] => none
  | c :: rest =>
      match cutLastChars separator rest with
      | some (before, after) => some (c :: before, after)
      | none => if c = separator then some ([], rest) else none

/-- The text before and after the first separator. -/
def cutFirst (separator : Char) (text : String) : Option (String × String) :=
  (cutFirstChars separator text.toList).map fun (before, after) =>
    (String.ofList before, String.ofList after)

/-- The text before and after the last separator. -/
def cutLast (separator : Char) (text : String) : Option (String × String) :=
  (cutLastChars separator text.toList).map fun (before, after) =>
    (String.ofList before, String.ofList after)

/-- The characters after the last separator, or all of them without one. -/
def lastSegment (separator : Char) (chars : List Char) : List Char :=
  match cutLastChars separator chars with
  | some (_, after) => after
  | none => chars

/-- The segments of some characters between the separators; there is one more
of them than separators. -/
def segments (separator : Char) : List Char → List (List Char)
  | [] => [[]]
  | c :: rest =>
      if c = separator then
        [] :: segments separator rest
      else
        match segments separator rest with
        | [] => [[c]]
        | first :: others => (c :: first) :: others

/-- A cut at the last separator loses nothing but that separator. -/
theorem append_of_cutLastChars {separator : Char} {chars before after : List Char}
    (h : cutLastChars separator chars = some (before, after)) :
    before ++ separator :: after = chars := by
  induction chars generalizing before after with
  | nil => simp [cutLastChars] at h
  | cons c rest ih =>
      cases hrest : cutLastChars separator rest with
      | some cut =>
          obtain ⟨front, back⟩ := cut
          simp only [cutLastChars, hrest, Option.some.injEq, Prod.mk.injEq] at h
          obtain ⟨rfl, rfl⟩ := h
          rw [List.cons_append, ih hrest]
      | none =>
          by_cases hc : c = separator
          · simp only [cutLastChars, hrest, hc, if_true, Option.some.injEq,
              Prod.mk.injEq] at h
            rw [← h.1, ← h.2, hc, List.nil_append]
          · simp [cutLastChars, hrest, hc] at h

end Text
end DesiredState
