import DesiredState.Text.Blank
import DesiredState.Text.Cut
import DesiredState.Text.Decimal

/-!
# Numbers and separators in text

The characters that a written integer consists of, how it is read back, and
how a text that is put together around a separator falls apart again.
-/

namespace DesiredState
namespace Text

/-! ## Written integers -/

/-- The characters of a written integer: digits after an optional sign. -/
theorem toList_toString (n : Int) :
    (toString n).toList =
      if n < 0 then '-' :: Nat.toDigits 10 n.natAbs else Nat.toDigits 10 n.natAbs := by
  cases n with
  | ofNat m =>
      have hsign : ¬Int.ofNat m < 0 := by simp
      rw [if_neg hsign]
      exact Nat.toList_repr
  | negSucc m =>
      have hsign : Int.negSucc m < 0 := Int.negSucc_lt_zero m
      rw [if_pos hsign]
      change ("-" ++ Nat.repr (m + 1)).toList = _
      simp

theorem toList_toString_of_nonneg {n : Int} (h : 0 ≤ n) :
    (toString n).toList = Nat.toDigits 10 n.natAbs := by
  rw [toList_toString, if_neg (by omega)]

/-- A character that is no digit is not among the digits of a number. -/
theorem not_mem_toDigits {c : Char} (h : c.isDigit = false) (n : Nat) :
    c ∉ Nat.toDigits 10 n := by
  intro hmem
  rw [Nat.isDigit_of_mem_toDigits (by decide) (by decide) hmem] at h
  cases h

/-- Written integers have no characters but digits and the minus sign. -/
theorem not_mem_toString {c : Char} (hdigit : c.isDigit = false) (hsign : c ≠ '-')
    (n : Int) : c ∉ (toString n).toList := by
  rw [toList_toString]
  split
  · rw [List.mem_cons]
    rintro (heq | hmem)
    · exact hsign heq
    · exact not_mem_toDigits hdigit _ hmem
  · exact not_mem_toDigits hdigit _

/-- The digits of a number start with neither sign. -/
theorem integer?_toDigits (n : Nat) : integer? (Nat.toDigits 10 n) = some (n : Int) := by
  unfold integer?
  split
  · rename_i digits heq
    exact absurd (heq ▸ List.mem_cons_self) (not_mem_toDigits (c := '-') rfl n)
  · rename_i digits heq
    exact absurd (heq ▸ List.mem_cons_self) (not_mem_toDigits (c := '+') rfl n)
  · rw [natural?_toDigits]
    rfl

/-- A written integer is read back. -/
theorem readInt64_toString {n : Int} (h : fitsInt64 n = true) :
    readInt64 (toString n) = some n := by
  have hread : integer? (toString n).toList = some n := by
    rw [toList_toString]
    split
    · rw [integer?, natural?_toDigits]
      change some (-(n.natAbs : Int)) = some n
      rw [Option.some.injEq]
      omega
    · rw [integer?_toDigits, Option.some.injEq]
      omega
  rw [readInt64, hread, Option.filter_some, if_pos h]

theorem fitsInt64_iff {n : Int} :
    fitsInt64 n = true ↔ -9223372036854775808 ≤ n ∧ n ≤ 9223372036854775807 := by
  rw [fitsInt64, Bool.and_eq_true, decide_eq_true_iff, decide_eq_true_iff]
  rfl

theorem fitsInt64_of_readInt64 {text : String} {n : Int} (h : readInt64 text = some n) :
    fitsInt64 n = true :=
  (Option.filter_eq_some_iff.mp h).2

/-- A character that is neither a digit nor a sign spoils a number. -/
theorem integer?_eq_none_of_mem {c : Char} {chars : List Char} (hmem : c ∈ chars)
    (hdigit : c.isDigit = false) (hminus : c ≠ '-') (hplus : c ≠ '+') :
    integer? chars = none := by
  have hspoils : ∀ digits : List Char, c ∈ digits → natural? digits = none := by
    intro digits hc
    rw [natural?, if_neg]
    rintro ⟨-, hall⟩
    rw [List.all_eq_true.mp hall c hc] at hdigit
    cases hdigit
  unfold integer?
  split
  · rw [hspoils _ ((List.mem_cons.mp hmem).resolve_left hminus)]
    rfl
  · rw [hspoils _ ((List.mem_cons.mp hmem).resolve_left hplus)]
    rfl
  · rw [hspoils _ hmem]
    rfl

/-- What is read as a number consists of digits and a sign. -/
theorem not_mem_of_readInt64 {text : String} {n : Int} {c : Char}
    (h : readInt64 text = some n) (hdigit : c.isDigit = false) (hminus : c ≠ '-')
    (hplus : c ≠ '+') : c ∉ text.toList := by
  intro hmem
  rw [readInt64, integer?_eq_none_of_mem hmem hdigit hminus hplus] at h
  cases h

/-- Without a minus sign no negative number is spelled. -/
theorem nonneg_of_integer? {chars : List Char} {n : Int} (h : integer? chars = some n)
    (hsign : '-' ∉ chars) : 0 ≤ n := by
  unfold integer? at h
  split at h
  · exact absurd List.mem_cons_self hsign
  · obtain ⟨m, -, rfl⟩ := Option.map_eq_some_iff.mp h
    exact Int.natCast_nonneg m
  · obtain ⟨m, -, rfl⟩ := Option.map_eq_some_iff.mp h
    exact Int.natCast_nonneg m

theorem isBlank_of_isDigit {c : Char} (h : c.isDigit = true) : isBlank c = false := by
  have hrange : 48 ≤ c.toNat ∧ c.toNat ≤ 57 := by
    simpa [Char.isDigit, UInt32.le_iff_toNat_le] using h
  simp only [isBlank, Bool.or_eq_false_iff, Bool.and_eq_false_iff, decide_eq_false_iff_not,
    beq_eq_false_iff_ne]
  omega

/-- Characters of which none is blank are not trimmed. -/
theorem trimChars_of_not_blank {chars : List Char} (h : ∀ c ∈ chars, isBlank c = false) :
    trimChars chars = chars := by
  have hkept : ∀ kept : List Char, (∀ c ∈ kept, isBlank c = false) →
      kept.dropWhile isBlank = kept := by
    intro kept hkept
    cases kept with
    | nil => rfl
    | cons c rest => rw [List.dropWhile_cons, if_neg (by simp [hkept c])]
  rw [trimChars, hkept chars h, hkept _ fun c hc => h c (List.mem_reverse.mp hc),
    List.reverse_reverse]

/-- Trimming adds no characters. -/
theorem mem_of_mem_trimChars {c : Char} {chars : List Char} (h : c ∈ trimChars chars) :
    c ∈ chars := by
  rw [trimChars, List.mem_reverse] at h
  have hfront := (List.dropWhile_sublist isBlank).subset h
  exact (List.dropWhile_sublist isBlank).subset (List.mem_reverse.mp hfront)

/-- A written integer is not trimmed. -/
theorem trim_toString (n : Int) : trim (toString n) = toString n := by
  have hblank : ∀ c ∈ (toString n).toList, isBlank c = false := by
    intro c hc
    by_cases hdigit : c.isDigit = true
    · exact isBlank_of_isDigit hdigit
    · by_cases hsign : c = '-'
      · subst hsign
        rfl
      · exact absurd hc (not_mem_toString (by simpa using hdigit) hsign n)
  rw [trim, trimChars_of_not_blank hblank, String.ofList_toList]

/-! ## Separators -/

/-- Without the separator there is nothing to cut. -/
theorem cutLastChars_eq_none {separator : Char} {chars : List Char}
    (h : separator ∉ chars) : cutLastChars separator chars = none := by
  induction chars with
  | nil => rfl
  | cons c rest ih =>
      obtain ⟨hne, hrest⟩ := not_or.mp (mt List.mem_cons.mpr h)
      rw [cutLastChars, ih hrest]
      exact if_neg (Ne.symm hne)

/-- A tail without the separator stays with what comes after the last one. -/
theorem cutLastChars_append {separator : Char} {tail : List Char}
    (h : separator ∉ tail) (chars : List Char) :
    cutLastChars separator (chars ++ tail) =
      (cutLastChars separator chars).map fun cut => (cut.1, cut.2 ++ tail) := by
  induction chars with
  | nil => exact cutLastChars_eq_none h
  | cons c rest ih =>
      rw [List.cons_append, cutLastChars, cutLastChars, ih]
      cases cutLastChars separator rest with
      | some cut => rfl
      | none =>
          by_cases hc : c = separator
          · simp [hc]
          · simp [hc]

/-- Two texts put together around a separator fall apart at the last one. -/
theorem cutLastChars_append_cons {separator : Char} {after : List Char}
    (h : separator ∉ after) (before : List Char) :
    cutLastChars separator (before ++ separator :: after) = some (before, after) := by
  induction before with
  | nil =>
      rw [List.nil_append, cutLastChars, cutLastChars_eq_none h]
      exact if_pos rfl
  | cons c rest ih =>
      rw [List.cons_append, cutLastChars, ih]

/-- A text that is cut at its last separator loses nothing but that separator. -/
theorem toList_of_cutLast {separator : Char} {text before after : String}
    (h : cutLast separator text = some (before, after)) :
    text.toList = before.toList ++ separator :: after.toList := by
  obtain ⟨⟨front, back⟩, hcut, hpair⟩ := Option.map_eq_some_iff.mp h
  obtain ⟨rfl, rfl⟩ := Prod.mk.inj hpair
  rw [String.toList_ofList, String.toList_ofList, append_of_cutLastChars hcut]

/-- Two texts put together around a separator fall apart at the first one. -/
theorem cutFirstChars_append_cons {separator : Char} {before : List Char}
    (h : separator ∉ before) (after : List Char) :
    cutFirstChars separator (before ++ separator :: after) = some (before, after) := by
  induction before with
  | nil =>
      rw [List.nil_append, cutFirstChars]
      exact if_pos rfl
  | cons c rest ih =>
      obtain ⟨hne, hrest⟩ := not_or.mp (mt List.mem_cons.mpr h)
      rw [List.cons_append, cutFirstChars, if_neg (Ne.symm hne), ih hrest]
      rfl

/-- What comes before the first separator does not have it. -/
theorem not_mem_of_cutFirstChars {separator : Char} {chars before after : List Char}
    (h : cutFirstChars separator chars = some (before, after)) : separator ∉ before := by
  induction chars generalizing before with
  | nil => cases h
  | cons c rest ih =>
      rw [cutFirstChars] at h
      split at h
      · obtain ⟨rfl, -⟩ := Prod.mk.inj (Option.some.inj h)
        exact List.not_mem_nil
      · rename_i hne
        obtain ⟨⟨front, back⟩, hcut, hpair⟩ := Option.map_eq_some_iff.mp h
        obtain ⟨rfl, rfl⟩ := Prod.mk.inj hpair
        rw [List.mem_cons]
        rintro (rfl | hmem)
        · exact hne rfl
        · exact ih hcut hmem

/-- A tail without the separator is part of the last segment. -/
theorem lastSegment_append {separator : Char} {tail : List Char}
    (h : separator ∉ tail) (chars : List Char) :
    lastSegment separator (chars ++ tail) = lastSegment separator chars ++ tail := by
  unfold lastSegment
  rw [cutLastChars_append h]
  cases cutLastChars separator chars <;> rfl

end Text
end DesiredState
