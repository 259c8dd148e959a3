import DesiredState.Proofs.Json.Layout
import DesiredState.Proofs.Text

/-!
# Reading what is written

A document that a text can hold is read back from every layout of it, and with
that from its compact and from its indented text.

* `stringUnits_escapeChar`, `string?_escaped` — a character is one unit of a
  string, however it is escaped, and so a written string is read back;
* `number?_toString` — a written integer is read back where nothing goes on
  with it;
* `Legible` — the documents that a text can hold and give back: they have a
  value everywhere, and no more containers are open at once than allowed;
* `value?_spell` — such a document is read back from any layout, in front of
  any text that does not go on with a number;
* `read?_compact`, `read?_pretty` — the two texts of a whole document.
-/

namespace DesiredState
namespace Json

/-! ## Strings -/

/-- A one-letter escape is one unit. -/
theorem stringUnits_short {letter c : Char} (h : shortEscape? letter = some c)
    (rest : List Char) :
    stringUnits ('\\' :: letter :: rest) =
      (stringUnits rest).map fun read => (c.toNat :: read.1, read.2) := by
  have hletter : letter ≠ 'u' := by
    rintro rfl
    cases h
  rw [stringUnits.eq_4 _ _ (by simp [hletter]), h]
  cases stringUnits rest <;> rfl

/-- The escape of a control character is one unit. -/
theorem stringUnits_control {code : Nat} (h : code < 0x20) (rest : List Char) :
    stringUnits ('\\' :: 'u' :: '0' :: '0' :: (controlDigits code ++ rest)) =
      (stringUnits rest).map fun read => (code :: read.1, read.2) := by
  have hdigits : ∀ code < 0x20,
      Text.hexNumber? ['0', '0', Nat.digitChar (code / 16), Nat.digitChar (code % 16)] =
        some code := by decide
  rw [controlDigits, List.cons_append, List.singleton_append, stringUnits, hdigits code h]
  cases stringUnits rest <;> rfl

/-- Any other character is one unit by itself. -/
theorem stringUnits_plain {c : Char} (hquote : c ≠ '"') (hslash : c ≠ '\\')
    (hcontrol : ¬c.toNat < 0x20) (rest : List Char) :
    stringUnits (c :: rest) =
      (stringUnits rest).map fun read => (c.toNat :: read.1, read.2) := by
  rw [stringUnits.eq_5 _ _ hquote (by simp [hslash]) (by simp [hslash]), if_neg hcontrol]
  cases stringUnits rest <;> rfl

/-- A character is one unit, however it is written. -/
theorem stringUnits_escapeChar (c : Char) (rest : List Char) :
    stringUnits (escapeChar c ++ rest) =
      (stringUnits rest).map fun read => (c.toNat :: read.1, read.2) := by
  unfold escapeChar
  split
  · subst_vars; exact stringUnits_short rfl rest
  split
  · subst_vars; exact stringUnits_short rfl rest
  split
  · subst_vars; exact stringUnits_short rfl rest
  split
  · subst_vars; exact stringUnits_short rfl rest
  split
  · subst_vars; exact stringUnits_short rfl rest
  split
  · subst_vars; exact stringUnits_short rfl rest
  split
  · subst_vars; exact stringUnits_short rfl rest
  split
  · rename_i hcontrol
    exact stringUnits_control hcontrol rest
  · rename_i hquote hslash _ _ _ _ _ hcontrol
    exact stringUnits_plain hquote hslash hcontrol rest

theorem stringUnits_escaped (content : List Char) (rest : List Char) :
    stringUnits (content.flatMap escapeChar ++ '"' :: rest) =
      some (content.map Char.toNat, rest) := by
  induction content with
  | nil => rfl
  | cons c content ih =>
      rw [List.flatMap_cons, List.append_assoc, stringUnits_escapeChar, ih]
      rfl

/-- A character is no surrogate. -/
theorem not_surrogate (c : Char) :
    isHighSurrogate c.toNat = false ∧ isLowSurrogate c.toNat = false := by
  have hvalid : c.toNat.isValidChar := c.valid
  simp only [Nat.isValidChar] at hvalid
  simp only [isHighSurrogate, isLowSurrogate, Bool.and_eq_false_iff, decide_eq_false_iff_not]
  omega

/-- The units of some characters spell them. -/
theorem charsOfUnits?_toNat : (content : List Char) →
    charsOfUnits? (content.map Char.toNat) = some content
  | [] => rfl
  | [c] => by
      simp [charsOfUnits?, not_surrogate c]
  | c :: next :: rest => by
      have hrest := charsOfUnits?_toNat (next :: rest)
      simp only [List.map_cons] at hrest ⊢
      simp [charsOfUnits?, not_surrogate c, hrest]

/-- A written string is read back. -/
theorem string?_escaped (content : String) (rest : List Char) :
    string? (content.toList.flatMap escapeChar ++ '"' :: rest) = some (some content, rest) := by
  rw [string?, stringUnits_escaped, Option.map_some]
  dsimp only
  rw [charsOfUnits?_toNat, Option.map_some, String.ofList_toList]

theorem toList_quote (content : String) :
    (quote content).toList = '"' :: (content.toList.flatMap escapeChar ++ ['"']) := by
  simp [quote]

/-! ## Numbers -/

/-- A text does not go on with a number that ends before it. -/
def EndsNumber (rest : List Char) : Prop :=
  ∀ c ∈ rest.head?, c.isDigit = false ∧ c ≠ '.' ∧ c ≠ 'e' ∧ c ≠ 'E'

/-- The digits of a number but zero start with no zero. -/
theorem head?_toDigits {n : Nat} (h : n ≠ 0) : (Nat.toDigits 10 n).head? ≠ some '0' := by
  induction n using Nat.strongRecOn with
  | _ n ih =>
    rw [Nat.toDigits_eq_if (by decide)]
    split
    · rename_i hsmall
      have hall : ∀ n < 10, n ≠ 0 → Nat.digitChar n ≠ '0' := by decide
      simpa using hall n hsmall h
    · obtain ⟨digit, digits, hdigits⟩ :=
        List.exists_cons_of_ne_nil (Nat.toDigits_ne_nil (b := 10) (n := n / 10))
      have hhead := ih (n / 10) (by omega) (by omega)
      rw [hdigits] at hhead ⊢
      exact hhead

theorem digits?_toDigits (n : Nat) {rest : List Char} (h : EndsNumber rest) :
    digits? (Nat.toDigits 10 n ++ rest) = some (Nat.toDigits 10 n, rest) := by
  have hdigits : ∀ c ∈ Nat.toDigits 10 n, c.isDigit = true := fun c hc =>
    Nat.isDigit_of_mem_toDigits (by decide) (by decide) hc
  have hrest : rest.takeWhile Char.isDigit = [] ∧ rest.dropWhile Char.isDigit = rest := by
    cases rest with
    | nil => exact ⟨rfl, rfl⟩
    | cons c rest =>
        have hc := (h c rfl).1
        simp [hc]
  unfold digits?
  rw [List.takeWhile_append_of_pos hdigits, List.dropWhile_append_of_pos hdigits, hrest.1,
    hrest.2, List.append_nil]
  split
  · rename_i hnil
    exact absurd hnil Nat.toDigits_ne_nil
  · rfl

/-- The whole part of a number has no needless zero. -/
theorem wholePart?_toDigits (n : Nat) {rest : List Char} (h : EndsNumber rest) :
    wholePart? (Nat.toDigits 10 n ++ rest) = some (Nat.toDigits 10 n, rest) := by
  unfold wholePart?
  rw [digits?_toDigits n h]
  split
  · rename_i heq
    obtain ⟨hzero, -⟩ := Prod.mk.inj (Option.some.inj heq)
    by_cases hn : n = 0
    · subst hn
      cases hzero
    · exact absurd (by rw [hzero]; rfl) (head?_toDigits hn)
  · rfl

theorem fraction?_of_ends {rest : List Char} (h : EndsNumber rest) :
    fraction? rest = some ([], rest) := by
  unfold fraction?
  split
  · exact absurd rfl (h '.' rfl).2.1
  · rfl

theorem exponent?_of_ends {rest : List Char} (h : EndsNumber rest) :
    exponent? rest = some ([], rest) := by
  unfold exponent?
  split
  · rfl
  · rename_i c rest
    obtain ⟨-, -, hlower, hupper⟩ := h c rfl
    rw [if_neg (by simp [hlower, hupper])]

theorem unsignedNumber?_toDigits {negative : Bool} {n : Nat}
    (hsign : negative = true → n ≠ 0) {rest : List Char} (h : EndsNumber rest) :
    unsignedNumber? negative (Nat.toDigits 10 n ++ rest) =
      some (.int (if negative then -n else n), rest) := by
  have hzero : negative = true → Nat.toDigits 10 n ≠ ['0'] := by
    intro hnegative heq
    exact head?_toDigits (hsign hnegative) (by rw [heq]; rfl)
  simpa [unsignedNumber?, wholePart?_toDigits n h, fraction?_of_ends h, exponent?_of_ends h,
    Nat.ofDigitChars_ten_toDigits] using hzero

/-- A written number is read back. -/
theorem number?_toString (number : Int) {rest : List Char} (h : EndsNumber rest) :
    number? ((toString number).toList ++ rest) = some (.int number, rest) := by
  rw [Text.toList_toString]
  split
  · rename_i hneg
    have hback : -(number.natAbs : Int) = number := by omega
    rw [List.cons_append, number?, unsignedNumber?_toDigits (fun _ => by omega) h, if_pos rfl,
      hback]
  · rename_i hpos
    have hback : (number.natAbs : Int) = number := by omega
    have hread : unsignedNumber? false (Nat.toDigits 10 number.natAbs ++ rest) =
        some (.int number, rest) := by
      rw [unsignedNumber?_toDigits (by simp) h, if_neg Bool.false_ne_true, hback]
    unfold number?
    split
    · rename_i heq
      obtain ⟨digit, digits, hdigits⟩ :=
        List.exists_cons_of_ne_nil (Nat.toDigits_ne_nil (b := 10) (n := number.natAbs))
      -- the digits start with no sign
      rw [hdigits, List.cons_append] at heq
      obtain ⟨rfl, -⟩ := List.cons.inj heq
      exact absurd (hdigits ▸ List.mem_cons_self) (Text.not_mem_toDigits (c := '-') rfl _)
    · exact hread

/-! ## Blanks -/

/-- Blanks before a token are skipped. -/
theorem skipSpace_blanks {blanks : List Char} (hblanks : ∀ c ∈ blanks, isSpace c = true)
    {c : Char} (hc : isSpace c = false) (rest : List Char) :
    skipSpace (blanks ++ c :: rest) = c :: rest := by
  rw [skipSpace, List.dropWhile_append_of_pos hblanks, List.dropWhile_cons, hc,
    if_neg Bool.false_ne_true]

theorem skipSpace_cons {c : Char} (hc : isSpace c = false) (rest : List Char) :
    skipSpace (c :: rest) = c :: rest :=
  skipSpace_blanks (List.forall_mem_nil _) hc rest

/-- Neither blanks nor a closing bracket or a comma go on with a number. -/
theorem endsNumber_of_blanks {blanks : List Char} (hblanks : ∀ c ∈ blanks, isSpace c = true)
    {c : Char} (hc : c = ',' ∨ c = ']' ∨ c = '\x7d') (rest : List Char) :
    EndsNumber (blanks ++ c :: rest) := by
  intro first hfirst
  cases blanks with
  | nil =>
      obtain rfl := Option.some.inj hfirst
      rcases hc with rfl | rfl | rfl <;> decide
  | cons blank blanks =>
      obtain rfl := Option.some.inj hfirst
      have hspace := hblanks blank List.mem_cons_self
      simp only [isSpace, Bool.or_eq_true, beq_iff_eq] at hspace
      rcases hspace with ((rfl | rfl) | rfl) | rfl <;> decide

/-! ## Containers -/

section Containers

variable {fuel depth : Nat} {chars tail after : List Char} {c : Char}

theorem value?_array {items : List Json} (hskip : skipSpace chars = c :: tail) (hc : c ≠ ']')
    (hitems : items? fuel depth (c :: tail) = some (items, after)) :
    value? (fuel + 1) (depth + 1) ('[' :: chars) = some (.array items, after) := by
  simp [value?, hskip, hc, hitems]

theorem value?_object {members : List (String × Json)}
    (hskip : skipSpace chars = c :: tail) (hc : c ≠ '\x7d')
    (hmembers : members? fuel depth (c :: tail) = some (some members, after)) :
    value? (fuel + 1) (depth + 1) ('\x7b' :: chars) = some (.object members, after) := by
  simp [value?, hskip, hc, hmembers]

variable {value : Json} {afterValue more : List Char}

theorem items?_last (hvalue : value? fuel depth chars = some (value, afterValue))
    (hskip : skipSpace afterValue = ']' :: after) :
    items? (fuel + 1) depth chars = some ([value], after) := by
  simp [items?, hvalue, hskip]

theorem items?_cons {items : List Json}
    (hvalue : value? fuel depth chars = some (value, afterValue))
    (hskip : skipSpace afterValue = ',' :: more)
    (hitems : items? fuel depth (skipSpace more) = some (items, after)) :
    items? (fuel + 1) depth chars = some (value :: items, after) := by
  simp [items?, hvalue, hskip, hitems]

variable (name : String) {beforeValue : List Char}

theorem quote_append (content : String) (rest : List Char) :
    (quote content).toList ++ rest =
      '"' :: (content.toList.flatMap escapeChar ++ '"' :: rest) := by
  simp [quote]

theorem members?_last
    (hvalue : value? fuel depth (skipSpace beforeValue) = some (value, afterValue))
    (hskip : skipSpace afterValue = '\x7d' :: after) :
    members? (fuel + 1) depth ((quote name).toList ++ ':' :: beforeValue) =
      some (some [(name, value)], after) := by
  have hcolon : isSpace ':' = false := rfl
  rw [quote_append]
  simp [members?, string?_escaped, skipSpace_cons hcolon, hvalue, hskip]

theorem members?_cons {members : List (String × Json)}
    (hvalue : value? fuel depth (skipSpace beforeValue) = some (value, afterValue))
    (hskip : skipSpace afterValue = ',' :: more)
    (hmembers : members? fuel depth (skipSpace more) = some (some members, after)) :
    members? (fuel + 1) depth ((quote name).toList ++ ':' :: beforeValue) =
      some (some ((name, value) :: members), after) := by
  have hcolon : isSpace ':' = false := rfl
  rw [quote_append]
  simp [members?, string?_escaped, skipSpace_cons hcolon, hvalue, hskip, hmembers]

end Containers

/-! ## Documents -/

/-- The documents that a text gives back: they have a value everywhere, and no more than
`depth` containers are open at once. -/
inductive Legible : Nat → Json → Prop
  | null {depth : Nat} : Legible depth .null
  | flag {depth : Nat} (on : Bool) : Legible depth (.flag on)
  | int {depth : Nat} (number : Int) : Legible depth (.int number)
  | text {depth : Nat} (content : String) : Legible depth (.text content)
  | array {depth : Nat} {items : List Json} (hitems : ∀ item ∈ items, Legible depth item) :
      Legible (depth + 1) (.array items)
  | object {depth : Nat} {members : List (String × Json)}
      (hmembers : ∀ member ∈ members, Legible depth member.2) :
      Legible (depth + 1) (.object members)

variable {layout : Layout}

/-- A text starts with a value: its first character is no blank and closes nothing. -/
def StartsValue (chars : List Char) : Prop :=
  ∃ c rest, chars = c :: rest ∧ isSpace c = false ∧ c ≠ ']' ∧ c ≠ '\x7d'

theorem StartsValue.append {chars : List Char} (h : StartsValue chars) (rest : List Char) :
    StartsValue (chars ++ rest) := by
  obtain ⟨c, tail, rfl, hc⟩ := h
  exact ⟨c, tail ++ rest, rfl, hc⟩

/-- Blanks before a value are skipped. -/
theorem StartsValue.skipSpace_blanks {chars : List Char} (h : StartsValue chars)
    {blanks : List Char} (hblanks : ∀ c ∈ blanks, isSpace c = true) :
    skipSpace (blanks ++ chars) = chars := by
  obtain ⟨c, tail, rfl, hspace, -⟩ := h
  exact Json.skipSpace_blanks hblanks hspace tail

theorem startsValue_quote (content : String) : StartsValue (quote content).toList :=
  ⟨'"', _, toList_quote content, rfl, by decide, by decide⟩

theorem startsValue_toString (number : Int) : StartsValue (toString number).toList := by
  have hne : (toString number).toList ≠ [] := by
    rw [Text.toList_toString]
    split
    · exact List.cons_ne_nil _ _
    · exact Nat.toDigits_ne_nil
  obtain ⟨c, rest, hchars⟩ := List.exists_cons_of_ne_nil hne
  have hmem : c ∈ (toString number).toList := hchars ▸ List.mem_cons_self
  have hother : ∀ d : Char, d.isDigit = false → d ≠ '-' → c ≠ d := fun d hdigit hsign heq =>
    Text.not_mem_toString hdigit hsign number (heq ▸ hmem)
  refine ⟨c, rest, hchars, ?_, hother _ rfl (by decide), hother _ rfl (by decide)⟩
  simp [isSpace, hother ' ' rfl (by decide), hother '\t' rfl (by decide),
    hother '\n' rfl (by decide), hother '\r' rfl (by decide)]

theorem Legible.startsValue {depth : Nat} {document : Json} (h : Legible depth document)
    (layout : Layout) (level : Nat) : StartsValue (layout.spell level document) := by
  cases h with
  | null => exact ⟨'n', _, rfl, rfl, by decide, by decide⟩
  | flag on =>
      cases on with
      | false => exact ⟨'f', _, rfl, rfl, by decide, by decide⟩
      | true => exact ⟨'t', _, rfl, rfl, by decide, by decide⟩
  | int number => exact startsValue_toString number
  | text content => exact startsValue_quote content
  | array hitems =>
      rename_i items
      cases items with
      | nil => exact ⟨'[', _, rfl, rfl, by decide, by decide⟩
      | cons item rest => exact ⟨'[', _, rfl, rfl, by decide, by decide⟩
  | object hmembers =>
      rename_i members
      cases members with
      | nil => exact ⟨'\x7b', _, rfl, rfl, by decide, by decide⟩
      | cons member rest => exact ⟨'\x7b', _, rfl, rfl, by decide, by decide⟩

/-- A written number is a value. -/
theorem value?_toString (fuel depth : Nat) (number : Int) {rest : List Char}
    (h : EndsNumber rest) :
    value? (fuel + 1) depth ((toString number).toList ++ rest) = some (.int number, rest) := by
  obtain ⟨c, digits, hchars, -⟩ := startsValue_toString number
  have hmem : c ∈ (toString number).toList := hchars ▸ List.mem_cons_self
  have hother : ∀ d : Char, d.isDigit = false → d ≠ '-' → c ≠ d := fun d hdigit hsign heq =>
    Text.not_mem_toString hdigit hsign number (heq ▸ hmem)
  have hread := number?_toString number h
  rw [hchars, List.cons_append] at hread ⊢
  simp [value?, hread, hother '\x7b' rfl (by decide), hother '[' rfl (by decide),
    hother '"' rfl (by decide), hother 't' rfl (by decide), hother 'f' rfl (by decide),
    hother 'n' rfl (by decide)]

/-- A written string is a value. -/
theorem value?_quote (fuel depth : Nat) (content : String) (rest : List Char) :
    value? (fuel + 1) depth ((quote content).toList ++ rest) = some (.text content, rest) := by
  rw [quote_append]
  simp [value?, string?_escaped]

theorem startsValue_spellItems (layout : Layout) {depth : Nat} {items : List Json}
    (hne : items ≠ []) (h : ∀ item ∈ items, Legible depth item) (level : Nat) :
    StartsValue (layout.spellItems level items) := by
  cases items with
  | nil => exact absurd rfl hne
  | cons item rest =>
      have hfirst := (h item List.mem_cons_self).startsValue layout level
      cases rest with
      | nil => exact hfirst
      | cons next rest => exact hfirst.append _

theorem startsValue_spellMembers (layout : Layout) {members : List (String × Json)}
    (hne : members ≠ []) (level : Nat) : StartsValue (layout.spellMembers level members) := by
  cases members with
  | nil => exact absurd rfl hne
  | cons member rest =>
      have hname := startsValue_quote member.1
      cases rest with
      | nil => exact hname.append _
      | cons next rest => exact hname.append _

mutual

/-- A document is read back from any layout, whatever follows it. -/
theorem value?_spell (hblank : layout.Blank) (level : Nat) : (document : Json) →
    {fuel depth : Nat} → Legible depth document →
      2 * (layout.spell level document).length ≤ fuel → {rest : List Char} → EndsNumber rest →
        value? fuel depth (layout.spell level document ++ rest) = some (document, rest)
  | document, 0, _, hlegible, hfuel, _, _ => by
      obtain ⟨c, chars, hchars, -⟩ := hlegible.startsValue layout level
      rw [hchars, List.length_cons] at hfuel
      omega
  | .null, _ + 1, _, _, _, _, _ => by
      simp [Layout.spell, scalarText, value?, afterWord?]
  | .flag on, _ + 1, _, _, _, _, _ => by
      cases on <;> simp [Layout.spell, scalarText, value?, afterWord?]
  | .int number, fuel + 1, depth, _, _, _, hrest => value?_toString fuel depth number hrest
  | .text content, fuel + 1, depth, _, _, rest, _ => value?_quote fuel depth content rest
  | .array [], _ + 1, _, .array _, _, rest, _ => by
      have hskip := skipSpace_cons (c := ']') rfl rest
      simp [Layout.spell, value?, hskip]
  | .array (item :: items), fuel + 1, depth + 1, .array hitems, hfuel, rest, _ => by
      have hfuel : 2 * (layout.spellItems (level + 1) (item :: items)).length + 1 ≤ fuel := by
        simp only [Layout.spell, List.length_cons, List.length_append] at hfuel
        omega
      have hread := items?_spellItems hblank (level + 1) (item :: items) (List.cons_ne_nil _ _)
        hitems hfuel (hblank.gap level) rest
      have hstarts := (startsValue_spellItems layout (List.cons_ne_nil _ _) hitems
        (level + 1)).append (layout.gap level ++ ']' :: rest)
      have hskip := hstarts.skipSpace_blanks (hblank.gap (level + 1))
      obtain ⟨c, tail, hchars, -, hc, -⟩ := hstarts
      rw [hchars] at hread hskip
      have harray := value?_array hskip hc hread
      rw [← hchars] at harray
      simpa [Layout.spell] using harray
  | .object [], _ + 1, _, .object _, _, rest, _ => by
      have hskip := skipSpace_cons (c := '\x7d') rfl rest
      simp [Layout.spell, value?, hskip]
  | .object (member :: members), fuel + 1, depth + 1, .object hmembers, hfuel, rest, _ => by
      have hfuel : 2 * (layout.spellMembers (level + 1) (member :: members)).length + 1 ≤
          fuel := by
        simp only [Layout.spell, List.length_cons, List.length_append] at hfuel
        omega
      have hread := members?_spellMembers hblank (level + 1) (member :: members)
        (List.cons_ne_nil _ _) hmembers hfuel (hblank.gap level) rest
      have hstarts := (startsValue_spellMembers layout
        (List.cons_ne_nil member members) (level + 1)).append (layout.gap level ++ '\x7d' :: rest)
      have hskip := hstarts.skipSpace_blanks (hblank.gap (level + 1))
      obtain ⟨c, tail, hchars, -, -, hc⟩ := hstarts
      rw [hchars] at hread hskip
      have hobject := value?_object hskip hc hread
      rw [← hchars] at hobject
      simpa [Layout.spell] using hobject

/-- The items of an array are read back up to its closing bracket. -/
theorem items?_spellItems (hblank : layout.Blank) (level : Nat) : (items : List Json) →
    items ≠ [] → {fuel depth : Nat} → (∀ item ∈ items, Legible depth item) →
      2 * (layout.spellItems level items).length + 1 ≤ fuel →
        {blanks : List Char} → (∀ c ∈ blanks, isSpace c = true) → (rest : List Char) →
          items? fuel depth (layout.spellItems level items ++ (blanks ++ ']' :: rest)) =
            some (items, rest)
  | [] => fun hne => absurd rfl hne
  | [item] => by
      intro _ fuel depth hitems hfuel blanks hblanks rest
      obtain ⟨fuel, rfl⟩ := Nat.exists_eq_add_one.mpr (Nat.zero_lt_of_lt hfuel)
      have hfuel : 2 * (layout.spell level item).length ≤ fuel := Nat.le_of_succ_le_succ hfuel
      have hvalue := value?_spell hblank level item (hitems item List.mem_cons_self) hfuel
        (endsNumber_of_blanks hblanks (.inr (.inl rfl)) rest)
      exact items?_last hvalue (skipSpace_blanks hblanks rfl rest)
  | item :: next :: items => by
      intro _ fuel depth hitems hfuel blanks hblanks rest
      obtain ⟨fuel, rfl⟩ := Nat.exists_eq_add_one.mpr (Nat.zero_lt_of_lt hfuel)
      simp only [Layout.spellItems, List.length_cons, List.length_append] at hfuel
      obtain ⟨hfirst, hmore⟩ := List.forall_mem_cons.mp hitems
      have hfirstFuel : 2 * (layout.spell level item).length ≤ fuel := by omega
      have hmoreFuel : 2 * (layout.spellItems level (next :: items)).length + 1 ≤ fuel := by
        omega
      have hvalue := value?_spell hblank level item hfirst hfirstFuel
        (endsNumber_of_blanks (List.forall_mem_nil _) (.inl rfl) (layout.gap level ++
          (layout.spellItems level (next :: items) ++ (blanks ++ ']' :: rest))))
      have hread := items?_spellItems hblank level (next :: items) (List.cons_ne_nil _ _)
        hmore hmoreFuel hblanks rest
      have hstarts := (startsValue_spellItems layout (List.cons_ne_nil _ _) hmore
        level).append (blanks ++ ']' :: rest)
      rw [← hstarts.skipSpace_blanks (hblank.gap level)] at hread
      have hitems := items?_cons hvalue (skipSpace_cons rfl _) hread
      simpa [Layout.spellItems] using hitems

/-- The members of an object are read back up to its closing brace. -/
theorem members?_spellMembers (hblank : layout.Blank) (level : Nat) :
    (members : List (String × Json)) → members ≠ [] → {fuel depth : Nat} →
      (∀ member ∈ members, Legible depth member.2) →
        2 * (layout.spellMembers level members).length + 1 ≤ fuel →
          {blanks : List Char} → (∀ c ∈ blanks, isSpace c = true) → (rest : List Char) →
            members? fuel depth
                (layout.spellMembers level members ++ (blanks ++ '\x7d' :: rest)) =
              some (some members, rest)
  | [] => fun hne => absurd rfl hne
  | [(name, value)] => by
      intro _ fuel depth hmembers hfuel blanks hblanks rest
      have hlegible : Legible depth value := hmembers (name, value) List.mem_cons_self
      obtain ⟨fuel, rfl⟩ := Nat.exists_eq_add_one.mpr (Nat.zero_lt_of_lt hfuel)
      simp only [Layout.spellMembers, List.length_cons, List.length_append] at hfuel
      have hvalueFuel : 2 * (layout.spell level value).length ≤ fuel := by omega
      have hvalue := value?_spell hblank level value hlegible hvalueFuel
        (endsNumber_of_blanks hblanks (.inr (.inr rfl)) rest)
      rw [← ((hlegible.startsValue layout level).append _).skipSpace_blanks hblank.afterColon] at hvalue
      have hread := members?_last name hvalue (skipSpace_blanks hblanks rfl rest)
      simpa [Layout.spellMembers] using hread
  | (name, value) :: next :: members => by
      intro _ fuel depth hmembers hfuel blanks hblanks rest
      obtain ⟨hlegible, hmore⟩ := List.forall_mem_cons.mp hmembers
      obtain ⟨fuel, rfl⟩ := Nat.exists_eq_add_one.mpr (Nat.zero_lt_of_lt hfuel)
      simp only [Layout.spellMembers, List.length_cons, List.length_append] at hfuel
      have hvalueFuel : 2 * (layout.spell level value).length ≤ fuel := by omega
      have hmoreFuel : 2 * (layout.spellMembers level (next :: members)).length + 1 ≤
          fuel := by omega
      have hvalue := value?_spell hblank level value hlegible hvalueFuel
        (endsNumber_of_blanks (List.forall_mem_nil _) (.inl rfl) (layout.gap level ++
          (layout.spellMembers level (next :: members) ++ (blanks ++ '\x7d' :: rest))))
      rw [← ((hlegible.startsValue layout level).append _).skipSpace_blanks hblank.afterColon] at hvalue
      have hread := members?_spellMembers hblank level (next :: members) (List.cons_ne_nil _ _)
        hmore hmoreFuel hblanks rest
      have hstarts := (startsValue_spellMembers layout
        (List.cons_ne_nil next members) level).append (blanks ++ '\x7d' :: rest)
      rw [← hstarts.skipSpace_blanks (hblank.gap level)] at hread
      have hmembers := members?_cons name hvalue (skipSpace_cons rfl _) hread
      simpa [Layout.spellMembers] using hmembers

end

/-- A text that holds a document in some layout is read as that document. -/
theorem read?_of_spell (hblank : layout.Blank) {document : Json} {source : String}
    (hsource : layout.spell 0 document = source.toList)
    (hlegible : Legible depthLimit document) : read? source = some document := by
  have hskip := (hlegible.startsValue layout 0).skipSpace_blanks
    (List.forall_mem_nil _)
  have hnothing : EndsNumber [] := nofun
  have hvalue := value?_spell hblank 0 document hlegible (Nat.le_add_right _ 2) hnothing
  rw [List.nil_append] at hskip
  rw [List.append_nil] at hvalue
  rw [read?, ← hsource, hskip, hvalue]
  rfl

theorem read?_compact {document : Json} (h : Legible depthLimit document) :
    read? document.compact = some document :=
  read?_of_spell Layout.blank_tight (Layout.tight_spell 0 document) h

theorem read?_pretty {document : Json} (h : Legible depthLimit document) :
    read? document.pretty = some document :=
  read?_of_spell Layout.blank_indented (Layout.indented_spell 0 document) h

end Json
end DesiredState
