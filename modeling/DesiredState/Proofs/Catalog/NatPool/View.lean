import DesiredState.Catalog.NatPool
import DesiredState.Proofs.Catalog.Group.View
import DesiredState.Proofs.Text

/-!
# The view of a NAT pool

How the two ends of a port range come back from the text that the device
keeps, and what is read and written under each name.  A range whose low end is
negative is the one that does not survive: it is cut at its sign.
-/

namespace DesiredState
namespace Catalog
namespace NatPool

/-! ## Port ranges -/

/-- A range is cut at the first hyphen, and both sides have to be numbers. -/
theorem splitRange_eq (range : String) :
    splitRange range =
      (Text.cutFirst '-' range).bind fun cut =>
        (Text.readInt64 (Text.trim cut.1)).bind fun low =>
          (Text.readInt64 (Text.trim cut.2)).map fun high => (low, high) := by
  unfold splitRange
  refine congrArg (Option.bind _) (funext fun cut => ?_)
  obtain ⟨front, back⟩ := cut
  refine congrArg (Option.bind _) (funext fun low => ?_)
  change (Text.readInt64 (Text.trim back) >>= fun high => pure (low, high)) = _
  cases Text.readInt64 (Text.trim back) <;> rfl

theorem toList_joinRange (low high : Int) :
    (joinRange low high).toList = (toString low).toList ++ '-' :: (toString high).toList := by
  simp [joinRange]

/-- A range whose low end is not negative comes back. -/
theorem splitRange_joinRange {low high : Int} (hlow : 0 ≤ low)
    (hfitsLow : Text.fitsInt64 low = true) (hfitsHigh : Text.fitsInt64 high = true) :
    splitRange (joinRange low high) = some (low, high) := by
  have hfresh : '-' ∉ (toString low).toList := by
    rw [Text.toList_toString_of_nonneg hlow]
    exact Text.not_mem_toDigits rfl _
  have hcut : Text.cutFirst '-' (joinRange low high) = some (toString low, toString high) := by
    rw [Text.cutFirst, toList_joinRange, Text.cutFirstChars_append_cons hfresh]
    simp
  rw [splitRange_eq, hcut, Option.bind_some, Text.trim_toString, Text.trim_toString,
    Text.readInt64_toString hfitsLow, Text.readInt64_toString hfitsHigh]
  rfl

/-- A range whose low end is negative is not split at all. -/
theorem splitRange_joinRange_of_neg {low high : Int} (hlow : low < 0) :
    splitRange (joinRange low high) = none := by
  have hsign : (toString low).toList = '-' :: Nat.toDigits 10 low.natAbs := by
    rw [Text.toList_toString, if_pos hlow]
  have hempty : Text.readInt64 (Text.trim (String.ofList [])) = none := by
    decide
  rw [splitRange_eq, Text.cutFirst, toList_joinRange, hsign, List.cons_append,
    Text.cutFirstChars, if_pos rfl, Option.map_some, Option.bind_some, hempty]
  rfl

theorem fits_of_splitRange {range : String} {low high : Int}
    (h : splitRange range = some (low, high)) :
    Text.fitsInt64 low = true ∧ Text.fitsInt64 high = true := by
  rw [splitRange_eq] at h
  obtain ⟨cut, -, hends⟩ := Option.bind_eq_some_iff.mp h
  obtain ⟨front, hfront, hback⟩ := Option.bind_eq_some_iff.mp hends
  obtain ⟨back, hnumber, hpair⟩ := Option.map_eq_some_iff.mp hback
  obtain ⟨rfl, rfl⟩ := Prod.mk.inj hpair
  exact ⟨Text.fitsInt64_of_readInt64 hfront, Text.fitsInt64_of_readInt64 hnumber⟩

/-- The low end of a range is cut at the first hyphen, so it is not negative. -/
theorem nonneg_of_splitRange {range : String} {low high : Int}
    (h : splitRange range = some (low, high)) : 0 ≤ low := by
  rw [splitRange_eq] at h
  obtain ⟨cut, hcut, hends⟩ := Option.bind_eq_some_iff.mp h
  obtain ⟨front, hfront, hback⟩ := Option.bind_eq_some_iff.mp hends
  obtain ⟨back, -, hpair⟩ := Option.map_eq_some_iff.mp hback
  obtain ⟨rfl, -⟩ := Prod.mk.inj hpair
  obtain ⟨chars, hchars, rfl⟩ := Option.map_eq_some_iff.mp hcut
  have hfresh := Text.not_mem_of_cutFirstChars hchars
  refine Text.nonneg_of_integer? (Option.filter_eq_some_iff.mp hfront).1 fun hmem => ?_
  rw [Text.trim, String.toList_ofList, String.toList_ofList] at hmem
  exact hfresh (Text.mem_of_mem_trimChars hmem)

/-- The text of the range that a body asks for. -/
def range? (body : Attributes) : Option String :=
  match body.int? "port_range_low", body.int? "port_range_high" with
  | none, none => none
  | low, high => some (joinRange (low.getD defaultLow) (high.getD defaultHigh))

/-- A missing end takes its default when the other one is there. -/
theorem range?_eq_some {body : Attributes}
    (h : body.int? "port_range_low" ≠ none ∨ body.int? "port_range_high" ≠ none) :
    range? body = some (joinRange ((body.int? "port_range_low").getD defaultLow)
      ((body.int? "port_range_high").getD defaultHigh)) := by
  unfold range?
  cases hlow : body.int? "port_range_low" with
  | some low => rfl
  | none =>
      cases hhigh : body.int? "port_range_high" with
      | some high => rfl
      | none => simp [hlow, hhigh] at h

/-! ## Groups -/

/-- The groups of a pool. -/
def groups : List Group := [persistence, blockAllocation]

theorem read_eq (held : Attributes) : read held = readRange (Group.spreadAll groups held) :=
  rfl

theorem write_eq (body : Attributes) : write body = writeRange (Group.gatherAll groups body) :=
  rfl

theorem allRegular_groups : Group.AllRegular groups := by decide

/-- The names that ranges are read and written under. -/
def rangeNames : List String := [rangeWire, "port_range_low", "port_range_high"]

/-- The names of ranges are not those of groups. -/
theorem not_mem_scope_of_range : ∀ name ∈ rangeNames, ∀ group ∈ groups,
    name ∉ group.scope := by
  decide

/-! ## Reading -/

variable (held body : Attributes) {name : String}

theorem get?_readRange_of_not_mem (h : name ∉ rangeNames) :
    (readRange held).get? name = held.get? name := by
  simp only [rangeNames, List.mem_cons, List.not_mem_nil, or_false, not_or] at h
  obtain ⟨hwire, hlow, hhigh⟩ := h
  unfold readRange
  dsimp only
  split
  · rw [Attributes.get?_insert_of_ne _ hhigh, Attributes.get?_insert_of_ne _ hlow,
      Attributes.get?_erase_of_ne _ hwire]
  · rw [Attributes.get?_erase_of_ne _ hwire]

/-- A name that is no part of a range is read as the groups say. -/
theorem get?_read_of_not_range (h : name ∉ rangeNames) :
    (read held).get? name = (Group.spreadAll groups held).get? name := by
  rw [read_eq, get?_readRange_of_not_mem _ h]

/-- Names that take no part in ranges and groups are read as they are. -/
theorem get?_read_of_not_mem (h : name ∉ rangeNames)
    (hgroups : ∀ group ∈ groups, name ∉ group.scope) :
    (read held).get? name = held.get? name := by
  rw [get?_read_of_not_range held h,
    Group.get?_spreadAll_of_not_mem hgroups]

theorem get?_spreadAll_of_range (h : name ∈ rangeNames) :
    (Group.spreadAll groups held).get? name = held.get? name :=
  Group.get?_spreadAll_of_not_mem (not_mem_scope_of_range name h) held

theorem text?_spreadAll_range :
    (Group.spreadAll groups held).text? rangeWire = held.text? rangeWire := by
  rw [Attributes.text?, get?_spreadAll_of_range held (by decide), Attributes.text?]

/-- Both ends are read from a range that can be split. -/
theorem get?_read_of_splitRange {low high : Int}
    (h : (held.text? rangeWire).bind splitRange = some (low, high)) :
    (read held).get? "port_range_low" = some (.int low) ∧
      (read held).get? "port_range_high" = some (.int high) := by
  have hread : read held = (((Group.spreadAll groups held).erase rangeWire).insert
      "port_range_low" (.int low)).insert "port_range_high" (.int high) := by
    simp [read_eq, readRange, text?_spreadAll_range, h]
  rw [hread]
  constructor
  · rw [Attributes.get?_insert_of_ne _ (by decide), Attributes.get?_insert_self]
  · rw [Attributes.get?_insert_self]

/-- Without such a range, ends are read where they stand on their own. -/
theorem get?_read_of_splitRange_eq_none
    (h : (held.text? rangeWire).bind splitRange = none) :
    (read held).get? "port_range_low" = held.get? "port_range_low" ∧
      (read held).get? "port_range_high" = held.get? "port_range_high" := by
  have hread : read held = (Group.spreadAll groups held).erase rangeWire := by
    simp [read_eq, readRange, text?_spreadAll_range, h]
  rw [hread]
  constructor
  · rw [Attributes.get?_erase_of_ne _ (by decide), get?_spreadAll_of_range _ (by decide)]
  · rw [Attributes.get?_erase_of_ne _ (by decide), get?_spreadAll_of_range _ (by decide)]

/-! ## Writing -/

theorem get?_writeRange_of_not_mem (h : name ∉ rangeNames) :
    (writeRange body).get? name = body.get? name := by
  simp only [rangeNames, List.mem_cons, List.not_mem_nil, or_false, not_or] at h
  obtain ⟨hwire, hlow, hhigh⟩ := h
  unfold writeRange
  dsimp only
  split
  · rw [Attributes.get?_erase_of_ne _ hhigh, Attributes.get?_erase_of_ne _ hlow]
  · rw [Attributes.get?_insert_of_ne _ hwire, Attributes.get?_erase_of_ne _ hhigh,
      Attributes.get?_erase_of_ne _ hlow]

/-- The text of the range is written when there is one. -/
theorem get?_wire_writeRange :
    (writeRange body).get? rangeWire =
      ((range? body).map Value.text).or (body.get? rangeWire) := by
  unfold writeRange range?
  dsimp only
  cases hlow : body.int? "port_range_low" with
  | some low => simp
  | none =>
      cases hhigh : body.int? "port_range_high" with
      | some high => simp
      | none =>
          simp only [Option.map_none, Option.none_or]
          rw [Attributes.get?_erase_of_ne _ (by decide), Attributes.get?_erase_of_ne _ (by decide)]

variable {body}

/-- The ends themselves are never written. -/
theorem get?_ends_writeRange (h : body.Distinct) :
    (writeRange body).get? "port_range_low" = none ∧
      (writeRange body).get? "port_range_high" = none := by
  have hlow := h.erase "port_range_low"
  have hrest : ((body.erase "port_range_low").erase "port_range_high").get?
        "port_range_low" = none ∧
      ((body.erase "port_range_low").erase "port_range_high").get?
        "port_range_high" = none := by
    constructor
    · rw [Attributes.get?_erase_of_ne _ (by decide), h.get?_erase, if_pos rfl]
    · rw [hlow.get?_erase, if_pos rfl]
  unfold writeRange
  dsimp only
  split
  · exact hrest
  · rw [Attributes.get?_insert_of_ne _ (by decide), Attributes.get?_insert_of_ne _ (by decide)]
    exact hrest

theorem distinct_write (h : body.Distinct) : (write body).Distinct := by
  have hgathered := Group.distinct_gatherAll h groups
  rw [write_eq]
  unfold writeRange
  dsimp only
  split
  · exact (hgathered.erase _).erase _
  · exact ((hgathered.erase _).erase _).insert _ _

/-- The names that are written are those of the body, of the groups and of the
range. -/
theorem mem_names_of_write (h : name ∈ (write body).names) :
    name ∈ body.names ∨ name ∈ rangeWire :: groups.map Group.wire := by
  have hgathered : name ∈ (Group.gatherAll groups body).names →
      name ∈ body.names ∨ name ∈ rangeWire :: groups.map Group.wire := by
    intro hmem
    rcases Group.mem_names_of_gatherAll hmem with hbody | hwire
    · exact Or.inl hbody
    · exact Or.inr (List.mem_cons_of_mem _ hwire)
  rw [write_eq] at h
  unfold writeRange at h
  dsimp only at h
  split at h
  · exact hgathered (Attributes.mem_names_of_erase (Attributes.mem_names_of_erase h))
  · rcases Attributes.mem_names_of_insert h with heq | hrest
    · exact Or.inr (List.mem_cons.mpr (Or.inl heq))
    · exact hgathered (Attributes.mem_names_of_erase (Attributes.mem_names_of_erase hrest))

/-- A name that is no part of a range is written as the groups say. -/
theorem get?_write_of_not_range (h : name ∉ rangeNames) (body : Attributes) :
    (write body).get? name = (Group.gatherAll groups body).get? name := by
  rw [write_eq, get?_writeRange_of_not_mem _ h]

/-- Names that take no part in ranges and groups are written as they are. -/
theorem get?_write_of_not_mem (h : name ∉ rangeNames)
    (hgroups : ∀ group ∈ groups, name ∉ group.scope) (body : Attributes) :
    (write body).get? name = body.get? name := by
  rw [get?_write_of_not_range h, Group.get?_gatherAll_of_not_mem hgroups]

theorem get?_gatherAll_of_range (h : name ∈ rangeNames) (body : Attributes) :
    (Group.gatherAll groups body).get? name = body.get? name :=
  Group.get?_gatherAll_of_not_mem (not_mem_scope_of_range name h) body

/-- What is written of a range: its text, and neither end. -/
theorem get?_write_of_range (hdistinct : body.Distinct) (hwire : body.get? rangeWire = none) :
    (write body).get? rangeWire = (range? body).map Value.text ∧
      (write body).get? "port_range_low" = none ∧
        (write body).get? "port_range_high" = none := by
  have hrange : range? (Group.gatherAll groups body) = range? body := by
    unfold range?
    rw [Attributes.int?, get?_gatherAll_of_range (by decide), Attributes.int?,
      get?_gatherAll_of_range (by decide)]
    rfl
  rw [write_eq, get?_wire_writeRange, hrange, get?_gatherAll_of_range (by decide),
    hwire, Option.or_none]
  exact ⟨rfl, get?_ends_writeRange (Group.distinct_gatherAll hdistinct groups)⟩

end NatPool
end Catalog
end DesiredState
