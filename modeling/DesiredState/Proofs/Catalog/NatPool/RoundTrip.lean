import DesiredState.Proofs.Catalog.NatPool.Repetition

/-!
# A NAT pool, written and read back

Writing moves attributes into nested maps and into the text of a range, under
names of the device; reading moves them out again.  What is wanted of a pool
goes through both unchanged.  A port range is written with both of its ends, so
one end that is wanted alone comes back with the default of the other one
(`missingEnd?`), and nothing else comes with it.

`read_write` says this of every name.  It is put together from three lemmas, one
for each way in which a name is written: the ends of the range, the members of
nested maps, and all that is written under a name of its own.
-/

namespace DesiredState
namespace Catalog
namespace NatPool

/-- The default that an end of the range is written with, when only the other end is
wanted. -/
def missingEnd? (want : Attributes) (name : String) : Option Value :=
  if name = "port_range_low" ∧ want.contains "port_range_high" = true then
    some (.int defaultLow)
  else if name = "port_range_high" ∧ want.contains "port_range_low" = true then
    some (.int defaultHigh)
  else
    none

variable {params want held : Attributes} {partition name : String} {target : Target}

theorem missingEnd?_low (want : Attributes) :
    missingEnd? want "port_range_low" =
      if want.contains "port_range_high" then some (.int defaultLow) else none := by
  simp [missingEnd?]

theorem missingEnd?_high (want : Attributes) :
    missingEnd? want "port_range_high" =
      if want.contains "port_range_low" then some (.int defaultHigh) else none := by
  simp [missingEnd?]

theorem missingEnd?_eq_none (hlow : name ≠ "port_range_low") (hhigh : name ≠ "port_range_high") :
    missingEnd? want name = none := by
  simp [missingEnd?, hlow, hhigh]

/-- What the device keeps is seen under logical names before it is read. -/
theorem kind_read_eq (raw : Attributes) : kind.read raw = read (schema.ofWire raw) :=
  rfl

/-- The view of a pool that is written follows what is wanted of it, over nothing. -/
theorem follows_written (h : kind.Accepts partition params target want) :
    kind.Follows followed want .empty (schema.ofWire (kind.write want)) :=
  faithful.follows_write h.normal followed

/-! ## Names that are written in another form -/

/-- An end as it is written is a port number. -/
theorem port_of_written_end (h : kind.Accepts partition params target want)
    (hname : name = "port_range_low" ∨ name = "port_range_high") {missing : Int}
    (hmissing : 0 ≤ missing ∧ missing ≤ 65535) :
    0 ≤ (want.int? name).getD missing ∧ (want.int? name).getD missing ≤ 65535 := by
  cases hint : want.int? name with
  | none => exact hmissing
  | some port => exact port_of_end h hname hint

/-- An end that is wanted, or else stood in for, is the one that is written. -/
theorem get?_or_missing (h : kind.Accepts partition params target want)
    (hname : name = "port_range_low" ∨ name = "port_range_high") {missing : Int}
    (hmissing : missingEnd? want name = some (.int missing) ∨ want.get? name ≠ none) :
    some (.int ((want.int? name).getD missing)) =
      (want.get? name).or (missingEnd? want name) := by
  cases hwanted : want.get? name with
  | none =>
      rw [hmissing.resolve_right (not_not_intro hwanted), Attributes.int?, hwanted]
      rfl
  | some wanted =>
      obtain ⟨port, rfl, -⟩ := int_of_end h hname hwanted
      rw [Attributes.int?_eq_some_iff.mpr hwanted]
      rfl

/-- Both ends come back where one of them is wanted. -/
theorem get?_end_read_write (h : kind.Accepts partition params target want)
    (hname : name = "port_range_low" ∨ name = "port_range_high") :
    (kind.read (kind.write want)).get? name = (want.get? name).or (missingEnd? want name) := by
  have hfollows := follows_written h
  rw [kind_read_eq]
  by_cases hnone : want.get? "port_range_low" = none ∧ want.get? "port_range_high" = none
  · have hrange : range? want = none := by
      rw [range?, Attributes.int?, hnone.1, Attributes.int?, hnone.2]
      rfl
    obtain ⟨hlow, hhigh⟩ := read_of_no_range hfollows hrange
    rcases hname with rfl | rfl
    · rw [hlow, missingEnd?_low, Attributes.contains, hnone.1, hnone.2]
      rfl
    · rw [hhigh, missingEnd?_high, Attributes.contains, hnone.1, hnone.2]
      rfl
  · have hlowPort := port_of_written_end h (.inl rfl)
      (show 0 ≤ defaultLow ∧ defaultLow ≤ 65535 by decide)
    have hhighPort := port_of_written_end h (.inr rfl)
      (show 0 ≤ defaultHigh ∧ defaultHigh ≤ 65535 by decide)
    have hends := (not_and_or.mp hnone).imp (mt (int?_end_eq_none_iff h (.inl rfl)).mp)
      (mt (int?_end_eq_none_iff h (.inr rfl)).mp)
    obtain ⟨hlow, hhigh⟩ := read_of_range hfollows (range?_eq_some hends) hlowPort.1
      (fits_of_port hlowPort) (fits_of_port hhighPort)
    rcases hname with rfl | rfl
    · rw [hlow]
      refine get?_or_missing h (.inl rfl) (or_iff_not_imp_right.mpr fun hlone => ?_)
      rw [missingEnd?_low, if_pos]
      exact Option.isSome_iff_ne_none.mpr fun hother => hnone ⟨not_not.mp hlone, hother⟩
    · rw [hhigh]
      refine get?_or_missing h (.inr rfl) (or_iff_not_imp_right.mpr fun hlone => ?_)
      rw [missingEnd?_high, if_pos]
      exact Option.isSome_iff_ne_none.mpr fun hother => hnone ⟨hother, not_not.mp hlone⟩

/-- A member of a nested map comes back. -/
theorem get?_member_read_write (h : kind.Accepts partition params target want)
    {group : Group} (hgroup : group ∈ groups) {inner : String}
    (hmember : (name, inner) ∈ group.members) :
    (kind.read (kind.write want)).get? name = want.get? name := by
  rw [kind_read_eq]
  have hscope : name ∈ group.scope := Group.mem_scope_of_mem hmember
  obtain ⟨field, hfield, rfl⟩ := List.mem_map.mp (members_declared group hgroup _ hmember)
  obtain ⟨-, hunnumbered⟩ := fields_grouped field hfield group hgroup hscope
  have hordinary := ordinary h hfield fun hrange =>
    not_mem_scope_of_range _ hrange group hgroup hscope
  refine get?_member_of_empty (follows_written h) hgroup hmember
    fun value hwanted => ?_
  exact numericValue_of_holds hunnumbered (hordinary.holds value hwanted)

/-- Nothing is left of the text of the range and of the nested maps. -/
theorem get?_wire_read (hheld : held.Distinct)
    (hname : name ∈ rangeWire :: groups.map Group.wire) : (read held).get? name = none := by
  have hspread := Group.distinct_spreadAll hheld groups
  rcases List.mem_cons.mp hname with rfl | hwire
  · rw [read_eq, readRange]
    split
    · rw [Attributes.get?_insert_of_ne _ (by decide), Attributes.get?_insert_of_ne _ (by decide),
        hspread.get?_erase, if_pos rfl]
    · rw [hspread.get?_erase, if_pos rfl]
  · obtain ⟨group, hgroup, rfl⟩ := List.mem_map.mp hwire
    have hrange : group.wire ∉ rangeNames := fun hrange =>
      not_mem_scope_of_range _ hrange group hgroup List.mem_cons_self
    rw [get?_read_of_not_range held hrange]
    exact Group.get?_wire_spreadAll allRegular_groups hgroup hheld

/-- What is written under a name of its own comes back, and no other name does. -/
theorem get?_plain_read_write (h : kind.Accepts partition params target want)
    (hrange : name ∉ rangeNames) (hgroups : ∀ group ∈ groups, name ∉ group.scope) :
    (kind.read (kind.write want)).get? name = want.get? name := by
  have hwritten : (kind.writer want).get? name = want.get? name :=
    get?_write_of_not_mem hrange hgroups want
  rw [kind_read_eq, get?_read_of_not_mem _ hrange hgroups]
  refine (faithful.get?_ofWire_write h.normal name).trans ?_
  rw [hwritten]
  cases hwanted : want.get? name with
  | none => rfl
  | some wanted =>
      obtain ⟨field, hfield, hholds⟩ := Schema.holds_of_want nodup_names h.normal hwanted
      exact congrArg some (Schema.coerced_of_holds hfield hholds)

/-! ## All names -/

/-- What is wanted of a pool is read back as it was written, with the default of an
end of the range that is missing, and with nothing else. -/
theorem read_write (hwant : kind.want partition params target = .ok want) (name : String) :
    (kind.read (kind.write want)).get? name = (want.get? name).or (missingEnd? want name) := by
  have haccepts := ResourceKind.accepts_of_want hwant
  by_cases hend : name = "port_range_low" ∨ name = "port_range_high"
  · exact get?_end_read_write haccepts hend
  · obtain ⟨hlow, hhigh⟩ := not_or.mp hend
    rw [missingEnd?_eq_none hlow hhigh, Option.or_none]
    by_cases hname : name ∈ schema.names
    · rcases name_cases hname with hends | ⟨group, hgroup, inner, hmember⟩ | ⟨hrange, hgroups⟩
      · exact absurd hends hend
      · exact get?_member_read_write haccepts hgroup hmember
      · exact get?_plain_read_write haccepts hrange hgroups
    · by_cases hwire : name ∈ rangeWire :: groups.map Group.wire
      · have hunwanted : want.get? name = none :=
          Attributes.get?_eq_none_iff.mpr fun hmem =>
            hname (Schema.names_of_want haccepts.normal name hmem)
        rw [hunwanted, kind_read_eq]
        exact get?_wire_read (Attributes.distinct_ofList _) hwire
      · refine get?_plain_read_write haccepts (fun hrange => ?_) fun group hgroup hscope => ?_
        · rcases List.mem_cons.mp hrange with rfl | hends
          · exact hwire List.mem_cons_self
          · exact hend (by simpa using hends)
        · rcases List.mem_cons.mp hscope with rfl | hlisted
          · exact hwire (List.mem_cons_of_mem _ (List.mem_map_of_mem hgroup))
          · obtain ⟨member, hmember, rfl⟩ := List.mem_map.mp hlisted
            exact hname (members_declared group hgroup member hmember)

/-- Asks for one end of the range, a member of each nested map and some cleared
values. -/
def loneEnd : Attributes :=
  ⟨[("client_conn_limit", .text "100"), ("harpin_mode", .flag true),
    ("persistence_mode", .text "none"), ("pba_block_size", .int 64),
    ("port_range_high", .int 4000), ("members", .list ["none"]),
    ("log_publisher", .text "none")]⟩

/-- What is wanted then, in normal form. -/
def loneEndWanted : Attributes :=
  ⟨[("client_conn_limit", .int 100), ("harpin_mode", .text "enabled"),
    ("persistence_mode", .text "none"), ("pba_block_size", .int 64),
    ("port_range_high", .int 4000), ("members", .list []), ("log_publisher", .text "")]⟩

/-- All of it comes back, and the low end with it. -/
theorem loneEnd_comes_back :
    kind.want "Common" loneEnd .present = .ok loneEndWanted ∧
      (∀ name, (kind.read (kind.write loneEndWanted)).get? name =
        (loneEndWanted.get? name).or (missingEnd? loneEndWanted name)) ∧
      missingEnd? loneEndWanted "port_range_low" = some (.int 1025) := by
  have hwant : kind.want "Common" loneEnd .present = .ok loneEndWanted := rfl
  exact ⟨hwant, read_write hwant, rfl⟩

end NatPool
end Catalog
end DesiredState
