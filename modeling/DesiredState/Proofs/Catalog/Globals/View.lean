import DesiredState.Catalog.Globals
import DesiredState.Proofs.Catalog.Group.View

/-!
# The view of the global settings

The settings are gathered into groups after two of them were prepared: the wish
for all or no ports becomes a port lockdown, and the flag of LLDP becomes one
of two.  Reading spreads the groups and undoes the preparation.
-/

namespace DesiredState
namespace Catalog
namespace Globals

/-- The flags of LLDP, with the other attributes of their group. -/
def lldp : Group where
  wire := "lldp"
  members := [("lldp_enabled", "enabled"), ("lldp_disabled", "disabled"),
    ("lldp_max_neighbors_per_port", "maxNeighborsPerPort"),
    ("lldp_reinit_delay", "reinitDelay"), ("lldp_tx_delay", "txDelay"),
    ("lldp_tx_hold", "txHold"), ("lldp_tx_interval", "txInterval")]

/-- The port lockdown. -/
def lockdown : Group where
  wire := "self_allow"
  members := [("self_allow_defaults", "defaults")]

theorem lldp_mem_groups : lldp ∈ groups := by decide

theorem lockdown_mem_groups : lockdown ∈ groups := by decide

/-- What is gathered of a body. -/
def prepared (body : Attributes) : Attributes :=
  writeLldp (writeAllowAll body)

theorem write_eq (body : Attributes) :
    write body = Group.gatherAll groups (prepared body) :=
  rfl

theorem read_eq (held : Attributes) :
    read held = readLldp (readAllowAll (Group.spreadAll groups held)) :=
  rfl

theorem allRegular_groups : Group.AllRegular groups := by decide

/-- The names that are prepared for writing. -/
def preparedNames : List String :=
  ["self_allow_all", "self_allow_defaults", "lldp_enabled", "lldp_disabled"]

/-- Only two groups have members that are prepared. -/
theorem group_cases : ∀ group ∈ groups, group = lldp ∨ group = lockdown ∨
    ∀ member ∈ group.members, member.1 ∉ preparedNames := by
  decide

/-- The wish for all or no ports is in no group. -/
theorem not_mem_scope_of_all : ∀ group ∈ groups, "self_allow_all" ∉ group.scope := by
  decide

/-! ## Reading -/

variable (held body : Attributes) {name : String}

/-- What a port lockdown says of all ports. -/
def allowAll? : Option Value :=
  match held.text? "self_allow_defaults" with
  | some "all" => some (.flag true)
  | some "none" => some (.flag false)
  | _ => none

theorem readAllowAll_eq :
    readAllowAll held =
      match allowAll? held with
      | some all => held.insert "self_allow_all" all
      | none => held := by
  unfold readAllowAll allowAll?
  split
  · simp [*]
  · simp [*]
  · simp [*]

theorem get?_readAllowAll_of_ne (h : name ≠ "self_allow_all") :
    (readAllowAll held).get? name = held.get? name := by
  rw [readAllowAll_eq]
  split
  · rw [Attributes.get?_insert_of_ne _ h]
  · rfl

theorem get?_all_readAllowAll :
    (readAllowAll held).get? "self_allow_all" =
      (allowAll? held).or (held.get? "self_allow_all") := by
  rw [readAllowAll_eq]
  cases allowAll? held with
  | some all => exact Attributes.get?_insert_self _ _ _
  | none => rfl

theorem get?_readLldp_of_ne (henabled : name ≠ "lldp_enabled")
    (hdisabled : name ≠ "lldp_disabled") : (readLldp held).get? name = held.get? name := by
  unfold readLldp
  dsimp only
  split
  · rw [Attributes.get?_insert_of_ne _ henabled, Attributes.get?_erase_of_ne _ hdisabled]
  · rw [Attributes.get?_erase_of_ne _ hdisabled]

/-- LLDP is off when the flag for it says so. -/
theorem get?_enabled_readLldp :
    (readLldp held).get? "lldp_enabled" =
      if held.flag? "lldp_disabled" = some true then some (.flag false)
      else held.get? "lldp_enabled" := by
  unfold readLldp
  simp only [beq_iff_eq]
  split
  · exact Attributes.get?_insert_self _ _ _
  · exact Attributes.get?_erase_of_ne _ (by decide)

/-- Names that are not undone are read as the groups say. -/
theorem get?_read_of_not_mem (hall : name ≠ "self_allow_all") (henabled : name ≠ "lldp_enabled")
    (hdisabled : name ≠ "lldp_disabled") :
    (read held).get? name = (Group.spreadAll groups held).get? name := by
  rw [read_eq, get?_readLldp_of_ne _ henabled hdisabled, get?_readAllowAll_of_ne _ hall]

theorem get?_enabled_read :
    (read held).get? "lldp_enabled" =
      if (Group.spreadAll groups held).flag? "lldp_disabled" = some true then
        some (.flag false)
      else (Group.spreadAll groups held).get? "lldp_enabled" := by
  rw [read_eq, get?_enabled_readLldp, Attributes.flag?, get?_readAllowAll_of_ne _ (by decide),
    get?_readAllowAll_of_ne _ (by decide), Attributes.flag?]

theorem get?_all_read :
    (read held).get? "self_allow_all" =
      (allowAll? (Group.spreadAll groups held)).or (held.get? "self_allow_all") := by
  rw [read_eq, get?_readLldp_of_ne _ (by decide) (by decide), get?_all_readAllowAll,
    Group.get?_spreadAll_of_not_mem not_mem_scope_of_all]

/-! ## Writing -/

theorem get?_writeAllowAll_of_ne (hall : name ≠ "self_allow_all")
    (hdefaults : name ≠ "self_allow_defaults") :
    (writeAllowAll body).get? name = body.get? name := by
  unfold writeAllowAll
  dsimp only
  split
  · split
    · rw [Attributes.get?_erase_of_ne _ hall]
    · rw [Attributes.get?_insert_of_ne _ hdefaults, Attributes.get?_erase_of_ne _ hall]
  · rw [Attributes.get?_erase_of_ne _ hall]

/-- A port lockdown that is given wins over the wish for all or no ports. -/
theorem get?_defaults_writeAllowAll :
    (writeAllowAll body).get? "self_allow_defaults" =
      (body.get? "self_allow_defaults").or ((body.flag? "self_allow_all").map fun all =>
        .text (if all then "all" else "none")) := by
  have hrest : (body.erase "self_allow_all").get? "self_allow_defaults" =
      body.get? "self_allow_defaults" :=
    Attributes.get?_erase_of_ne _ (by decide)
  unfold writeAllowAll
  cases hall : body.flag? "self_allow_all" with
  | none => simp [hrest]
  | some all =>
      cases hdefaults : body.get? "self_allow_defaults" with
      | some defaults => simp [Attributes.contains, hrest, hdefaults]
      | none => simp [Attributes.contains, hrest, hdefaults]

theorem get?_writeLldp_of_ne (henabled : name ≠ "lldp_enabled")
    (hdisabled : name ≠ "lldp_disabled") : (writeLldp body).get? name = body.get? name := by
  unfold writeLldp
  dsimp only
  split
  · rw [Attributes.get?_insert_of_ne _ henabled, Attributes.get?_erase_of_ne _ henabled]
  · rw [Attributes.get?_insert_of_ne _ hdisabled, Attributes.get?_erase_of_ne _ henabled]
  · rw [Attributes.get?_erase_of_ne _ henabled]

variable {body}

theorem distinct_writeAllowAll (h : body.Distinct) : (writeAllowAll body).Distinct := by
  unfold writeAllowAll
  dsimp only
  split
  · split
    · exact h.erase _
    · exact (h.erase _).insert _ _
  · exact h.erase _

theorem get?_all_writeAllowAll (h : body.Distinct) :
    (writeAllowAll body).get? "self_allow_all" = none := by
  have hrest : (body.erase "self_allow_all").get? "self_allow_all" = none := by
    rw [h.get?_erase, if_pos rfl]
  unfold writeAllowAll
  dsimp only
  split
  · split
    · exact hrest
    · rw [Attributes.get?_insert_of_ne _ (by decide), hrest]
  · exact hrest

theorem distinct_writeLldp (h : body.Distinct) : (writeLldp body).Distinct := by
  unfold writeLldp
  dsimp only
  split
  · exact (h.erase _).insert _ _
  · exact (h.erase _).insert _ _
  · exact h.erase _

/-- The flag of LLDP is written as the one of two flags that is set. -/
theorem get?_flags_writeLldp (h : body.Distinct) :
    (writeLldp body).get? "lldp_enabled" =
        (if body.flag? "lldp_enabled" = some true then some (.flag true) else none) ∧
      (writeLldp body).get? "lldp_disabled" =
        if body.flag? "lldp_enabled" = some false then some (.flag true)
        else body.get? "lldp_disabled" := by
  have henabled : (body.erase "lldp_enabled").get? "lldp_enabled" = none := by
    rw [h.get?_erase, if_pos rfl]
  have hdisabled : (body.erase "lldp_enabled").get? "lldp_disabled" =
      body.get? "lldp_disabled" :=
    Attributes.get?_erase_of_ne _ (by decide)
  unfold writeLldp
  cases hflag : body.flag? "lldp_enabled" with
  | none => simp [henabled, hdisabled]
  | some on =>
      cases on with
      | true => simp [hdisabled, Attributes.get?_insert]
      | false => simp [henabled, Attributes.get?_insert]

/-- Names that are not prepared are gathered as they are. -/
theorem get?_prepared_of_not_mem (h : name ∉ preparedNames) (body : Attributes) :
    (prepared body).get? name = body.get? name := by
  simp only [preparedNames, List.mem_cons, List.not_mem_nil, or_false, not_or] at h
  obtain ⟨hall, hdefaults, henabled, hdisabled⟩ := h
  rw [prepared, get?_writeLldp_of_ne _ henabled hdisabled,
    get?_writeAllowAll_of_ne _ hall hdefaults]

theorem get?_defaults_prepared (body : Attributes) :
    (prepared body).get? "self_allow_defaults" =
      (body.get? "self_allow_defaults").or ((body.flag? "self_allow_all").map fun all =>
        .text (if all then "all" else "none")) := by
  rw [prepared, get?_writeLldp_of_ne _ (by decide) (by decide), get?_defaults_writeAllowAll]

theorem get?_flags_prepared (h : body.Distinct) :
    (prepared body).get? "lldp_enabled" =
        (if body.flag? "lldp_enabled" = some true then some (.flag true) else none) ∧
      (prepared body).get? "lldp_disabled" =
        if body.flag? "lldp_enabled" = some false then some (.flag true)
        else body.get? "lldp_disabled" := by
  have hflag : (writeAllowAll body).flag? "lldp_enabled" = body.flag? "lldp_enabled" := by
    rw [Attributes.flag?, get?_writeAllowAll_of_ne _ (by decide) (by decide), Attributes.flag?]
  have hdisabled : (writeAllowAll body).get? "lldp_disabled" = body.get? "lldp_disabled" :=
    get?_writeAllowAll_of_ne _ (by decide) (by decide)
  rw [← hflag, ← hdisabled]
  exact get?_flags_writeLldp (distinct_writeAllowAll h)

theorem distinct_prepared (h : body.Distinct) : (prepared body).Distinct :=
  distinct_writeLldp (distinct_writeAllowAll h)

theorem get?_all_prepared (h : body.Distinct) :
    (prepared body).get? "self_allow_all" = none := by
  rw [prepared, get?_writeLldp_of_ne _ (by decide) (by decide), get?_all_writeAllowAll h]

theorem distinct_write (h : body.Distinct) : (write body).Distinct :=
  Group.distinct_gatherAll (distinct_prepared h) groups

/-- A name outside the groups is written as it is prepared. -/
theorem get?_write_of_not_mem (h : ∀ group ∈ groups, name ∉ group.scope) (body : Attributes) :
    (write body).get? name = (prepared body).get? name := by
  rw [write_eq, Group.get?_gatherAll_of_not_mem h]

/-- The group of LLDP is sent with its flag. -/
theorem sends_lldp_prepared (h : body.Distinct) (hdisabled : body.get? "lldp_disabled" = none)
    (hflag : ∀ value, body.get? "lldp_enabled" = some value → ∃ on, value = .flag on) :
    lldp.sends (prepared body) = lldp.sends body := by
  obtain ⟨hon, hoff⟩ := get?_flags_prepared h
  have hflags : ((prepared body).contains "lldp_enabled" ||
      (prepared body).contains "lldp_disabled") =
        (body.contains "lldp_enabled" || body.contains "lldp_disabled") := by
    rw [Attributes.contains, hon, Attributes.contains, hoff, Attributes.contains,
      Attributes.contains, hdisabled, Attributes.flag?]
    cases henabled : body.get? "lldp_enabled" with
    | none => rfl
    | some value =>
        obtain ⟨on, rfl⟩ := hflag value henabled
        cases on <;> rfl
  have hothers : ∀ name ∉ preparedNames,
      (prepared body).contains name = body.contains name := by
    intro name hname
    rw [Attributes.contains, get?_prepared_of_not_mem hname, Attributes.contains]
  simp only [Group.sends, lldp, List.any_cons, List.any_nil]
  rw [← Bool.or_assoc, hflags, Bool.or_assoc, hothers _ (by decide), hothers _ (by decide),
    hothers _ (by decide), hothers _ (by decide), hothers _ (by decide)]

/-- Groups without prepared members are sent with their members. -/
theorem sends_prepared {group : Group}
    (h : ∀ member ∈ group.members, member.1 ∉ preparedNames) (body : Attributes) :
    group.sends (prepared body) = group.sends body :=
  Group.sends_congr fun member hmember => get?_prepared_of_not_mem (h member hmember) body

end Globals
end Catalog
end DesiredState
