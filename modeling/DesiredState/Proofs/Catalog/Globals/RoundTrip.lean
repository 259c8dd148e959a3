import DesiredState.Proofs.Catalog.Globals.Fields

/-!
# The global settings, written and read back

Every setting is written in another form than it is wanted in.  Most of them
move into a nested map, the flag of LLDP becomes one of two flags, and the wish
for all or no ports becomes a port lockdown.  Reading undoes all of this.

A nested map does not say of which type its members are, though, and a text that
spells an integer is read as that integer.  The settings that are free texts
(`freeTexts`) are not spared, so a name like `2024` comes back as a number.
`comes_back_iff` says that nothing else is lost: what is wanted of a setting is
read back unchanged exactly when it is not such a text.
-/

namespace DesiredState
namespace Catalog
namespace Globals

/-- The settings that take any text. -/
def freeTexts : List String := ["stp_config_name", "stp_description"]

/-- What a wanted value of a setting comes back as. -/
def returned (name : String) (value : Value) : Value :=
  if name ∈ freeTexts then numericValue value else value

variable {params want : Attributes} {partition name : String} {target : Target} {value : Value}

/-- Other settings come back as they are wanted. -/
theorem returned_of_not_mem (h : name ∉ freeTexts) : returned name value = value :=
  if_neg h

section Accepted

variable (h : kind.Accepts partition params target want)

include h

/-- The view of the settings that are written follows them, over nothing. -/
theorem follows_written :
    kind.Follows followed want .empty (schema.ofWire (kind.write want)) :=
  faithful.follows_write h.normal followed

/-- A flag that is wanted is a flag. -/
theorem flag_of_wanted (hname : schema.field? name = some (Field.flag name))
    (hwanted : want.get? name = some value) : ∃ on, value = .flag on := by
  obtain ⟨field, hfield, hholds⟩ := Schema.holds_of_want nodup_names h.normal hwanted
  obtain rfl := Option.some.inj (hfield.symm.trans hname)
  exact Shape.exists_flag_of_holds hholds

/-- A member of a nested map that is written comes back as a value of that map. -/
theorem get?_member_of_written {group : Group} (hgroup : group ∈ groups) {inner : String}
    (hmember : (name, inner) ∈ group.members) {written : Value}
    (hwritten : (prepared want).get? name = some written) :
    (Group.spreadAll groups (schema.ofWire (kind.write want))).get? name =
      some (numericValue written) := by
  have hsends : group.sends (prepared want) = true :=
    Group.sends_of_contains hmember (Attributes.contains_iff.mpr ⟨written, hwritten⟩)
  rw [get?_member_of_follows (follows_written h) hgroup hmember, if_pos hsends, hwritten,
    Option.map_some, Option.some_or]

/-- What is wanted of a member that is not prepared comes back as a value of its
nested map. -/
theorem get?_plain_read_write {group : Group} (hgroup : group ∈ groups) {inner : String}
    (hmember : (name, inner) ∈ group.members) (hplain : name ∉ preparedNames)
    (hwanted : want.get? name = some value) :
    (kind.read (kind.write want)).get? name = some (returned name value) := by
  have hnames := hplain
  simp only [preparedNames, List.mem_cons, List.not_mem_nil, or_false, not_or] at hnames
  obtain ⟨hall, -, henabled, hdisabled⟩ := hnames
  have hwritten : (prepared want).get? name = some value :=
    (get?_prepared_of_not_mem hplain want).trans hwanted
  rw [read_kind_eq, get?_read_of_not_mem _ hall henabled hdisabled,
    get?_member_of_written h hgroup hmember hwritten, returned]
  by_cases hfree : name ∈ freeTexts
  · rw [if_pos hfree]
  · -- no other member takes a text that spells a number
    obtain ⟨field, hfield, rfl, given, -, hnormal⟩ :=
      Schema.normalized_of_want h.normal hwanted
    have hunnumbered := (fields_grouped field hfield hplain).2.resolve_right hfree
    rw [if_neg hfree, numericValue_of_holds hunnumbered (Field.normalize_holds hnormal)]

/-- The flag of LLDP comes back from the one of two flags that is written. -/
theorem get?_enabled_read_write (hwanted : want.get? "lldp_enabled" = some value) :
    (kind.read (kind.write want)).get? "lldp_enabled" = some value := by
  obtain ⟨on, rfl⟩ := flag_of_wanted h enabled_declared hwanted
  obtain ⟨hon, hoff⟩ := get?_flags_prepared (Schema.distinct_of_want h.normal)
  rw [Attributes.flag?_eq_some_iff.mpr hwanted] at hon hoff
  rw [read_kind_eq, get?_enabled_read]
  cases on with
  | true =>
      have hsends : lldp.sends (prepared want) = true :=
        Group.sends_of_contains (show ("lldp_enabled", "enabled") ∈ lldp.members by decide)
          (Attributes.contains_iff.mpr ⟨_, hon⟩)
      have hunwanted : want.get? "lldp_disabled" = none :=
        (follows_written h).get?_eq_none (by decide)
      have hshown := get?_member_of_follows (follows_written h) lldp_mem_groups
        (show ("lldp_disabled", "disabled") ∈ lldp.members by decide)
      rw [if_pos hsends, hoff, if_neg (by decide), hunwanted] at hshown
      have hother : (Group.spreadAll groups (schema.ofWire (kind.write want))).flag?
          "lldp_disabled" = none := by
        rw [Attributes.flag?, hshown]
        rfl
      rw [hother, if_neg (by decide)]
      exact get?_member_of_written h lldp_mem_groups
        (show ("lldp_enabled", "enabled") ∈ lldp.members by decide) hon
  | false =>
      have hshown := get?_member_of_written h lldp_mem_groups
        (show ("lldp_disabled", "disabled") ∈ lldp.members by decide) hoff
      rw [if_pos (Attributes.flag?_eq_some_iff.mpr hshown)]

/-- The wish for all or no ports comes back from the port lockdown. -/
theorem get?_all_read_write (hwanted : want.get? "self_allow_all" = some value) :
    (kind.read (kind.write want)).get? "self_allow_all" = some value := by
  obtain ⟨all, rfl⟩ := flag_of_wanted h all_declared hwanted
  have hprepared := get?_defaults_prepared want
  rw [unconflicting h hwanted, Attributes.flag?_eq_some_iff.mpr hwanted, Option.map_some,
    Option.none_or] at hprepared
  have hshown := get?_defaults_of_prepared (follows_written h) hprepared
  rw [read_kind_eq, get?_all_read, allowAll?, Attributes.text?, hshown]
  cases all <;> rfl

/-- The port lockdown comes back, as none of its keywords spells a number. -/
theorem get?_defaults_read_write (hwanted : want.get? "self_allow_defaults" = some value) :
    (kind.read (kind.write want)).get? "self_allow_defaults" = some value := by
  have hprepared : (prepared want).get? "self_allow_defaults" = some value := by
    rw [get?_defaults_prepared, hwanted, Option.some_or]
  have hunnumbered : numericValue value = value :=
    numericValue_defaults ((defaults_ordinary h).holds value hwanted)
  rw [read_kind_eq, get?_read_of_not_mem _ (by decide) (by decide) (by decide),
    get?_defaults_of_prepared (follows_written h) hprepared, hunnumbered]

/-- What is wanted of a setting comes back, as a number if it is a free text that
spells one. -/
theorem get?_read_write (hwanted : want.get? name = some value) :
    (kind.read (kind.write want)).get? name = some (returned name value) := by
  have hdeclared : name ∈ schema.names :=
    Schema.names_of_want h.normal name (Attributes.mem_names_iff.mpr ⟨value, hwanted⟩)
  rcases names_grouped name hdeclared with rfl | ⟨group, hgroup, member, hmember, rfl⟩
  · rw [returned_of_not_mem (by decide)]
    exact get?_all_read_write h hwanted
  · rcases member_cases group hgroup member hmember with heq | ⟨-, heq⟩ | ⟨-, heq⟩ | ⟨-, hplain⟩
    · -- the second flag of LLDP is not declared
      rw [heq] at hdeclared
      exact absurd hdeclared (by decide)
    · rw [heq] at hwanted ⊢
      rw [returned_of_not_mem (by decide)]
      exact get?_enabled_read_write h hwanted
    · rw [heq] at hwanted ⊢
      rw [returned_of_not_mem (by decide)]
      exact get?_defaults_read_write h hwanted
    · exact get?_plain_read_write h hgroup hmember hplain hwanted

end Accepted

/-- A value is lost exactly if it is a free text that spells an integer. -/
theorem returned_eq_iff :
    returned name value = value ↔
      ¬(name ∈ freeTexts ∧
        ∃ content number, value = .text content ∧ Text.readInt64 content = some number) := by
  by_cases hfree : name ∈ freeTexts
  · rw [returned, if_pos hfree]
    cases value with
    | text content =>
        rw [numericValue_text_iff, Option.eq_none_iff_forall_ne_some]
        simp [hfree]
    | _ => simp [numericValue]
  · simp [returned, hfree]

/-- What is wanted of a setting is read back from what is written exactly when it is
not a free text that spells an integer. -/
theorem comes_back_iff (hwant : kind.want partition params target = .ok want)
    (hwanted : want.get? name = some value) :
    (kind.read (kind.write want)).get? name = some value ↔
      ¬(name ∈ freeTexts ∧
        ∃ content number, value = .text content ∧ Text.readInt64 content = some number) := by
  rw [get?_read_write (ResourceKind.accepts_of_want hwant) hwanted, Option.some.injEq,
    returned_eq_iff]

/-- Asks for a setting of every kind: a name, a flag, a limit, and all ports. -/
def renamed : Attributes :=
  ⟨[("stp_config_name", .text "region-1"), ("mcast_rate_limit", .flag true),
    ("lldp_enabled", .flag false), ("lldp_tx_delay", .text "4"), ("self_allow_all", .flag true)]⟩

/-- What is wanted then, in normal form. -/
def renamedWanted : Attributes :=
  ⟨[("stp_config_name", .text "region-1"), ("mcast_rate_limit", .text "enabled"),
    ("lldp_enabled", .flag false), ("lldp_tx_delay", .int 4), ("self_allow_all", .flag true)]⟩

/-- All of it comes back, since the name does not spell a number. -/
theorem renamed_comes_back :
    kind.want "Common" renamed .present = .ok renamedWanted ∧
      ∀ name value, renamedWanted.get? name = some value →
        (kind.read (kind.write renamedWanted)).get? name = some value := by
  have hwant : kind.want "Common" renamed .present = .ok renamedWanted := rfl
  refine ⟨hwant, fun name value hwanted => (comes_back_iff hwant hwanted).mpr ?_⟩
  rintro ⟨hfree, content, number, rfl, hnumber⟩
  have hregion : Text.readInt64 "region-1" = none := by decide
  rcases List.mem_pair.mp hfree with rfl | rfl
  · obtain rfl : "region-1" = content :=
      Value.text.inj (Option.some.inj ((show renamedWanted.get? "stp_config_name" =
        some (.text "region-1") by rfl).symm.trans hwanted))
    rw [hregion] at hnumber
    cases hnumber
  · cases hwanted

/-- A region that is named after a year comes back as a number. -/
theorem numbered_comes_back_changed :
    kind.want "Common" ⟨[("stp_config_name", .text "2024")]⟩ .present =
        .ok ⟨[("stp_config_name", .text "2024")]⟩ ∧
      (kind.read (kind.write ⟨[("stp_config_name", .text "2024")]⟩)).get? "stp_config_name" =
        some (.int 2024) :=
  ⟨rfl, rfl⟩

end Globals
end Catalog
end DesiredState
