import DesiredState.Proofs.Catalog.Globals.View
import DesiredState.Proofs.Catalog.Kinds
import DesiredState.Proofs.Catalog.NatPool.View
import DesiredState.Proofs.Catalog.Virtual.View
import DesiredState.Proofs.ResourceKind
import DesiredState.Proofs.Schema.Change
import DesiredState.Proofs.Schema.Wire

/-!
# Logical names and the wire

A device knows nothing of the names that are only a caller's: those that a
writer sends in another form, and those that are sent under an alias.

* `ResourceKind.Sheds` — a kind that keeps such names off the wire, but for
  what it lets through;
* `sheds_of_kindOf` — every kind of the catalogue does, and what it lets
  through is told by `Entry.Leaks`;
* `not_leaks_of_creation` — a creation has none of it;
* `logicalOnly_sent_iff` — what is sent of these names with a creation, a change
  set or a want map.

The writer of virtual servers takes the one list of VLANs or the other, and
never both; two lists come to it where one of them is to be cleared.
-/

namespace DesiredState

/-! ## What a writer sheds -/

/-- A kind that keeps some names and the aliased ones off the wire, but for what it lets
through. -/
structure ResourceKind.Sheds (kind : ResourceKind) (reshaped : List String)
    (leaks : Attributes → String → Prop) : Prop where
  /-- No other name is sent under one of these. -/
  unwired : ∀ name ∈ reshaped ++ kind.schema.aliased, kind.schema.Unwired name
  /-- None of them has an alias as well. -/
  unaliased : ∀ name ∈ reshaped, name ∉ kind.schema.aliased
  /-- What is written has none of them but those that are let through. -/
  written : ∀ body : Attributes, body.Distinct → ∀ name ∈ reshaped,
    (name ∈ (kind.writer body).names ↔ leaks body name)
  /-- Nothing else is let through. -/
  reshaped_of_leaks : ∀ body name, leaks body name → name ∈ reshaped

/-- What is sent has no such name but those that are let through. -/
theorem ResourceKind.Sheds.mem_names_write_iff {kind : ResourceKind} {reshaped : List String}
    {leaks : Attributes → String → Prop} (h : kind.Sheds reshaped leaks) {body : Attributes}
    (hbody : body.Distinct) {name : String} (hname : name ∈ reshaped ++ kind.schema.aliased) :
    name ∈ (kind.write body).names ↔ leaks body name := by
  rw [write, (h.unwired name hname).mem_names_toWire_iff]
  rcases List.mem_append.mp hname with hreshaped | haliased
  · rw [h.written body hbody name hreshaped, and_iff_left (h.unaliased name hreshaped)]
  · constructor
    · exact fun hsent => absurd haliased hsent.2
    · exact fun hleaks => absurd haliased (h.unaliased name (h.reshaped_of_leaks body name hleaks))

theorem Attributes.mem_names_iff_contains {set : Attributes} {name : String} :
    name ∈ set.names ↔ set.contains name = true := by
  rw [mem_names_iff, contains_iff]

namespace Catalog

/-- Members are sent inside the map of their group, and not beside it. -/
theorem Group.get?_member_gatherAll {groups : List Group} {group : Group} {body : Attributes}
    {name : String} (hregular : AllRegular groups) (hbody : body.Distinct)
    (hgroup : group ∈ groups) (hname : name ∈ group.members.map Prod.fst) :
    (gatherAll groups body).get? name = none := by
  have hscope : name ∈ group.scope := List.mem_cons_of_mem _ hname
  have hmember := hregular.1 group hgroup
  have hne : name ≠ group.wire := fun heq => hmember.2.2 (heq ▸ hname)
  rw [get?_gatherAll_of_mem hregular hgroup hbody hscope, get?_gather hmember hbody,
    if_neg (fun hboth => hne hboth.1), if_pos hname]

/-! ## The kinds -/

namespace NatPool

/-- The names that are sent in another form. -/
def shed : List String :=
  ["port_range_low", "port_range_high"] ++
    groups.flatMap fun group => group.members.map Prod.fst

theorem get?_write_of_shed {body : Attributes} (hbody : body.Distinct) {name : String}
    (hname : name ∈ shed) : (write body).get? name = none := by
  rcases List.mem_append.mp hname with hrange | hmember
  · obtain ⟨hlow, hhigh⟩ := get?_ends_writeRange (Group.distinct_gatherAll hbody groups)
    simp only [List.mem_cons, List.not_mem_nil, or_false] at hrange
    rcases hrange with rfl | rfl
    · exact hlow
    · exact hhigh
  · have hfresh : ∀ name ∈ groups.flatMap fun group => group.members.map Prod.fst,
        name ∉ rangeNames := by decide
    obtain ⟨group, hgroup, hmember'⟩ := List.mem_flatMap.mp hmember
    rw [get?_write_of_not_range (hfresh name hmember)]
    exact Group.get?_member_gatherAll allRegular_groups hbody hgroup hmember'

end NatPool

namespace Globals

/-- The names that are sent in another form. -/
def shed : List String :=
  "self_allow_all" :: groups.flatMap fun group => group.members.map Prod.fst

theorem get?_write_of_shed {body : Attributes} (hbody : body.Distinct) {name : String}
    (hname : name ∈ shed) : (write body).get? name = none := by
  rcases List.mem_cons.mp hname with rfl | hmember
  · rw [get?_write_of_not_mem not_mem_scope_of_all, get?_all_prepared hbody]
  · obtain ⟨group, hgroup, hmember⟩ := List.mem_flatMap.mp hmember
    exact Group.get?_member_gatherAll allRegular_groups (distinct_prepared hbody) hgroup hmember

end Globals

namespace Archive

/-- The names that are sent in another form. -/
def shed : List String :=
  options.map Prod.fst ++ ["passphrase"]

/-- Options and passphrase are sent in one list, under a name of its own. -/
theorem get?_write_of_shed {body : Attributes} (hbody : body.Distinct) {name : String}
    (hname : name ∈ shed) : (write body).get? name = none := by
  have hrest : ((Group.eraseMembers options body).erase "passphrase").get? name = none := by
    rw [(Group.distinct_eraseMembers hbody options).get?_erase, Group.get?_eraseMembers hbody]
    rcases List.mem_append.mp hname with hoption | hpassphrase
    · rw [if_pos hoption, ite_self]
    · rw [if_pos (List.mem_singleton.mp hpassphrase).symm]
  have hne : name ≠ "options" := by
    have hall : ∀ name ∈ shed, name ≠ "options" := by decide
    exact hall name hname
  unfold write
  dsimp only
  split
  · exact hrest
  · exact (Attributes.get?_insert_of_ne _ hne _).trans hrest

end Archive

namespace Virtual

/-- The names that are sent in another form. -/
def shed : List String := ["port", "enabled_vlans", "disabled_vlans"]

/-- Both lists of VLANs at once: the writer sends the enabled one and leaves the other one
under its own name. -/
def Leaks (body : Attributes) (name : String) : Prop :=
  name = "disabled_vlans" ∧ body.contains "enabled_vlans" = true ∧
    body.contains "disabled_vlans" = true

/-- What is written of the two lists of VLANs under their own names. -/
theorem get?_vlans_write {body : Attributes} (hbody : body.Distinct) :
    (write body).get? "enabled_vlans" = none ∧
      (write body).get? "disabled_vlans" =
        if body.contains "enabled_vlans" then body.get? "disabled_vlans" else none := by
  cases henabled : body.get? "enabled_vlans" with
  | some vlans =>
      obtain ⟨-, -, hgone, hkept⟩ := get?_write_of_enabled hbody henabled
      rw [if_pos (Attributes.contains_iff.mpr ⟨vlans, henabled⟩)]
      exact ⟨hgone, hkept⟩
  | none =>
      have hwithout : ¬ body.contains "enabled_vlans" = true := by
        rw [Attributes.contains_eq_false_iff.mpr henabled]
        exact Bool.false_ne_true
      rw [if_neg hwithout]
      cases hdisabled : body.get? "disabled_vlans" with
      | some vlans =>
          obtain ⟨-, -, hgone, hsent⟩ := get?_write_of_disabled hbody henabled hdisabled
          exact ⟨hgone, hsent⟩
      | none =>
          constructor
          · rw [get?_write_of_no_vlans henabled hdisabled (by decide) (by decide), henabled]
          · rw [get?_write_of_no_vlans henabled hdisabled (by decide) (by decide), hdisabled]

theorem mem_names_write_of_shed {body : Attributes} (hbody : body.Distinct) {name : String}
    (hname : name ∈ shed) : name ∈ (write body).names ↔ Leaks body name := by
  obtain ⟨henabled, hdisabled⟩ := get?_vlans_write hbody
  simp only [shed, List.mem_cons, List.not_mem_nil, or_false] at hname
  rw [Attributes.mem_names_iff_contains, Attributes.contains]
  rcases hname with rfl | rfl | rfl
  · rw [get?_port_write hbody]
    simp [Leaks]
  · rw [henabled]
    simp [Leaks]
  · rw [hdisabled]
    unfold Leaks
    split
    · rename_i hbeside
      exact ⟨fun hsent => ⟨rfl, hbeside, hsent⟩, fun hleaks => hleaks.2.2⟩
    · rename_i hwithout
      constructor
      · intro hsent
        cases hsent
      · exact fun hleaks => absurd hleaks.2.1 hwithout

end Virtual

/-! ## The catalogue -/

/-- The names that the writer of an entry sends in another form. -/
def Entry.shed : Entry → List String
  | .natPool => NatPool.shed
  | .logEndpoint => ["type"]
  | .globals => Globals.shed
  | .virtual => Virtual.shed
  | .archive => Archive.shed
  | .policy | .volume | .provisioning => []

/-- What slips through on the way to the device. -/
def Entry.Leaks (entry : Entry) (body : Attributes) (name : String) : Prop :=
  entry = .virtual ∧ Virtual.Leaks body name

/-- The names that are only a caller's: those that are sent in another form, and those that
are sent under an alias. -/
def Entry.logicalOnly (entry : Entry) (schema : Schema) : List String :=
  entry.shed ++ schema.aliased

/-- A kind whose writer leaves none of its names behind. -/
theorem sheds_of_get? {entry : Entry} {kind : ResourceKind} {writer : Attributes → Attributes}
    (hwriter : kind.writer = writer) (hentry : entry ≠ .virtual)
    (hunwired : ∀ name ∈ entry.shed ++ kind.schema.aliased, kind.schema.Unwired name)
    (hunaliased : ∀ name ∈ entry.shed, name ∉ kind.schema.aliased)
    (hgone : ∀ body : Attributes, body.Distinct → ∀ name ∈ entry.shed,
      (writer body).get? name = none) : kind.Sheds entry.shed entry.Leaks where
  unwired := hunwired
  unaliased := hunaliased
  written := by
    intro body hbody name hname
    rw [hwriter]
    exact iff_of_false (Attributes.get?_eq_none_iff.mp (hgone body hbody name hname))
      fun hleaks => hentry hleaks.1
  reshaped_of_leaks := fun _ _ hleaks => absurd hleaks.1 hentry

theorem sheds_natPool : NatPool.kind.Sheds (Entry.shed .natPool) (Entry.Leaks .natPool) :=
  sheds_of_get? (by simp only [NatPool.kind]) nofun (by decide) (by decide)
    fun _ hbody _ hname => NatPool.get?_write_of_shed hbody hname

theorem sheds_globals : Globals.kind.Sheds (Entry.shed .globals) (Entry.Leaks .globals) :=
  sheds_of_get? (by simp only [Globals.kind]) nofun (by decide) (by decide)
    fun _ hbody _ hname => Globals.get?_write_of_shed hbody hname

theorem sheds_archive : Archive.kind.Sheds (Entry.shed .archive) (Entry.Leaks .archive) :=
  sheds_of_get? (by simp only [Archive.kind]) nofun (by decide) (by decide)
    fun _ hbody _ hname => Archive.get?_write_of_shed hbody hname

theorem sheds_logEndpoint (variety : LogEndpoint.Variety) :
    (LogEndpoint.kind variety).Sheds (Entry.shed .logEndpoint) (Entry.Leaks .logEndpoint) := by
  have hnames : ∀ variety, (∀ name ∈ ["type"] ++ (LogEndpoint.schema variety).aliased,
      (LogEndpoint.schema variety).Unwired name) ∧
        ∀ name ∈ ["type"], name ∉ (LogEndpoint.schema variety).aliased := by
    intro variety
    cases variety <;> decide
  obtain ⟨hunwired, hunaliased⟩ := hnames variety
  refine sheds_of_get? rfl nofun hunwired hunaliased fun body hbody name hname => ?_
  obtain rfl := List.mem_singleton.mp hname
  exact (hbody.get?_erase _ _).trans (if_pos rfl)

theorem sheds_virtual : Virtual.kind.Sheds (Entry.shed .virtual) (Entry.Leaks .virtual) := by
  have hwriter : Virtual.kind.writer = Virtual.write := by simp only [Virtual.kind]
  have hleaks : ∀ body name, Entry.Leaks .virtual body name ↔ Virtual.Leaks body name :=
    fun body name => and_iff_right rfl
  refine ⟨by decide, by decide, fun body hbody name hname => ?_, fun body name h => ?_⟩
  · rw [hwriter, hleaks]
    exact Virtual.mem_names_write_of_shed hbody hname
  · rw [((hleaks body name).mp h).1]
    decide

/-- A kind whose schema has no alias sheds nothing, and has nothing to shed. -/
theorem sheds_of_unaliased {entry : Entry} {kind : ResourceKind} (hentry : entry ≠ .virtual)
    (hnone : entry.shed = []) (hunaliased : kind.schema.aliased = []) :
    kind.Sheds entry.shed entry.Leaks := by
  refine sheds_of_get? rfl hentry ?_ ?_ fun _ _ => ?_
  · rw [hnone, hunaliased]
    exact List.forall_mem_nil _
  · rw [hnone]
    exact List.forall_mem_nil _
  · rw [hnone]
    exact List.forall_mem_nil _

/-- Every kind of the catalogue keeps its logical names off the wire, but for the lists of
VLANs of a virtual server. -/
theorem sheds_of_kindOf {entry : Entry} {selector : Selector} {kind : ResourceKind}
    (h : kindOf entry selector = .ok kind) : kind.Sheds entry.shed entry.Leaks := by
  refine forall_kindOf h sheds_natPool sheds_logEndpoint sheds_globals sheds_virtual ?_ ?_
    sheds_archive ?_
  · exact fun generation => sheds_of_unaliased nofun rfl rfl
  · exact sheds_of_unaliased nofun rfl rfl
  · exact sheds_of_unaliased nofun rfl rfl

/-! ## What is sent -/

section Sent

variable {entry : Entry} {selector : Selector} {kind : ResourceKind} {partition : String}
  {params want creation changes : Attributes} {target : Target} {name : String}

/-- A creation has at most one list of VLANs: two lists that are both set are refused, and
one that is cleared is left out. -/
theorem not_leaks_of_creation (hkind : kindOf entry selector = .ok kind)
    (hwant : kind.want partition params target = .ok want)
    (hcreation : kind.creation want = .ok creation) : ¬ entry.Leaks creation name := by
  rintro ⟨rfl, -, henabled, hdisabled⟩
  obtain rfl := Except.ok.inj hkind
  have hset : ∀ name ∈ ["enabled_vlans", "disabled_vlans"], creation.contains name = true →
      want.isSet name = true := by
    intro name hname hcontains
    have hdeclared : ∀ name ∈ ["enabled_vlans", "disabled_vlans"],
        name ∈ Virtual.kind.schema.names := by decide
    obtain ⟨value, hvalue⟩ := Attributes.contains_iff.mp hcontains
    rw [ResourceKind.get?_of_creation_of_no_defaults hcreation rfl (hdeclared name hname)] at hvalue
    obtain ⟨hwanted, hkept⟩ := Option.filter_eq_some_iff.mp hvalue
    simpa [Attributes.isSet, hwanted] using hkept
  have hunset := (ResourceKind.accepts_of_want hwant).unexclusive
    ("enabled_vlans", "disabled_vlans") (by decide)
    (hset _ (by decide) henabled)
  rw [hset _ (by decide) hdisabled] at hunset
  cases hunset

/-- No name that is only a caller's is sent with a creation.  With a change set or a want
map one is: `disabled_vlans`, exactly where both lists of VLANs of a virtual server are
among what is sent. -/
theorem logicalOnly_sent_iff (hkind : kindOf entry selector = .ok kind)
    (hwant : kind.want partition params target = .ok want) (held : Attributes)
    (hname : name ∈ entry.logicalOnly kind.schema) :
    (∀ creation, kind.creation want = .ok creation → name ∉ (kind.write creation).names) ∧
      (∀ changes, kind.changes want held = .ok changes →
        (name ∈ (kind.write changes).names ↔ entry.Leaks changes name)) ∧
      (name ∈ (kind.write want).names ↔ entry.Leaks want name) := by
  have hsheds := sheds_of_kindOf hkind
  refine ⟨fun creation hcreation hsent => ?_, fun changes hchanges => ?_, ?_⟩
  · have hdistinct := ResourceKind.distinct_of_creation hcreation
    exact not_leaks_of_creation hkind hwant hcreation
      ((hsheds.mem_names_write_iff hdistinct hname).mp hsent)
  · exact hsheds.mem_names_write_iff (Schema.distinct_of_changes hchanges) hname
  · have hnormal := (ResourceKind.accepts_of_want hwant).normal
    exact hsheds.mem_names_write_iff (Schema.distinct_of_want hnormal) hname

end Sent

/-! ## A list of VLANs that is traded for the other one -/

namespace Virtual

/-- A server that listens on one VLAN. -/
def listening : Attributes := ⟨[
  ("destination", .text "/Common/10.0.0.1"), ("port", .int 80),
  ("enabled_vlans", .list ["/Common/a"])]⟩

/-- The wish to listen on another VLAN. -/
def moved : Attributes := ⟨[("enabled_vlans", .list ["/Common/b"])]⟩

/-- The wish to listen everywhere but on one VLAN. -/
def inverted : Attributes := ⟨[
  ("enabled_vlans", .list []), ("disabled_vlans", .list ["/Common/b"])]⟩

/-- A server that moves to another VLAN is sent nothing under a logical name. -/
theorem moved_sends_no_logical :
    kindOf .virtual {} = .ok kind ∧ kind.want "Common" moved .present = .ok moved ∧
      "enabled_vlans" ∈ Entry.logicalOnly .virtual kind.schema ∧
      kind.changes moved listening = .ok moved ∧
      "enabled_vlans" ∉ (kind.write moved).names := by
  have hkind : kindOf .virtual {} = .ok kind := rfl
  have hwant : kind.want "Common" moved .present = .ok moved := rfl
  have hname : "enabled_vlans" ∈ Entry.logicalOnly .virtual kind.schema := by decide
  have hchanges : kind.changes moved listening = .ok moved := rfl
  obtain ⟨-, hsent, -⟩ := logicalOnly_sent_iff hkind hwant listening hname
  refine ⟨hkind, hwant, hname, hchanges, fun hmem => ?_⟩
  obtain ⟨-, hleaks, -⟩ := (hsent moved hchanges).mp hmem
  exact absurd hleaks (by decide)

/-- Where the one list is cleared and the other one is set, the second one is sent under
its logical name. -/
theorem inverted_sends_logical :
    kindOf .virtual {} = .ok kind ∧ kind.want "Common" inverted .present = .ok inverted ∧
      "disabled_vlans" ∈ Entry.logicalOnly .virtual kind.schema ∧
      ∃ changes, kind.changes inverted listening = .ok changes ∧
        "disabled_vlans" ∈ (kind.write changes).names := by
  refine ⟨rfl, rfl, by decide, inverted, rfl, ?_⟩
  decide

end Virtual
end Catalog
end DesiredState
