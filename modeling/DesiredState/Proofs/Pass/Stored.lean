import DesiredState.Proofs.Pass.Offline
import DesiredState.Proofs.Schema.Dependency

/-!
# What a pass stores, read back

The body that a pass sends carries the written attributes and the flags.  A
name that reader and writer leave alone is shown as it was sent; what they do
to other names is said kind by kind.
-/

namespace DesiredState

namespace ResourceKind

/-- A kind whose declared attributes may all be updated, and whatever it writes
comes back from the wire. -/
structure Faithful (kind : ResourceKind) : Prop where
  /-- Every declared name may be updated. -/
  updatable : kind.updatable = kind.schema.names
  /-- Pairs are declared from both sides. -/
  paired : kind.schema.PairsMutually kind.schema.names
  /-- The writer keeps names distinct, and they return. -/
  writes : ∀ body : Attributes, body.Distinct → (∀ name ∈ body.names, name ∈ kind.schema.names) →
    (kind.writer body).Distinct ∧
      ∀ name ∈ (kind.writer body).names, kind.schema.Returns name
  /-- The name of the resource has no alias. -/
  named : kind.schema.Plain "name"
  /-- The flags have no alias. -/
  flagged : ∀ flags, kind.flags = some flags →
    kind.schema.Plain flags.enabled ∧ kind.schema.Plain flags.disabled

/-- A name without an alias that is neither the name of the resource nor a flag. -/
def Bare (kind : ResourceKind) (name : String) : Prop :=
  kind.schema.Plain name ∧ name ≠ "name" ∧
    ∀ flags, kind.flags = some flags → name ≠ flags.enabled ∧ name ≠ flags.disabled

instance (kind : ResourceKind) (name : String) : Decidable (kind.Bare name) :=
  inferInstanceAs (Decidable (_ ∧ _ ∧ ∀ flags, kind.flags = some flags → _))

/-- A view shows what was sent over a base, under some names. -/
structure Follows (kind : ResourceKind) (names : List String)
    (sent base view : Attributes) : Prop where
  /-- No name is sent twice. -/
  distinct : sent.Distinct
  /-- Declared names only are sent. -/
  declared : ∀ name ∈ sent.names, name ∈ kind.schema.names
  /-- What is written is shown, and all else is left as it was. -/
  get?_eq : ∀ name ∈ names, view.get? name =
    (((kind.writer sent).get? name).map (kind.schema.coerced name)).or (base.get? name)

theorem Follows.get?_eq_none {kind : ResourceKind} {names : List String}
    {sent base view : Attributes} (h : kind.Follows names sent base view) {name : String}
    (hname : name ∉ kind.schema.names) : sent.get? name = none := by
  rw [Attributes.get?_eq_none_iff]
  exact fun hmem => hname (h.declared name hmem)

/-- A declared name that reader and writer leave alone. -/
structure Transparent (kind : ResourceKind) (name : String) : Prop where
  /-- The name comes back from the wire. -/
  returns : kind.schema.Returns name
  /-- The reader leaves the name alone. -/
  read : ∀ held : Attributes, (kind.reader held).get? name = held.get? name
  /-- The writer leaves the name alone. -/
  written : ∀ body : Attributes, (kind.writer body).get? name = body.get? name
  /-- The name is not the one that every creation sends. -/
  unnamed : name ≠ "name"
  /-- The name is no flag. -/
  unflagged : ∀ flags, kind.flags = some flags → name ≠ flags.enabled ∧ name ≠ flags.disabled

/-- What a change set of a faithful kind holds, name by name. -/
theorem Faithful.get?_changes {kind : ResourceKind} (h : kind.Faithful)
    {want held changes : Attributes} (hchanges : kind.changes want held = .ok changes)
    (name : String) :
    changes.get? name =
      if name ∈ kind.schema.names then kind.schema.sent want held name else none := by
  have hpairs : kind.schema.PairsMutually kind.updatable := h.updatable ▸ h.paired
  rw [Schema.get?_of_changes hpairs hchanges, h.updatable]

/-- The names of a pair are sent together, where either differs from what is
wanted. -/
theorem Faithful.get?_changes_of_pair {kind : ResourceKind} (h : kind.Faithful)
    {want held changes : Attributes} (hchanges : kind.changes want held = .ok changes)
    {name partner : String} (hname : name ∈ kind.schema.names)
    (hpaired : kind.schema.comparison name = .paired partner) :
    ∀ other, other = name ∨ other = partner → changes.get? other =
      if Schema.differs want held name || Schema.differs want held partner then
        (want.get? other).or (held.get? other)
      else none := by
  obtain ⟨hpartner, hback⟩ := h.paired name hname partner hpaired
  rintro other (rfl | rfl)
  · rw [h.get?_changes hchanges, if_pos hname, Schema.sent_of_paired hpaired]
  · rw [h.get?_changes hchanges, if_pos hpartner, Schema.sent_of_paired hback, Bool.or_comm]

/-- A change set has declared names only. -/
theorem Faithful.names_of_changes {kind : ResourceKind} (h : kind.Faithful)
    {want held changes : Attributes} (hchanges : kind.changes want held = .ok changes) :
    ∀ name ∈ changes.names, name ∈ kind.schema.names := by
  intro name hname
  obtain ⟨value, hvalue⟩ := Attributes.mem_names_iff.mp hname
  rw [h.get?_changes hchanges] at hvalue
  split at hvalue
  · assumption
  · cases hvalue

/-- The view of what is written for a want map shows the same, name by name. -/
theorem Faithful.get?_ofWire_write {kind : ResourceKind} (h : kind.Faithful)
    {params want : Attributes} {partition : String}
    (hnormal : kind.schema.want params partition = .ok want) (name : String) :
    (kind.schema.ofWire (kind.write want)).get? name =
      ((kind.writer want).get? name).map (kind.schema.coerced name) := by
  obtain ⟨hwritten, hreturns⟩ := h.writes want (Schema.distinct_of_want hnormal)
    (Schema.names_of_want hnormal)
  exact Schema.get?_ofWire_toWire hwritten hreturns name

/-- The view of what is written for a want map follows it, over nothing. -/
theorem Faithful.follows_write {kind : ResourceKind} (h : kind.Faithful)
    {params want : Attributes} {partition : String}
    (hnormal : kind.schema.want params partition = .ok want) (names : List String) :
    kind.Follows names want .empty (kind.schema.ofWire (kind.write want)) where
  distinct := Schema.distinct_of_want hnormal
  declared := Schema.names_of_want hnormal
  get?_eq := fun name _ => by
    rw [h.get?_ofWire_write hnormal, Attributes.get?_empty, Option.or_none]

/-- A creation has declared names only. -/
theorem names_of_creation {kind : ResourceKind} {want creation : Attributes}
    (h : kind.creation want = .ok creation) :
    ∀ name ∈ creation.names, name ∈ kind.schema.names := by
  intro name hname
  obtain ⟨value, hvalue⟩ := Attributes.mem_names_iff.mp hname
  rw [get?_of_creation h] at hvalue
  split at hvalue
  · assumption
  · cases hvalue

end ResourceKind

namespace FlagPair

variable {flags : FlagPair} {target : Target} {found : Attributes}

theorem distinct_of_forTarget (h : flags.forTarget target = some found) :
    found.Distinct := by
  obtain ⟨on, -, rfl⟩ := Option.map_eq_some_iff.mp h
  exact (Attributes.distinct_empty.insert _ _).insert _ _

/-- The flags of a target are the two of the pair. -/
theorem mem_names_of_forTarget (h : flags.forTarget target = some found) {name : String}
    (hname : name ∈ found.names) : name = flags.enabled ∨ name = flags.disabled := by
  obtain ⟨on, -, rfl⟩ := Option.map_eq_some_iff.mp h
  obtain ⟨value, hvalue⟩ := Attributes.mem_names_iff.mp hname
  simp only [Attributes.get?_insert, Attributes.get?_empty] at hvalue
  split at hvalue
  · rename_i hdisabled
    exact Or.inr hdisabled.symm
  · split at hvalue
    · rename_i henabled
      exact Or.inl henabled.symm
    · cases hvalue

end FlagPair

namespace Pass

variable {pass : Pass} {want raw held changes creation : Attributes} {name : String}

/-- The flags that the update of a resource sends. -/
def flagsSent (pass : Pass) (want held : Attributes) : Attributes :=
  (pass.flagsOfUpdate (pass.kind.observe held want)).getD .empty

/-- The flags that a creation sends along. -/
def flagsCreated (pass : Pass) : Attributes :=
  match pass.kind.flags with
  | some flags => if flags.onCreate then (flags.forTarget pass.target).getD .empty else .empty
  | none => .empty

/-- Two flags of the pass's kind, or none at all. -/
def IsFlags (pass : Pass) (sent : Attributes) : Prop :=
  sent = .empty ∨ ∃ flags, pass.kind.flags = some flags ∧
    flags.forTarget pass.target = some sent

theorem isFlags_flagsSent (pass : Pass) (want held : Attributes) :
    pass.IsFlags (pass.flagsSent want held) := by
  unfold flagsSent flagsOfUpdate
  cases hflags : pass.kind.flags with
  | none => exact Or.inl rfl
  | some flags =>
      dsimp only
      split
      · exact Or.inl rfl
      · cases htarget : flags.forTarget pass.target with
        | none => exact Or.inl rfl
        | some found => exact Or.inr ⟨flags, hflags, htarget⟩

theorem isFlags_flagsCreated (pass : Pass) : pass.IsFlags pass.flagsCreated := by
  unfold flagsCreated
  cases hflags : pass.kind.flags with
  | none => exact Or.inl rfl
  | some flags =>
      dsimp only
      split
      · cases htarget : flags.forTarget pass.target with
        | none => exact Or.inl rfl
        | some found => exact Or.inr ⟨flags, hflags, htarget⟩
      · exact Or.inl rfl

theorem IsFlags.distinct {sent : Attributes} (h : pass.IsFlags sent) : sent.Distinct := by
  obtain rfl | ⟨flags, -, htarget⟩ := h
  · exact Attributes.distinct_empty
  · exact FlagPair.distinct_of_forTarget htarget

theorem IsFlags.carries {sent : Attributes} (h : pass.IsFlags sent)
    (hfaithful : pass.kind.Faithful) : pass.kind.schema.Carries sent sent := by
  refine Schema.carries_of_plain h.distinct fun name hname => ?_
  obtain rfl | ⟨flags, hflags, htarget⟩ := h
  · cases hname
  · obtain ⟨henabled, hdisabled⟩ := hfaithful.flagged flags hflags
    rcases FlagPair.mem_names_of_forTarget htarget hname with rfl | rfl
    · exact henabled
    · exact hdisabled

/-- Flags say nothing about other names. -/
theorem IsFlags.get?_eq_none {sent : Attributes} (h : pass.IsFlags sent)
    (hname : ∀ flags, pass.kind.flags = some flags →
      name ≠ flags.enabled ∧ name ≠ flags.disabled) : sent.get? name = none := by
  -- the only names of flags are the two of the pair
  rw [Attributes.get?_eq_none_iff]
  intro hmem
  obtain rfl | ⟨flags, hflags, htarget⟩ := h
  · cases hmem
  · obtain ⟨henabled, hdisabled⟩ := hname flags hflags
    rcases FlagPair.mem_names_of_forTarget htarget hmem with heq | heq
    · exact henabled heq
    · exact hdisabled heq

/-- The body of an update carries what is written and the flags. -/
theorem carries_updateBody (hfaithful : pass.kind.Faithful) (hdistinct : changes.Distinct)
    (hnames : ∀ name ∈ changes.names, name ∈ pass.kind.schema.names)
    (want held : Attributes) :
    pass.kind.schema.Carries (pass.updateBody want held changes)
      ((pass.kind.writer changes).update (pass.flagsSent want held)) := by
  obtain ⟨hwritten, hreturns⟩ := hfaithful.writes changes hdistinct hnames
  have hflags := isFlags_flagsSent pass want held
  exact (Schema.carries_toWire hwritten hreturns).update (hflags.carries hfaithful)
    hflags.distinct

/-- The body of a creation as one chain of updates. -/
theorem creationBody_eq (creation : Attributes) :
    pass.creationBody creation =
      ((Attributes.empty.insert "name" (.text pass.key.name)).update
        (pass.kind.write creation)).update pass.flagsCreated := by
  unfold creationBody flagsCreated
  cases pass.kind.flags with
  | none => rfl
  | some flags =>
      dsimp only
      split
      · rfl
      · rfl

/-- The body of a creation carries the name, what is written and the flags. -/
theorem carries_creationBody (hfaithful : pass.kind.Faithful)
    (hdistinct : creation.Distinct)
    (hnames : ∀ name ∈ creation.names, name ∈ pass.kind.schema.names) :
    pass.kind.schema.Carries (pass.creationBody creation)
      (((Attributes.empty.insert "name" (.text pass.key.name)).update
        (pass.kind.writer creation)).update pass.flagsCreated) := by
  obtain ⟨hwritten, hreturns⟩ := hfaithful.writes creation hdistinct hnames
  have hflags := isFlags_flagsCreated pass
  have hnamed : pass.kind.schema.Carries
      (Attributes.empty.insert "name" (.text pass.key.name))
      (Attributes.empty.insert "name" (.text pass.key.name)) := by
    refine Schema.carries_of_plain (Attributes.distinct_empty.insert _ _) fun name hname => ?_
    obtain rfl : name = "name" := List.mem_singleton.mp hname
    exact hfaithful.named
  rw [creationBody_eq]
  exact (hnamed.update (Schema.carries_toWire hwritten hreturns) hwritten).update
    (hflags.carries hfaithful) hflags.distinct

/-! ## Reading back -/

variable {kind : ResourceKind}

/-- A transparent name is shown as it was sent, or else as before. -/
theorem get?_read_updated (hkind : pass.kind = kind) (hfaithful : kind.Faithful)
    (htransparent : kind.Transparent name) (hdistinct : changes.Distinct)
    (hnames : ∀ name ∈ changes.names, name ∈ kind.schema.names)
    (want raw : Attributes) :
    (kind.read (raw.update
      (pass.updateBody want (kind.read raw) changes))).get? name =
        kind.schema.shown raw changes (kind.read raw) name := by
  subst hkind
  have hflags := isFlags_flagsSent pass want (pass.kind.read raw)
  have hcarries := carries_updateBody hfaithful hdistinct hnames want (pass.kind.read raw)
  have hview := hcarries.get?_ofWire_update raw htransparent.returns
  rw [Attributes.get?_update _ hflags.distinct, hflags.get?_eq_none htransparent.unflagged,
    Option.none_or, htransparent.written] at hview
  rw [ResourceKind.read, htransparent.read, Schema.shown, ResourceKind.read, htransparent.read]
  refine hview.trans ?_
  cases changes.get? name <;> rfl

/-- A transparent name of a new resource is shown as it was sent. -/
theorem get?_read_created (hkind : pass.kind = kind) (hfaithful : kind.Faithful)
    (htransparent : kind.Transparent name) (hdistinct : creation.Distinct)
    (hnames : ∀ name ∈ creation.names, name ∈ kind.schema.names) :
    (kind.read (pass.creationBody creation)).get? name =
      (creation.get? name).map (kind.schema.coerced name) := by
  subst hkind
  have hwritten := (hfaithful.writes creation hdistinct hnames).1
  have hflags := isFlags_flagsCreated pass
  have hcarries := carries_creationBody hfaithful hdistinct hnames
  rw [ResourceKind.read, htransparent.read, hcarries.get?_ofWire htransparent.returns,
    Attributes.get?_update _ hflags.distinct,
    hflags.get?_eq_none htransparent.unflagged, Option.none_or,
    Attributes.get?_update _ hwritten, htransparent.written,
    Attributes.get?_insert_of_ne _ htransparent.unnamed, Attributes.get?_empty,
    Option.or_none]

/-- Under a plain name the view of an updated resource shows what was written,
or else what was stored. -/
theorem get?_view_updated (hkind : pass.kind = kind) (hfaithful : kind.Faithful)
    (hplain : kind.schema.Plain name) (hdistinct : changes.Distinct)
    (hnames : ∀ name ∈ changes.names, name ∈ kind.schema.names)
    (hraw : raw.Distinct) (want held : Attributes) :
    (kind.schema.ofWire
      (raw.update (pass.updateBody want held changes))).get? name =
        ((((pass.flagsSent want held).get? name).or
          ((kind.writer changes).get? name)).map
            (kind.schema.coerced name)).or
              ((kind.schema.ofWire raw).get? name) := by
  subst hkind
  have hflags := isFlags_flagsSent pass want held
  have hcarries := carries_updateBody hfaithful hdistinct hnames want held
  rw [hcarries.get?_ofWire_update raw hplain.returns,
    Attributes.get?_update _ hflags.distinct, hplain.toWire_eq,
    hplain.shadowed_eq_false hraw]
  cases ((pass.flagsSent want held).get? name).or
    ((pass.kind.writer changes).get? name) with
  | none => simp
  | some value => simp

/-- Under a plain name the view of a new resource shows what was written. -/
theorem get?_view_created (hkind : pass.kind = kind) (hfaithful : kind.Faithful)
    (hplain : kind.schema.Plain name) (hname : name ≠ "name")
    (hdistinct : creation.Distinct)
    (hnames : ∀ name ∈ creation.names, name ∈ kind.schema.names) :
    (kind.schema.ofWire (pass.creationBody creation)).get? name =
      ((pass.flagsCreated.get? name).or ((kind.writer creation).get? name)).map
        (kind.schema.coerced name) := by
  subst hkind
  have hwritten := (hfaithful.writes creation hdistinct hnames).1
  have hflags := isFlags_flagsCreated pass
  have hcarries := carries_creationBody hfaithful hdistinct hnames
  rw [hcarries.get?_ofWire hplain.returns, Attributes.get?_update _ hflags.distinct,
    Attributes.get?_update _ hwritten, Attributes.get?_insert_of_ne _ hname,
    Attributes.get?_empty, Option.or_none]

/-- Under bare names the view of an updated resource follows the change set. -/
theorem follows_updated (hkind : pass.kind = kind) (hfaithful : kind.Faithful)
    {names : List String} (hnames : ∀ name ∈ names, kind.Bare name) (hraw : raw.Distinct)
    (hchanges : kind.changes want held = .ok changes) (held' : Attributes) :
    kind.Follows names changes (kind.schema.ofWire raw)
      (kind.schema.ofWire (raw.update (pass.updateBody want held' changes))) where
  distinct := Schema.distinct_of_changes hchanges
  declared := hfaithful.names_of_changes hchanges
  get?_eq := by
    intro name hname
    obtain ⟨hplain, -, hunflagged⟩ := hnames name hname
    have hflags : (pass.flagsSent want held').get? name = none :=
      (isFlags_flagsSent pass want held').get?_eq_none (hkind ▸ hunflagged)
    have hview := get?_view_updated hkind hfaithful hplain
      (Schema.distinct_of_changes hchanges) (hfaithful.names_of_changes hchanges) hraw
      want held'
    rwa [hflags, Option.none_or] at hview

/-- Under bare names the view of a new resource follows the creation. -/
theorem follows_created (hkind : pass.kind = kind) (hfaithful : kind.Faithful)
    {names : List String} (hnames : ∀ name ∈ names, kind.Bare name)
    (hcreation : kind.creation want = .ok creation) :
    kind.Follows names creation .empty
      (kind.schema.ofWire (pass.creationBody creation)) where
  distinct := ResourceKind.distinct_of_creation hcreation
  declared := ResourceKind.names_of_creation hcreation
  get?_eq := by
    intro name hname
    obtain ⟨hplain, hunnamed, hunflagged⟩ := hnames name hname
    have hflags : pass.flagsCreated.get? name = none :=
      (isFlags_flagsCreated pass).get?_eq_none (hkind ▸ hunflagged)
    have hview := get?_view_created hkind hfaithful hplain hunnamed
      (ResourceKind.distinct_of_creation hcreation)
      (ResourceKind.names_of_creation hcreation)
    rw [hflags, Option.none_or] at hview
    rw [Attributes.get?_empty, Option.or_none]
    exact hview

/-! ## Ordinary names that are transparent -/

variable {field : Field}

/-- After an update such a name needs nothing more, unless it was shadowed. -/
theorem quiet_updated_iff (hkind : pass.kind = kind) (hfaithful : kind.Faithful)
    (htransparent : kind.Transparent name)
    (hordinary : kind.schema.Ordinary want name field)
    (hchanges : kind.changes want (kind.read raw) = .ok changes) :
    kind.schema.changesAt want (kind.read (raw.update
        (pass.updateBody want (kind.read raw) changes))) name = .ok [] ↔
      (name ∈ changes.names → kind.schema.shadowed
        (kind.schema.aliases.toWire name) raw.entries = false) := by
  subst hkind
  have hpairs : pass.kind.schema.PairsMutually pass.kind.updatable :=
    hfaithful.updatable ▸ hfaithful.paired
  have hname : name ∈ pass.kind.updatable := by
    rw [hfaithful.updatable]
    exact Schema.mem_names_of_field? hordinary.declared
  refine hordinary.changesAt_shown_iff hpairs hname hchanges ?_
  exact get?_read_updated rfl hfaithful htransparent (Schema.distinct_of_changes hchanges)
    (hfaithful.names_of_changes hchanges) want raw

/-- After an update such an optional text is set as the caller wants it, or
else as it was before. -/
theorem isSet_updated (hkind : pass.kind = kind) (hfaithful : kind.Faithful)
    (htransparent : kind.Transparent name)
    (hordinary : kind.schema.Ordinary want name field)
    (hcomparison : field.comparison = .optionalText)
    (hunshadowed : kind.schema.Unshadowed changes raw)
    (hchanges : kind.changes want (kind.read raw) = .ok changes) :
    (kind.read (raw.update
        (pass.updateBody want (kind.read raw) changes))).isSet name =
      if want.contains name then want.isSet name
      else (kind.read raw).isSet name := by
  subst hkind
  have hpairs : pass.kind.schema.PairsMutually pass.kind.updatable :=
    hfaithful.updatable ▸ hfaithful.paired
  have hname : name ∈ pass.kind.updatable := by
    rw [hfaithful.updatable]
    exact Schema.mem_names_of_field? hordinary.declared
  refine hordinary.isSet_shown hcomparison hpairs hname hchanges hunshadowed ?_
  exact get?_read_updated rfl hfaithful htransparent (Schema.distinct_of_changes hchanges)
    (hfaithful.names_of_changes hchanges) want raw

/-- A creation shows a wanted value of such a name unless it asks for clearing. -/
theorem get?_read_created_of_wanted (hkind : pass.kind = kind) (hfaithful : kind.Faithful)
    (htransparent : kind.Transparent name)
    (hordinary : kind.schema.Ordinary want name field)
    (hcreation : kind.creation want = .ok creation) {wanted : Value}
    (hwanted : want.get? name = some wanted) :
    (kind.read (pass.creationBody creation)).get? name =
      if wanted.isClear then none else some (kind.schema.coerced name wanted) := by
  subst hkind
  rw [get?_read_created rfl hfaithful htransparent
    (ResourceKind.distinct_of_creation hcreation)
    (ResourceKind.names_of_creation hcreation),
    ResourceKind.get?_of_creation hcreation,
    if_pos (Schema.mem_names_of_field? hordinary.declared), ResourceKind.get?_filled,
    hwanted, Option.some_or, Value.filter_not_isClear]
  split
  · rfl
  · rfl

/-- After a creation such a name needs nothing more, unless its comparison
minds that a cleared value was dropped. -/
theorem quiet_created_iff (hkind : pass.kind = kind) (hfaithful : kind.Faithful)
    (htransparent : kind.Transparent name)
    (hordinary : kind.schema.Ordinary want name field)
    (hkeyword : field.comparison ≠ .keywordOrSet)
    (hcreation : kind.creation want = .ok creation) :
    kind.schema.changesAt want (kind.read (pass.creationBody creation)) name =
        .ok [] ↔
      (want.clears name = true → field.comparison.forgives = true) := by
  subst hkind
  refine hordinary.changesAt_created_iff hkeyword fun wanted hwanted => ?_
  exact get?_read_created_of_wanted rfl hfaithful htransparent hordinary hcreation hwanted

/-- After a creation such a name is set exactly as it is wanted, where it has no
default. -/
theorem isSet_created (hkind : pass.kind = kind) (hfaithful : kind.Faithful)
    (htransparent : kind.Transparent name)
    (hordinary : kind.schema.Ordinary want name field)
    (hdefault : (kind.defaults want).get? name = none)
    (hcreation : kind.creation want = .ok creation) :
    (kind.read (pass.creationBody creation)).isSet name = want.isSet name := by
  subst hkind
  cases hwant : want.get? name with
  | some wanted =>
      have hnormal := hordinary.holds wanted hwant
      rw [Attributes.isSet, Attributes.isSet, hwant,
        get?_read_created_of_wanted rfl hfaithful htransparent hordinary hcreation hwant,
        Schema.coerced_of_holds hordinary.declared hnormal]
      cases hclear : wanted.isClear with
      | true => simp [hclear]
      | false => simp [hclear]
  | none =>
      rw [Attributes.isSet, Attributes.isSet, hwant,
        get?_read_created rfl hfaithful htransparent
          (ResourceKind.distinct_of_creation hcreation)
          (ResourceKind.names_of_creation hcreation),
        ResourceKind.get?_of_creation hcreation, ResourceKind.get?_filled, hwant, hdefault]
      simp

end Pass
end DesiredState
