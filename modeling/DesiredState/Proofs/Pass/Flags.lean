import DesiredState.Proofs.Pass.Stored

/-!
# Flags come to rest

A pass that sets the pair of flags of a resource, or finds no need to, leaves
the resource in a condition that satisfies its target.
-/

namespace DesiredState

/-- A kind that is switched by a pair of flags which nothing else touches. -/
structure ResourceKind.Switched (kind : ResourceKind) (flags : FlagPair) : Prop where
  /-- The kind has the flags. -/
  flags_eq : kind.flags = some flags
  /-- Nothing but the flags decides the condition. -/
  unobserved : kind.observer = none
  /-- The flags are sent with a creation. -/
  onCreate : flags.onCreate = true
  /-- The flags are two. -/
  differ : flags.enabled ≠ flags.disabled
  /-- The flags are not attributes, and reader and writer leave them alone. -/
  untouched : ∀ name ∈ [flags.enabled, flags.disabled],
    name ∉ kind.schema.names ∧ name ≠ "name" ∧
      (∀ held : Attributes, (kind.reader held).get? name = held.get? name) ∧
        ∀ body : Attributes, (kind.writer body).get? name = body.get? name

theorem ResourceKind.Switched.plain {kind : ResourceKind} {flags : FlagPair}
    (h : kind.Switched flags) (hfaithful : kind.Faithful) {name : String}
    (hname : name ∈ [flags.enabled, flags.disabled]) : kind.schema.Plain name := by
  obtain ⟨henabled, hdisabled⟩ := hfaithful.flagged flags h.flags_eq
  simp only [List.mem_cons, List.not_mem_nil, or_false] at hname
  rcases hname with rfl | rfl
  · exact henabled
  · exact hdisabled

namespace FlagPair

variable {flags : FlagPair} {target : Target} {found held : Attributes}

/-- What the flags of a target say. -/
theorem get?_of_forTarget (hdiffer : flags.enabled ≠ flags.disabled)
    (h : flags.forTarget target = some found) :
    ∃ on, target.enabledFlag = some on ∧ found.get? flags.enabled = some (.flag on) ∧
      found.get? flags.disabled = some (.flag !on) := by
  obtain ⟨on, hon, rfl⟩ := Option.map_eq_some_iff.mp h
  refine ⟨on, hon, ?_, Attributes.get?_insert_self _ _ _⟩
  rw [Attributes.get?_insert_of_ne _ hdiffer, Attributes.get?_insert_self]

/-- A resource with the flags of a target satisfies it. -/
theorem satisfied_of_forTarget (hdiffer : flags.enabled ≠ flags.disabled)
    (h : flags.forTarget target = some found)
    (hheld : ∀ name ∈ [flags.enabled, flags.disabled], held.get? name = found.get? name) :
    target.satisfiedBy (flags.observe held) = true := by
  obtain ⟨on, hon, henabled, hdisabled⟩ := get?_of_forTarget hdiffer h
  have hobserved : flags.observe held = if on then .presentEnabled else .presentDisabled := by
    rw [observe, Attributes.flag?, Attributes.flag?, hheld _ (by simp), hheld _ (by simp),
      henabled, hdisabled]
    cases on <;> rfl
  rw [hobserved]
  cases target <;> cases hon <;> rfl

end FlagPair

namespace Pass

variable {pass : Pass} {kind : ResourceKind} {flags : FlagPair}
  {want raw held changes creation : Attributes}

theorem flagsOfUpdate_eq (hkind : pass.kind = kind) (hswitched : kind.Switched flags)
    (want held : Attributes) :
    pass.flagsOfUpdate (pass.kind.observe held want) =
      if pass.target.satisfiedBy (flags.observe held) then none
      else flags.forTarget pass.target := by
  subst hkind
  simp [flagsOfUpdate, ResourceKind.observe, hswitched.flags_eq, hswitched.unobserved]

/-- A resource needs no flags when they are as they were sent. -/
theorem flagsOfUpdate_eq_none (hkind : pass.kind = kind) (hswitched : kind.Switched flags)
    (h : ∀ found, flags.forTarget pass.target = some found →
      pass.target.satisfiedBy (flags.observe held) = true) :
    pass.flagsOfUpdate (pass.kind.observe held want) = none := by
  rw [flagsOfUpdate_eq hkind hswitched]
  split
  · rfl
  · cases hflags : flags.forTarget pass.target with
    | none => rfl
    | some found => exact absurd (h found hflags) ‹_›

theorem coerced_flag (hswitched : kind.Switched flags) {name : String}
    (hname : name ∈ [flags.enabled, flags.disabled]) (value : Value) :
    kind.schema.coerced name value = value := by
  have hundeclared : kind.schema.field? name = none := by
    cases hfield : kind.schema.field? name with
    | none => rfl
    | some field =>
        exact absurd (Schema.mem_names_of_field? hfield) (hswitched.untouched name hname).1
  simp [Schema.coerced, hundeclared]

/-- A flag after an update: as it was sent, or else as it was. -/
theorem get?_flag_updated (hkind : pass.kind = kind) (hfaithful : kind.Faithful)
    (hswitched : kind.Switched flags) {name : String}
    (hname : name ∈ [flags.enabled, flags.disabled]) (hdistinct : changes.Distinct)
    (hnames : ∀ name ∈ changes.names, name ∈ kind.schema.names) (hraw : raw.Distinct)
    (want : Attributes) :
    (kind.read (raw.update (pass.updateBody want (kind.read raw) changes))).get? name =
      ((pass.flagsSent want (kind.read raw)).get? name).or ((kind.read raw).get? name) := by
  obtain ⟨hundeclared, -, hread, hwritten⟩ := hswitched.untouched name hname
  have hplain := hswitched.plain hfaithful hname
  have hunsent : changes.get? name = none := by
    rw [Attributes.get?_eq_none_iff]
    exact fun hmem => hundeclared (hnames name hmem)
  rw [ResourceKind.read, hread,
    get?_view_updated hkind hfaithful hplain hdistinct hnames hraw, hwritten, hunsent,
    Option.or_none, ResourceKind.read, hread]
  cases (pass.flagsSent want (kind.reader (kind.schema.ofWire raw))).get? name with
  | none => rfl
  | some value => rw [Option.map_some, coerced_flag hswitched hname]

/-- After an update no flag is left to set. -/
theorem unflagged_updated (hkind : pass.kind = kind) (hfaithful : kind.Faithful)
    (hswitched : kind.Switched flags) (hdistinct : changes.Distinct)
    (hnames : ∀ name ∈ changes.names, name ∈ kind.schema.names) (hraw : raw.Distinct)
    (want : Attributes) :
    pass.flagsOfUpdate (pass.kind.observe (kind.read (raw.update
      (pass.updateBody want (kind.read raw) changes))) want) = none := by
  refine flagsOfUpdate_eq_none hkind hswitched fun found hfound => ?_
  have hshown : ∀ name ∈ [flags.enabled, flags.disabled], (kind.read (raw.update
      (pass.updateBody want (kind.read raw) changes))).get? name =
        ((pass.flagsSent want (kind.read raw)).get? name).or ((kind.read raw).get? name) :=
    fun _ hname => get?_flag_updated hkind hfaithful hswitched hname hdistinct hnames hraw want
  have hsent := flagsOfUpdate_eq hkind hswitched want (kind.read raw)
  by_cases hsatisfied : pass.target.satisfiedBy (flags.observe (kind.read raw)) = true
  · -- nothing was sent, so the flags are as they were
    rw [if_pos hsatisfied] at hsent
    have hkept : ∀ name ∈ [flags.enabled, flags.disabled], (kind.read (raw.update
        (pass.updateBody want (kind.read raw) changes))).get? name =
          (kind.read raw).get? name := by
      intro name hname
      rw [hshown name hname, flagsSent, hsent, Option.getD_none, Attributes.get?_empty,
        Option.none_or]
    rw [FlagPair.observe, Attributes.flag?, Attributes.flag?, hkept _ (by simp),
      hkept _ (by simp)]
    exact hsatisfied
  · -- the flags of the target were sent, and are shown as they were sent
    rw [if_neg hsatisfied, hfound] at hsent
    refine FlagPair.satisfied_of_forTarget hswitched.differ hfound fun name hname => ?_
    obtain ⟨on, -, henabled, hdisabled⟩ :=
      FlagPair.get?_of_forTarget hswitched.differ hfound
    rw [hshown name hname, flagsSent, hsent]
    simp only [List.mem_cons, List.not_mem_nil, or_false] at hname
    rcases hname with rfl | rfl
    · rw [Option.getD_some, henabled, Option.some_or]
    · rw [Option.getD_some, hdisabled, Option.some_or]

/-- After a creation no flag is left to set. -/
theorem unflagged_created (hkind : pass.kind = kind) (hfaithful : kind.Faithful)
    (hswitched : kind.Switched flags) (hdistinct : creation.Distinct)
    (hnames : ∀ name ∈ creation.names, name ∈ kind.schema.names) (want : Attributes) :
    pass.flagsOfUpdate (pass.kind.observe (kind.read (pass.creationBody creation)) want) =
      none := by
  refine flagsOfUpdate_eq_none hkind hswitched fun found hfound => ?_
  refine FlagPair.satisfied_of_forTarget hswitched.differ hfound fun name hname => ?_
  obtain ⟨hundeclared, hunnamed, hread, hwritten⟩ := hswitched.untouched name hname
  have hplain := hswitched.plain hfaithful hname
  have hunsent : creation.get? name = none := by
    rw [Attributes.get?_eq_none_iff]
    exact fun hmem => hundeclared (hnames name hmem)
  have hcreated : pass.flagsCreated = found := by
    simp [flagsCreated, hkind, hswitched.flags_eq, hswitched.onCreate, hfound]
  rw [ResourceKind.read, hread, get?_view_created hkind hfaithful hplain hunnamed hdistinct
    hnames, hwritten, hunsent, Option.or_none, hcreated]
  cases found.get? name with
  | none => rfl
  | some value => rw [Option.map_some, coerced_flag hswitched hname]

end Pass
end DesiredState
