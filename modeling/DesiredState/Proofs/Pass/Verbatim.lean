import DesiredState.Proofs.Pass.Jobs
import DesiredState.Proofs.Pass.Stored

/-!
# Kinds that are stored as they are written

Where no attribute has a wire name of its own and nothing is reshaped on
reading, a stored resource is shown name by name.  What a pass sends under a
name that the writer leaves alone is then found again under that name, whatever
else follow-ups do to the resource, and needs nothing more.
-/

namespace DesiredState

/-- A kind that is stored under its own names and shown as it is stored, and
whose attributes are judged one by one. -/
structure ResourceKind.Verbatim (kind : ResourceKind) : Prop where
  /-- No attribute has a wire name of its own. -/
  unaliased : kind.schema.aliases.pairs = []
  /-- Nothing is reshaped on reading. -/
  read : kind.reader = id
  /-- The writer keeps names distinct. -/
  writes : ∀ body : Attributes, body.Distinct → (kind.writer body).Distinct
  /-- No name is declared twice. -/
  declared : kind.schema.names.Nodup
  /-- Every field is judged on its own and goes with its shape. -/
  judged : ∀ field ∈ kind.schema.fields,
    field.comparison.partner? = none ∧ field.Consistent

/-- Where nothing may be updated and nothing depends on anything, nothing is left
to change. -/
theorem Schema.settled_of_nothing_updatable (schema : Schema) (want held : Attributes) :
    schema.Settled [] [] want held where
  respected := List.forall_mem_nil _
  quiet := List.forall_mem_nil _

namespace ResourceKind

variable {kind : ResourceKind} {want held changes raw body : Attributes}

theorem distinct_write (kind : ResourceKind) (body : Attributes) :
    (kind.write body).Distinct :=
  Schema.distinct_toWire _

namespace Verbatim

variable (h : kind.Verbatim)

include h

theorem plain (name : String) : kind.schema.Plain name := by
  intro pair hpair
  rw [h.unaliased] at hpair
  cases hpair

/-- What is stored under a name is shown under it. -/
theorem get?_read (hraw : raw.Distinct) (name : String) :
    (kind.read raw).get? name = (raw.get? name).map (kind.schema.coerced name) := by
  rw [ResourceKind.read, h.read]
  exact (h.plain name).get?_ofWire hraw

/-- A flag that is not declared is shown as it is stored. -/
theorem flag?_read (hraw : raw.Distinct) {name : String} (hname : name ∉ kind.schema.names) :
    (kind.read raw).flag? name = raw.flag? name := by
  have hundeclared : kind.schema.field? name = none := by
    cases hfield : kind.schema.field? name with
    | none => rfl
    | some field => exact absurd (Schema.mem_names_of_field? hfield) hname
  rw [ResourceKind.read, h.read]
  exact (h.plain name).flag?_ofWire hraw hundeclared

/-- What the writer gives for a name is sent under it. -/
theorem get?_write (hbody : body.Distinct) (name : String) :
    (kind.write body).get? name = (kind.writer body).get? name := by
  have hcarries := Schema.carries_toWire (h.writes body hbody)
    fun other _ => (h.plain other).returns
  have hsent := hcarries.get?_toWire name (h.plain name).returns
  rwa [(h.plain name).toWire_eq] at hsent

theorem get?_updated (hchanges : kind.changes want held = .ok changes) (raw : Attributes)
    (name : String) :
    (raw.update (kind.write changes)).get? name =
      ((kind.writer changes).get? name).or (raw.get? name) := by
  rw [Attributes.get?_update _ (distinct_write _ _),
    h.get?_write (Schema.distinct_of_changes hchanges)]

theorem pairsMutually (updatable : List String) : kind.schema.PairsMutually updatable := by
  intro name _ partner hpaired
  cases hfield : kind.schema.field? name with
  | none => simp [Schema.comparison, hfield] at hpaired
  | some field =>
      have hsingle := (h.judged field (List.mem_of_find?_eq_some hfield)).1
      simp [Schema.comparison_of_field? hfield ▸ hpaired, Comparison.partner?] at hsingle

/-- Only what may be updated is ever sent. -/
theorem get?_changes_of_kept (hchanges : kind.changes want held = .ok changes) {name : String}
    (hname : name ∉ kind.updatable) : changes.get? name = none := by
  rw [Schema.get?_of_changes (h.pairsMutually _) hchanges, if_neg hname]

theorem ordinary {params : Attributes} {partition : String} {target : Target}
    (haccepts : kind.Accepts partition params target want) {field : Field}
    (hfield : field ∈ kind.schema.fields) :
    kind.schema.Ordinary want field.name field :=
  Schema.ordinary_of_want h.declared haccepts.normal hfield (h.judged field hfield).1
    (h.judged field hfield).2

/-- An attribute that is stored as an update left it needs nothing more. -/
theorem quiet_updated {params : Attributes} {partition : String} {target : Target}
    (haccepts : kind.Accepts partition params target want) {field : Field}
    (hfield : field ∈ kind.schema.fields) (hname : field.name ∈ kind.updatable)
    (hwritten : ∀ body : Attributes, (kind.writer body).get? field.name = body.get? field.name)
    (hraw : raw.Distinct) (hchanges : kind.changes want (kind.read raw) = .ok changes)
    {stored : Attributes} (hstored : stored.Distinct)
    (hkept : stored.get? field.name = (raw.update (kind.write changes)).get? field.name) :
    kind.schema.changesAt want (kind.read stored) field.name = .ok [] := by
  have hplain := h.plain field.name
  have hunshadowed : kind.schema.shadowed (kind.schema.aliases.toWire field.name)
      raw.entries = false := by
    rw [hplain.toWire_eq]
    exact hplain.shadowed_eq_false hraw
  have hshown : (kind.read stored).get? field.name =
      kind.schema.shown raw changes (kind.read raw) field.name := by
    rw [h.get?_read hstored, hkept, h.get?_updated hchanges, hwritten, Schema.shown,
      hunshadowed, h.get?_read hraw]
    cases changes.get? field.name <;> rfl
  exact ((h.ordinary haccepts hfield).changesAt_shown_iff (h.pairsMutually _) hname hchanges
    hshown).mpr fun _ => hunshadowed

/-- An attribute that is stored as a creation left it needs nothing more, where
its comparison forgives that a cleared value was dropped. -/
theorem quiet_created {params : Attributes} {partition : String} {target : Target}
    (haccepts : kind.Accepts partition params target want) {field : Field}
    (hfield : field ∈ kind.schema.fields) (hforgives : field.comparison.forgives = true)
    (hdefaults : kind.defaults want = .empty) {creation : Attributes}
    (hcreation : kind.creation want = .ok creation)
    {stored : Attributes} (hstored : stored.Distinct)
    (hkept : stored.get? field.name = creation.get? field.name) :
    kind.schema.changesAt want (kind.read stored) field.name = .ok [] := by
  have hkeyword : field.comparison ≠ .keywordOrSet := by
    intro heq
    rw [heq] at hforgives
    cases hforgives
  refine ((h.ordinary haccepts hfield).changesAt_created_iff hkeyword ?_).mpr fun _ => hforgives
  intro wanted hwanted
  rw [h.get?_read hstored, hkept, ResourceKind.get?_of_creation_of_no_defaults hcreation
    hdefaults (List.mem_map_of_mem hfield), hwanted, Value.filter_not_isClear]
  split
  · rfl
  · rfl

end Verbatim
end ResourceKind

namespace Pass

variable {pass : Pass} {creation : Attributes} {name : String}

/-- What a creation without flags stores under other names than its own. -/
theorem get?_creationBody (hverbatim : pass.kind.Verbatim) (hflagless : pass.kind.flags = none)
    (hcreation : creation.Distinct) (hname : name ≠ "name") :
    (pass.creationBody creation).get? name = (pass.kind.writer creation).get? name := by
  rw [creationBody, hflagless]
  dsimp only
  rw [Attributes.get?_update _ (ResourceKind.distinct_write _ _), hverbatim.get?_write hcreation,
    Attributes.get?_insert_of_ne _ hname, Attributes.get?_empty, Option.or_none]

theorem distinct_creationBody (hflagless : pass.kind.flags = none) (creation : Attributes) :
    (pass.creationBody creation).Distinct := by
  rw [creationBody, hflagless]
  exact (Attributes.distinct_empty.insert _ _).update _

end Pass
end DesiredState
