import DesiredState.Proofs.Attributes
import DesiredState.Proofs.Except
import DesiredState.ResourceKind

/-!
# Wants and creations of a kind

What a want map has been checked for, and the logical map of a creation, name
by name: what is wanted, or else the default, unless it asks for clearing.
-/

namespace DesiredState
namespace ResourceKind

variable {kind : ResourceKind} {want creation : Attributes}

/-- What has been checked of a want map. -/
structure Accepts (kind : ResourceKind) (partition : String) (params : Attributes)
    (target : Target) (want : Attributes) : Prop where
  /-- The target is supported. -/
  supported : kind.supports target = true
  /-- No conflicting pair is given. -/
  unconflicting : ∀ pair ∈ kind.conflicting,
    params.contains pair.1 = true → params.contains pair.2 = false
  /-- The schema gives the want map. -/
  normal : kind.schema.want params partition = .ok want
  /-- No exclusive pair is set. -/
  unexclusive : ∀ pair ∈ kind.exclusive, want.isSet pair.1 = true → want.isSet pair.2 = false
  /-- The kind's own check succeeds. -/
  valid : kind.validate want = .ok ()

theorem refusePair_eq_ok {supplied : List String} {pairs : List (String × String)}
    {together : String → String → Bool} (h : refusePair supplied pairs together = .ok ()) :
    ∀ pair ∈ pairs, together pair.1 pair.2 = false := by
  unfold refusePair at h
  split at h
  · cases h
  · rename_i hnone
    intro pair hpair
    simpa using List.find?_eq_none.mp hnone pair hpair

/-- A want map that is obtained has been checked. -/
theorem accepts_of_want {partition : String} {params : Attributes} {target : Target}
    (h : kind.want partition params target = .ok want) :
    kind.Accepts partition params target want := by
  obtain ⟨⟨⟩, htarget, h⟩ := bind_eq_ok_iff.mp h
  obtain ⟨⟨⟩, hconflicting, h⟩ := bind_eq_ok_iff.mp h
  obtain ⟨normal, hnormal, h⟩ := bind_eq_ok_iff.mp h
  obtain ⟨⟨⟩, hexclusive, h⟩ := bind_eq_ok_iff.mp h
  obtain ⟨⟨⟩, hvalid, h⟩ := bind_eq_ok_iff.mp h
  obtain rfl := Except.ok.inj h
  refine ⟨?_, ?_, hnormal, ?_, hvalid⟩
  · unfold checkTarget at htarget
    split at htarget
    · assumption
    · cases htarget
  · intro pair hpair hfirst
    simpa [hfirst] using refusePair_eq_ok hconflicting pair hpair
  · intro pair hpair hfirst
    simpa [hfirst] using refusePair_eq_ok hexclusive pair hpair

theorem Accepts.target_mem {partition : String} {params : Attributes} {target : Target}
    (h : kind.Accepts partition params target want) : target ∈ kind.targets := by
  simpa [supports] using h.supported

/-- Defaults count for names that are not wanted, and the first one counts. -/
theorem get?_filled (want : Attributes) (name : String) :
    (kind.filled want).get? name =
      (want.get? name).or ((kind.defaults want).get? name) := by
  unfold filled
  change _ = (want.get? name).or ((kind.defaults want).entries.lookup name)
  generalize (kind.defaults want).entries = defaults
  induction defaults generalizing want with
  | nil => simp
  | cons entry rest ih =>
      obtain ⟨known, value⟩ := entry
      simp only [List.foldl_cons]
      rw [ih]
      by_cases hk : known = name
      · subst hk
        cases hwant : want.get? known with
        | some wanted => simp [Attributes.contains, hwant]
        | none => simp [Attributes.contains, hwant]
      · rw [Entries.lookup_cons_of_ne (Ne.symm hk)]
        split
        · rfl
        · rw [Attributes.get?_insert_of_ne _ (Ne.symm hk)]

theorem filled_eq_of_no_defaults (hdefaults : kind.defaults want = .empty) :
    kind.filled want = want := by
  simp [filled, hdefaults, Attributes.empty]

/-- A creation has every name that it needs. -/
theorem required_of_creation (h : kind.creation want = .ok creation) :
    ∀ name ∈ kind.requiredOnCreate, (kind.filled want).isSet name = true := by
  obtain ⟨⟨⟩, hrequired, -⟩ := bind_eq_ok_iff.mp h
  unfold checkRequired at hrequired
  split at hrequired
  · cases hrequired
  · rename_i hnone
    simpa using hnone

theorem distinct_of_creation (h : kind.creation want = .ok creation) :
    creation.Distinct := by
  obtain ⟨-, -, hcreation⟩ := bind_eq_ok_iff.mp h
  obtain rfl := Except.ok.inj hcreation
  exact Attributes.distinct_ofList _

/-- What a creation sends under a name. -/
theorem get?_of_creation (h : kind.creation want = .ok creation) (name : String) :
    creation.get? name =
      if name ∈ kind.schema.names then
        ((kind.filled want).get? name).filter fun value => !value.isClear
      else
        none := by
  obtain ⟨-, -, hcreation⟩ := bind_eq_ok_iff.mp h
  obtain rfl := Except.ok.inj hcreation
  rw [Attributes.get?_ofList, Entries.latest_filterMap]

/-- Without defaults a creation sends what is wanted and does not ask for
clearing. -/
theorem get?_of_creation_of_no_defaults (h : kind.creation want = .ok creation)
    (hdefaults : kind.defaults want = .empty) {name : String}
    (hname : name ∈ kind.schema.names) :
    creation.get? name = (want.get? name).filter fun value => !value.isClear := by
  rw [get?_of_creation h, if_pos hname, filled_eq_of_no_defaults hdefaults]

end ResourceKind
end DesiredState
