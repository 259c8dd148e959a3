import DesiredState.Proofs.Entries
import DesiredState.Snapshot

/-!
# The keys of a snapshot

A snapshot keeps its resources in the order of their keys, and what is stored,
changed or removed under one key leaves the resources under the others as they
are.

* `Ordered` — the keys increase; kept by every change of a snapshot;
* `ofList_of_ordered` — resources in the order of their keys are stored as they
  stand;
* `others` — the resources under the keys other than one, in order; a change
  under that key leaves them alone.
-/

namespace DesiredState
namespace Snapshot

/-! ## Order -/

/-- The keys of a list of resources increase. -/
def Increasing (resources : List (String × Attributes)) : Prop :=
  resources.Pairwise fun first second => first.1 < second.1

/-- The resources of a snapshot are in the order of their keys. -/
def Ordered (snapshot : Snapshot) : Prop :=
  Increasing snapshot.resources

instance (snapshot : Snapshot) : Decidable snapshot.Ordered :=
  inferInstanceAs (Decidable (List.Pairwise _ _))

theorem mem_of_mem_place {key : String} {resource : Attributes} {entry : String × Attributes}
    {resources : List (String × Attributes)} (h : entry ∈ place key resource resources) :
    entry = (key, resource) ∨ entry ∈ resources := by
  induction resources with
  | nil => exact Or.inl (List.mem_singleton.mp h)
  | cons first rest ih =>
      obtain ⟨known, old⟩ := first
      rw [place] at h
      split at h
      · rename_i heq
        subst heq
        exact (List.mem_cons.mp h).imp_right (List.mem_cons_of_mem _)
      · split at h
        · exact List.mem_cons.mp h
        · rcases List.mem_cons.mp h with rfl | hlater
          · exact Or.inr List.mem_cons_self
          · exact (ih hlater).imp_right (List.mem_cons_of_mem _)

theorem Increasing.place {resources : List (String × Attributes)}
    (h : Increasing resources) (key : String) (resource : Attributes) :
    Increasing (place key resource resources) := by
  induction resources with
  | nil => exact List.pairwise_singleton _ _
  | cons first rest ih =>
      obtain ⟨known, old⟩ := first
      obtain ⟨hfirst, hrest⟩ := List.pairwise_cons.mp h
      rw [Snapshot.place]
      split
      · exact List.pairwise_cons.mpr ⟨hfirst, hrest⟩
      split
      · rename_i hlt
        refine List.pairwise_cons.mpr ⟨fun entry hentry => ?_, h⟩
        rcases List.mem_cons.mp hentry with rfl | hlater
        · exact hlt
        · exact String.lt_trans hlt (hfirst entry hlater)
      · rename_i hne hge
        have hlt : known < key := String.not_le.mp fun hle =>
          hne (String.le_antisymm hle (String.not_lt.mp hge))
        refine List.pairwise_cons.mpr ⟨fun entry hentry => ?_, ih hrest⟩
        rcases mem_of_mem_place hentry with rfl | hold
        · exact hlt
        · exact hfirst entry hold

theorem Ordered.insert {snapshot : Snapshot} (h : snapshot.Ordered) (key : String)
    (resource : Attributes) : (snapshot.insert key resource).Ordered :=
  Increasing.place h key resource

theorem Ordered.erase {snapshot : Snapshot} (h : snapshot.Ordered) (key : String) :
    (snapshot.erase key).Ordered :=
  List.Pairwise.sublist (Entries.erase_sublist key snapshot.resources) h

theorem Ordered.modify {snapshot : Snapshot} (h : snapshot.Ordered) (key : String)
    (change : Attributes → Attributes) : (snapshot.modify key change).Ordered := by
  unfold Snapshot.modify
  split
  · exact h.insert key _
  · exact h

/-- However a snapshot is put together, its resources are in the order of their keys. -/
theorem ordered_ofList (resources : List (String × Attributes)) :
    (ofList resources).Ordered := by
  have hfold : ∀ snapshot : Snapshot, snapshot.Ordered →
      (resources.foldl (fun snapshot entry => snapshot.insert entry.1 entry.2)
        snapshot).Ordered := by
    induction resources with
    | nil => exact fun _ hsnapshot => hsnapshot
    | cons first rest ih => exact fun _ hsnapshot => ih _ (hsnapshot.insert first.1 first.2)
  exact hfold empty List.Pairwise.nil

/-- What comes after all known keys is stored at the end. -/
theorem place_last {key : String} {resource : Attributes}
    {resources : List (String × Attributes)} (h : ∀ entry ∈ resources, entry.1 < key) :
    place key resource resources = resources ++ [(key, resource)] := by
  induction resources with
  | nil => rfl
  | cons first rest ih =>
      obtain ⟨known, old⟩ := first
      obtain ⟨hfirst, hrest⟩ := List.forall_mem_cons.mp h
      have hne : key ≠ known := fun heq => String.lt_irrefl known (heq ▸ hfirst)
      rw [place, if_neg hne, if_neg (String.lt_asymm hfirst), ih hrest, List.cons_append]

/-- Resources in the order of their keys are stored as they stand. -/
theorem ofList_of_ordered {snapshot : Snapshot} (h : snapshot.Ordered) :
    ofList snapshot.resources = snapshot := by
  have hfold : ∀ later earlier : List (String × Attributes), Increasing (earlier ++ later) →
      later.foldl (fun snapshot entry => snapshot.insert entry.1 entry.2) ⟨earlier⟩ =
        (⟨earlier ++ later⟩ : Snapshot) := by
    intro later
    induction later with
    | nil =>
        intro earlier _
        rw [List.append_nil]
        rfl
    | cons first rest ih =>
        intro earlier hincreasing
        have hbefore := (List.pairwise_append.mp hincreasing).2.2
        have hplace : place first.1 first.2 earlier = earlier ++ [first] :=
          place_last fun entry hentry => hbefore entry hentry first List.mem_cons_self
        rw [List.foldl_cons, insert, hplace, ih _ (by simpa using hincreasing)]
        simp
  exact hfold snapshot.resources [] h

/-! ## The other resources -/

/-- The resources under the keys other than one, in order. -/
def others (snapshot : Snapshot) (key : String) : List (String × Attributes) :=
  snapshot.resources.filter fun entry => entry.1 != key

/-- A resource under another key is found among the others. -/
theorem lookup_others (snapshot : Snapshot) {key other : String} (h : other ≠ key) :
    (snapshot.others key).lookup other = snapshot.get? other := by
  have hfilter : ∀ resources : List (String × Attributes),
      (resources.filter fun entry => entry.1 != key).lookup other = resources.lookup other := by
    intro resources
    induction resources with
    | nil => rfl
    | cons first rest ih =>
        obtain ⟨known, resource⟩ := first
        by_cases hknown : known = key
        · subst hknown
          rw [List.filter_cons_of_neg (by simp), ih, Entries.lookup_cons_of_ne h]
        · rw [List.filter_cons_of_pos (by simpa using hknown), List.lookup_cons, List.lookup_cons,
            ih]
  exact hfilter snapshot.resources

@[simp] theorem others_insert (snapshot : Snapshot) (key : String) (resource : Attributes) :
    (snapshot.insert key resource).others key = snapshot.others key := by
  have hplace : ∀ resources : List (String × Attributes),
      (place key resource resources).filter (fun entry => entry.1 != key) =
        resources.filter fun entry => entry.1 != key := by
    intro resources
    induction resources with
    | nil => simp [place]
    | cons first rest ih =>
        obtain ⟨known, old⟩ := first
        by_cases heq : key = known
        · simp [place, heq]
        · by_cases hlt : key < known
          · simp [place, heq, hlt]
          · simp [place, heq, hlt, List.filter_cons, ih]
  exact hplace snapshot.resources

@[simp] theorem others_erase (snapshot : Snapshot) (key : String) :
    (snapshot.erase key).others key = snapshot.others key := by
  have herase : ∀ resources : List (String × Attributes),
      (Entries.erase key resources).filter (fun entry => entry.1 != key) =
        resources.filter fun entry => entry.1 != key := by
    intro resources
    induction resources with
    | nil => rfl
    | cons first rest ih =>
        obtain ⟨known, old⟩ := first
        by_cases heq : known = key
        · simp [Entries.erase, heq]
        · simp [Entries.erase, heq, ih]
  exact herase snapshot.resources

@[simp] theorem others_modify (snapshot : Snapshot) (key : String)
    (change : Attributes → Attributes) :
    (snapshot.modify key change).others key = snapshot.others key := by
  unfold modify
  split
  · exact others_insert snapshot key _
  · rfl

end Snapshot
end DesiredState
