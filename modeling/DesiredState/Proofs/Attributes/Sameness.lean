import DesiredState.Proofs.Value
import DesiredState.Proofs.WellFormed
import Mathlib.Data.List.Perm.Subperm

/-!
# Sameness of maps

Two maps are compared by counting their entries and looking up those of the
first in the second.  `Alike` says what the comparison is for, without an order
and without a direction: the same names are set, and to values that are alike.
For well-formed maps the two agree, `same_iff_alike`, and there the comparison
is an equivalence.  Without distinct names it need not be: a map that repeats one
of its names has as many entries as one with another name, but not the same
names.
-/

namespace DesiredState

/-- Values that mean the same: nested maps have the same names, and values that
are alike under them. -/
inductive Value.Alike : Value → Value → Prop
  | flag (on : Bool) : Alike (.flag on) (.flag on)
  | int (number : Int) : Alike (.int number) (.int number)
  | text (content : String) : Alike (.text content) (.text content)
  | list (items : List String) : Alike (.list items) (.list items)
  | nested {entries other : List (String × Value)}
      (hnames : ∀ name, name ∈ Entries.names entries ↔ name ∈ Entries.names other)
      (hvalues : ∀ name first second, entries.lookup name = some first →
        other.lookup name = some second → Alike first second) :
      Alike (.nested entries) (.nested other)

/-- Maps that set the same names to values that are alike. -/
structure Attributes.Alike (set other : Attributes) : Prop where
  /-- The same names are set. -/
  names : ∀ name, name ∈ set.names ↔ name ∈ other.names
  /-- They are set to values that are alike. -/
  values : ∀ name first second, set.get? name = some first →
    other.get? name = some second → first.Alike second

namespace Value

variable {first second third : Value} {entries other : List (String × Value)}

/-! ## Alike values -/

theorem WellFormed.alike_self (h : first.WellFormed) : first.Alike first := by
  induction h with
  | flag on => exact .flag on
  | @int number hfits => exact .int number
  | text content => exact .text content
  | list items => exact .list items
  | nested hdistinct hvalues ih =>
      refine .nested (fun _ => Iff.rfl) fun name value bound hvalue hbound => ?_
      obtain rfl : value = bound := Option.some.inj (hvalue.symm.trans hbound)
      exact ih (name, value) (Entries.mem_of_lookup hvalue)

theorem Alike.symm (h : first.Alike second) : second.Alike first := by
  induction h with
  | flag on => exact .flag on
  | int number => exact .int number
  | text content => exact .text content
  | list items => exact .list items
  | nested hnames hvalues ih =>
      exact .nested (fun name => (hnames name).symm) fun name value bound hvalue hbound =>
        ih name bound value hbound hvalue

theorem Alike.trans (h : first.Alike second) (hsecond : second.Alike third) :
    first.Alike third := by
  induction h generalizing third with
  | flag on => exact hsecond
  | int number => exact hsecond
  | text content => exact hsecond
  | list items => exact hsecond
  | @nested entries middle hnames hvalues ih =>
      cases hsecond with
      | nested hlater hbounds =>
          refine .nested (fun name => (hnames name).trans (hlater name)) ?_
          intro name value bound hvalue hbound
          -- the name is in the middle map as well
          obtain ⟨between, hbetween⟩ := Entries.exists_of_mem_names
            ((hnames name).mp (Entries.mem_names_of_mem (Entries.mem_of_lookup hvalue)))
          exact ih name value between hvalue hbetween
            (hbounds name between bound hbetween hbound)

/-! ## The comparison -/

/-- Every entry is bound to the same value when each is found. -/
theorem boundIn_iff :
    boundIn entries other = true ↔
      ∀ entry ∈ entries, ∃ bound, other.lookup entry.1 = some bound ∧
        entry.2.same bound = true := by
  induction entries with
  | nil => simp [boundIn]
  | cons entry rest ih =>
      obtain ⟨name, value⟩ := entry
      rw [boundIn, Bool.and_eq_true, ih, List.forall_mem_cons]
      refine and_congr_left fun _ => ?_
      cases other.lookup name <;> simp

/-- Of as many distinct names, all of the one list are in the other exactly when
the two have the same names. -/
theorem names_iff_of_subset (hentries : Entries.Distinct entries)
    (hother : Entries.Distinct other) :
    (entries.length = other.length ∧ Entries.names entries ⊆ Entries.names other) ↔
      ∀ name, name ∈ Entries.names entries ↔ name ∈ Entries.names other := by
  have hlength : entries.length = other.length ↔
      (Entries.names entries).length = (Entries.names other).length := by
    simp [Entries.names]
  rw [hlength]
  constructor
  · rintro ⟨heq, hsubset⟩ name
    have hpart := List.Nodup.subperm hentries hsubset
    exact (hpart.perm_of_length_le (Nat.le_of_eq heq.symm)).mem_iff
  · intro hnames
    have hperm := (List.perm_ext_iff_of_nodup hentries hother).mpr hnames
    exact ⟨hperm.length_eq, hperm.subset⟩

/-- Maps with distinct names are the same when the same names have the same
values. -/
theorem sameEntries_iff (hentries : Entries.Distinct entries)
    (hother : Entries.Distinct other) :
    (entries.length == other.length && boundIn entries other) = true ↔
      (∀ name, name ∈ Entries.names entries ↔ name ∈ Entries.names other) ∧
        ∀ name first second, entries.lookup name = some first →
          other.lookup name = some second → first.same second = true := by
  rw [Bool.and_eq_true, beq_iff_eq, boundIn_iff, ← names_iff_of_subset hentries hother]
  constructor
  · rintro ⟨hlength, hbound⟩
    refine ⟨⟨hlength, fun name hname => ?_⟩, fun name first second hfirst hsecond => ?_⟩
    · obtain ⟨entry, hentry, rfl⟩ := List.mem_map.mp hname
      obtain ⟨bound, hbound, -⟩ := hbound entry hentry
      exact Entries.mem_names_of_mem (Entries.mem_of_lookup hbound)
    · obtain ⟨bound, hbound, hsame⟩ := hbound (name, first) (Entries.mem_of_lookup hfirst)
      obtain rfl : bound = second := Option.some.inj (hbound.symm.trans hsecond)
      exact hsame
  · rintro ⟨⟨hlength, hsubset⟩, hvalues⟩
    refine ⟨hlength, fun entry hentry => ?_⟩
    obtain ⟨bound, hbound⟩ :=
      Entries.exists_of_mem_names (hsubset (List.mem_map_of_mem hentry))
    exact ⟨bound, hbound,
      hvalues entry.1 entry.2 bound (Entries.lookup_of_mem hentries hentry) hbound⟩

/-- A flat value is alike with itself only. -/
theorem alike_iff_eq_of_isFlat (h : first.isFlat = true) :
    first.Alike second ↔ first = second := by
  constructor
  · intro halike
    cases halike with
    | nested _ _ => cases h
    | _ => rfl
  · rintro rfl
    cases first with
    | flag on => exact .flag on
    | int number => exact .int number
    | text content => exact .text content
    | list items => exact .list items
    | nested entries => cases h

theorem same_iff_alike_of_isFlat (h : first.isFlat = true) :
    first.same second = true ↔ first.Alike second := by
  rw [alike_iff_eq_of_isFlat h]
  cases first <;> cases second <;> simp [isFlat, same] at h ⊢

/-- Well-formed values are the same when they are alike. -/
theorem WellFormed.same_iff_alike (hfirst : first.WellFormed) (hsecond : second.WellFormed) :
    first.same second = true ↔ first.Alike second := by
  induction hfirst generalizing second with
  | nested hdistinct hvalues ih =>
      cases hsecond with
      | nested hother hbounds =>
          rw [same, sameEntries_iff hdistinct hother]
          constructor
          · rintro ⟨hnames, hsame⟩
            exact .nested hnames fun name value bound hvalue hbound =>
              (ih (name, value) (Entries.mem_of_lookup hvalue)
                (hbounds (name, bound) (Entries.mem_of_lookup hbound))).mp
                  (hsame name value bound hvalue hbound)
          · intro h
            cases h with
            | nested hnames halike =>
                exact ⟨hnames, fun name value bound hvalue hbound =>
                  (ih (name, value) (Entries.mem_of_lookup hvalue)
                    (hbounds (name, bound) (Entries.mem_of_lookup hbound))).mpr
                      (halike name value bound hvalue hbound)⟩
      | _ => exact ⟨fun hsame => by simp [same] at hsame, fun halike => by cases halike⟩
  | _ => exact same_iff_alike_of_isFlat rfl

end Value

namespace Attributes

variable {set other : Attributes}

/-! ## Maps as nested values -/

theorem WellFormed.nested (h : set.WellFormed) : (Value.nested set.entries).WellFormed :=
  .nested h.distinct h.values

theorem same_eq_nested (set other : Attributes) :
    set.same other = (Value.nested set.entries).same (.nested other.entries) := by
  rw [same, Value.same]

theorem alike_iff_nested : set.Alike other ↔
    (Value.nested set.entries).Alike (.nested other.entries) := by
  constructor
  · rintro ⟨hnames, hvalues⟩
    exact .nested hnames hvalues
  · intro h
    cases h with
    | nested hnames hvalues => exact ⟨hnames, hvalues⟩

/-- Well-formed maps are the same when they set the same names to values that are
alike. -/
theorem WellFormed.same_iff_alike (hset : set.WellFormed) (hother : other.WellFormed) :
    set.same other = true ↔ set.Alike other := by
  rw [same_eq_nested, alike_iff_nested]
  exact hset.nested.same_iff_alike hother.nested

/-- On well-formed maps sameness is an equivalence. -/
theorem equivalence_same :
    Equivalence fun set other : {set : Attributes // set.WellFormed} =>
      set.val.same other.val = true where
  refl set := (set.2.same_iff_alike set.2).mpr (alike_iff_nested.mpr set.2.nested.alike_self)
  symm {set other} h := by
    have halike := alike_iff_nested.mp ((set.2.same_iff_alike other.2).mp h)
    exact (other.2.same_iff_alike set.2).mpr (alike_iff_nested.mpr halike.symm)
  trans {set middle other} h hlater := by
    have halike := alike_iff_nested.mp ((set.2.same_iff_alike middle.2).mp h)
    have hrest := alike_iff_nested.mp ((middle.2.same_iff_alike other.2).mp hlater)
    exact (set.2.same_iff_alike other.2).mpr (alike_iff_nested.mpr (halike.trans hrest))

end Attributes
end DesiredState
