import DesiredState.Proofs.Schema.Ordinary
import DesiredState.Proofs.Schema.Wire
import Mathlib.Data.List.Nodup

/-!
# Want maps come back from the wire

A want map that is sent to a device and reported back unchanged is seen as it
was, entry by entry and in the same order.  Two things could stand in the way:
names that meet on the wire, where one entry would replace the other, and
values that are coerced into something else.  The first does not happen as long
as the fields are stored under distinct names, even where the wire name of one
field is the logical name of another; the second does not happen to values in
normal form.
-/

namespace DesiredState
namespace Schema

variable {schema : Schema} {logical : Attributes}

/-- Declared names do not meet on the wire. -/
theorem toWire_injective (hnames : schema.names.Nodup) (hwires : schema.wires.Nodup)
    {first second : String} (hfirst : first ∈ schema.names) (hsecond : second ∈ schema.names)
    (h : schema.aliases.toWire first = schema.aliases.toWire second) : first = second := by
  calc
    first = schema.aliases.toLogical (schema.aliases.toWire first) :=
      (returns_of_distinct hnames hwires hfirst).symm
    _ = schema.aliases.toLogical (schema.aliases.toWire second) := by rw [h]
    _ = second := returns_of_distinct hnames hwires hsecond

/-- The wire map of declared names has one entry for each of them, in their
order. -/
theorem entries_toWire (hnames : schema.names.Nodup) (hwires : schema.wires.Nodup)
    (hdistinct : logical.Distinct) (hdeclared : ∀ name ∈ logical.names, name ∈ schema.names) :
    (schema.toWire logical).entries =
      logical.entries.map fun entry => (schema.aliases.toWire entry.1, entry.2) := by
  have hwire : Entries.Distinct
      (logical.entries.map fun entry => (schema.aliases.toWire entry.1, entry.2)) := by
    have hsent : Entries.names
        (logical.entries.map fun entry => (schema.aliases.toWire entry.1, entry.2)) =
          logical.names.map schema.aliases.toWire := by
      simp [Entries.names, Attributes.names]
    unfold Entries.Distinct
    rw [hsent]
    refine List.Nodup.map_on (fun first hfirst second hsecond heq => ?_) hdistinct
    exact toWire_injective hnames hwires (hdeclared first hfirst) (hdeclared second hsecond) heq
  exact congrArg Attributes.entries (Attributes.ofList_of_distinct hwire)

/-- A want map comes back from the wire entry by entry, in the same order. -/
theorem ofWire_toWire_want (hnames : schema.names.Nodup) (hwires : schema.wires.Nodup)
    {params want : Attributes} {partition : String}
    (h : schema.want params partition = .ok want) :
    schema.ofWire (schema.toWire want) = want := by
  have hdistinct : want.Distinct := distinct_of_want h
  have hdeclared : ∀ name ∈ want.names, name ∈ schema.names := names_of_want h
  have hentry : ∀ entry ∈ want.entries,
      schema.logicalEntry (schema.aliases.toWire entry.1, entry.2) = entry := by
    rintro ⟨name, value⟩ hmem
    obtain ⟨field, hfield, hvalue⟩ :=
      holds_of_want hnames h (Entries.lookup_of_mem hdistinct hmem)
    have hname := returns_of_distinct hnames hwires (hdeclared name (Entries.mem_names_of_mem hmem))
    rw [logicalEntry_eq, hname, coerced_of_holds hfield hvalue]
  have hback : (schema.toWire want).entries.map schema.logicalEntry = want.entries := by
    rw [entries_toWire hnames hwires hdistinct hdeclared, List.map_map]
    exact (List.map_congr_left hentry).trans (List.map_id _)
  rw [ofWire, hback]
  exact Attributes.ofList_of_distinct hdistinct

/-- A schema of two references that swap their names on the wire, and a flag. -/
def swapped : Schema := ⟨[
  (Field.reference "pool").sentAs "source", (Field.reference "source").sentAs "pool",
  Field.flag "enabled"]⟩

/-- Parameters of the sample, out of their declared order. -/
def swappedParams : Attributes :=
  ⟨[("source", .text "a"), ("enabled", .text "no"), ("pool", .text "b")]⟩

/-- What is wanted by them. -/
def swappedWant : Attributes :=
  ⟨[("pool", .text "/Common/b"), ("source", .text "/Common/a"), ("enabled", .flag false)]⟩

/-- Swapped names come back each in its own place. -/
theorem swapped_comes_back :
    swapped.want swappedParams "Common" = .ok swappedWant ∧
      swapped.ofWire (swapped.toWire swappedWant) = swappedWant := by
  have hwant : swapped.want swappedParams "Common" = .ok swappedWant := rfl
  exact ⟨hwant, ofWire_toWire_want (by decide) (by decide) hwant⟩

end Schema
end DesiredState
