import DesiredState.Proofs.Catalog.Virtual.View

/-!
# Destinations, joined and split

A destination is an address and a port in one text.  Joining looks for any
colon in the host of the address, splitting counts the colons in the host of
the whole destination, and both of them go by the last separator.  The two
choices of a separator agree unless the host of the address has exactly one
colon, since a colon that is put before the port adds one to the count.

* `joins_of_splitPort` — the address of a destination that splits is joined to
  its port by the separator at which the destination was cut;
* `splitPort_joinPort_inverse` — joining and splitting undo each other, as far
  as the host of an address and the spelling of a port allow.

A port may be spelled in several ways, with a plus sign or with zeros in front.
Such a destination splits, but it is the canonical one that is joined again.
-/

namespace DesiredState
namespace Catalog
namespace Virtual

/-- The separator at which a destination is cut. -/
def separatorOf (destination : String) : Char :=
  if 1 < (Text.lastSegment '/' destination.toList).count ':' then '.' else ':'

/-- The text that is read as the port of a destination. -/
def portText? (destination : String) : Option String :=
  (Text.cutLast (separatorOf destination) destination).map Prod.snd

variable {destination address : String} {port : Int}

/-- A destination that splits is its address and the text of its port, around the
separator. -/
theorem toList_of_splitPort (h : splitPort destination = some (address, port)) :
    ∃ text, portText? destination = some text ∧ Text.readInt64 text = some port ∧
      destination.toList = address.toList ++ separatorOf destination :: text.toList := by
  rw [splitPort_eq] at h
  obtain ⟨⟨before, text⟩, hcut, hrest⟩ := Option.bind_eq_some_iff.mp h
  obtain ⟨number, hnumber, hpair⟩ := Option.map_eq_some_iff.mp hrest
  obtain ⟨rfl, rfl⟩ := Prod.mk.inj hpair
  have hcut : Text.cutLast (separatorOf destination) destination = some (before, text) := hcut
  refine ⟨text, ?_, hnumber, Text.toList_of_cutLast hcut⟩
  rw [portText?, hcut]
  rfl

/-- The colons in the host of a destination that splits are those in the host of
its address, and the separator where it is one. -/
theorem count_colon_of_splitPort (h : splitPort destination = some (address, port)) :
    (Text.lastSegment '/' destination.toList).count ':' =
      (Text.lastSegment '/' address.toList).count ':' +
        if separatorOf destination = ':' then 1 else 0 := by
  obtain ⟨text, -, hread, hjoined⟩ := toList_of_splitPort h
  have hslash : '/' ∉ separatorOf destination :: text.toList := by
    rw [List.mem_cons]
    rintro (heq | hmem)
    · unfold separatorOf at heq
      split at heq <;> cases heq
    · exact Text.not_mem_of_readInt64 hread rfl (by decide) (by decide) hmem
  have hcolon : text.toList.count ':' = 0 :=
    List.count_eq_zero.mpr (Text.not_mem_of_readInt64 hread rfl (by decide) (by decide))
  rw [hjoined, Text.lastSegment_append hslash, List.count_append, List.count_cons, hcolon,
    Nat.zero_add]
  simp only [beq_iff_eq]

/-- The host of the address has no colon where the separator is one, and else more
than one colon. -/
theorem separatorOf_of_splitPort (h : splitPort destination = some (address, port)) :
    separatorOf destination = ':' ∧ (Text.lastSegment '/' address.toList).count ':' = 0 ∨
      separatorOf destination = '.' ∧
        1 < (Text.lastSegment '/' address.toList).count ':' := by
  have hcount := count_colon_of_splitPort h
  by_cases hmany : 1 < (Text.lastSegment '/' destination.toList).count ':'
  · have hpoint : separatorOf destination = '.' := if_pos hmany
    rw [hpoint, if_neg (by decide)] at hcount
    exact Or.inr ⟨hpoint, by omega⟩
  · have hcolon : separatorOf destination = ':' := if_neg hmany
    rw [hcolon, if_pos rfl] at hcount
    exact Or.inl ⟨hcolon, by omega⟩

/-- No address with exactly one colon in its host comes from a destination. -/
theorem count_colon_ne_one_of_splitPort (h : splitPort destination = some (address, port)) :
    (Text.lastSegment '/' address.toList).count ':' ≠ 1 := by
  rcases separatorOf_of_splitPort h with ⟨-, hnone⟩ | ⟨-, hmany⟩
  · omega
  · omega

/-- The address of a destination that splits is joined to its port by the separator
at which the destination was cut. -/
theorem joins_of_splitPort (h : splitPort destination = some (address, port)) :
    (joinPort address port).toList =
      address.toList ++ separatorOf destination :: (toString port).toList := by
  rw [toList_joinPort]
  rcases separatorOf_of_splitPort h with ⟨hcolon, hnone⟩ | ⟨hpoint, hmany⟩
  · rw [hcolon, if_neg]
    rw [List.contains_iff_mem]
    exact List.count_eq_zero.mp hnone
  · rw [hpoint, if_pos]
    rw [List.contains_iff_mem]
    exact List.count_pos_iff.mp (by omega)

/-- An address and a port come back from the destination that they are joined to
exactly when the host of the address does not have exactly one colon; and a
destination is what its address and its port are joined to, if the port is spelled
in the canonical way. -/
theorem splitPort_joinPort_inverse :
    (∀ (address : String) (port : Int), Text.fitsInt64 port = true →
      (splitPort (joinPort address port) = some (address, port) ↔
        (Text.lastSegment '/' address.toList).count ':' ≠ 1)) ∧
    ∀ (destination address : String) (port : Int),
      splitPort destination = some (address, port) →
        portText? destination = some (toString port) →
          joinPort address port = destination := by
  constructor
  · intro address port hfits
    exact ⟨count_colon_ne_one_of_splitPort, fun hhost => splitPort_joinPort hhost hfits⟩
  · intro destination address port hsplit hcanonical
    obtain ⟨text, htext, -, hjoined⟩ := toList_of_splitPort hsplit
    obtain rfl : text = toString port := Option.some.inj (htext.symm.trans hcanonical)
    rw [← String.toList_inj, joins_of_splitPort hsplit, hjoined]

/-- An address with colons of its own and a route domain comes back with its port,
and so does the destination; a port with zeros in front is read as well, but not
written. -/
theorem zoned_splits_and_joins :
    splitPort (joinPort "/Common/2001:db8::1%1" 80) = some ("/Common/2001:db8::1%1", 80) ∧
      joinPort "/Common/10.0.0.1%2" 443 = "/Common/10.0.0.1%2:443" ∧
      splitPort "/Common/10.0.0.1%2:0443" = some ("/Common/10.0.0.1%2", 443) := by
  obtain ⟨hback, hjoins⟩ := splitPort_joinPort_inverse
  have hzoned : (Text.lastSegment '/' "/Common/2001:db8::1%1".toList).count ':' = 3 := by decide
  refine ⟨(hback _ 80 rfl).mpr (by rw [hzoned]; decide), ?_, by decide +kernel⟩
  exact hjoins _ _ _ (by decide +kernel) (by decide +kernel)

end Virtual
end Catalog
end DesiredState
