import DesiredState.Catalog.Virtual
import DesiredState.Proofs.Attributes
import DesiredState.Proofs.Text

/-!
# The view of a virtual server

How addresses and ports come back from the text that the device keeps, and
what is read and written under each name.  A host with exactly one colon is
the one that does not survive: it is joined to its port by a point and split
again at the colon.
-/

namespace DesiredState
namespace Catalog
namespace Virtual

/-! ## Addresses and ports -/

/-- A destination is cut at the last separator, and a number has to follow. -/
theorem splitPort_eq (destination : String) :
    splitPort destination =
      (Text.cutLast (if 1 < (Text.lastSegment '/' destination.toList).count ':' then '.'
        else ':') destination).bind fun cut =>
          (Text.readInt64 cut.2).map fun port => (cut.1, port) := by
  unfold splitPort
  refine congrArg (Option.bind _) (funext fun cut => ?_)
  obtain ⟨address, port⟩ := cut
  change (Text.readInt64 port >>= fun number => pure (address, number)) = _
  cases Text.readInt64 port <;> rfl

theorem toList_joinPort (address : String) (port : Int) :
    (joinPort address port).toList =
      address.toList ++
        (if (Text.lastSegment '/' address.toList).contains ':' then '.' else ':') ::
          (toString port).toList := by
  unfold joinPort
  simp only
  split
  · simp
  · simp

/-- The host of a joined text is the host of the address and what was joined. -/
theorem host_joinPort (address : String) (port : Int) :
    Text.lastSegment '/' (joinPort address port).toList =
      Text.lastSegment '/' address.toList ++
        (if (Text.lastSegment '/' address.toList).contains ':' then '.' else ':') ::
          (toString port).toList := by
  rw [toList_joinPort]
  refine Text.lastSegment_append ?_ _
  rw [List.mem_cons]
  rintro (heq | hmem)
  · split at heq <;> cases heq
  · exact Text.not_mem_toString (c := '/') rfl (by decide) port hmem

theorem count_colon_toString (port : Int) : (toString port).toList.count ':' = 0 :=
  List.count_eq_zero.mpr (Text.not_mem_toString rfl (by decide) port)

/-- Unless the host has exactly one colon, address and port come back. -/
theorem splitPort_joinPort {address : String} {port : Int}
    (hhost : (Text.lastSegment '/' address.toList).count ':' ≠ 1)
    (hfits : Text.fitsInt64 port = true) :
    splitPort (joinPort address port) = some (address, port) := by
  have hcut : ∀ separator : Char,
      (joinPort address port).toList =
        address.toList ++ separator :: (toString port).toList →
      separator ∉ (toString port).toList →
      Text.cutLast separator (joinPort address port) = some (address, toString port) := by
    intro separator hjoined hfresh
    rw [Text.cutLast, hjoined, Text.cutLastChars_append_cons hfresh]
    simp
  rw [splitPort_eq, host_joinPort]
  by_cases hcolon : (Text.lastSegment '/' address.toList).contains ':' = true
  · have hmany : 1 < (Text.lastSegment '/' address.toList).count ':' := by
      have hpos := List.count_pos_iff.mpr (List.contains_iff_mem.mp hcolon)
      omega
    have hseparator : 1 < (Text.lastSegment '/' address.toList ++
        '.' :: (toString port).toList).count ':' := by
      rw [List.count_append]
      omega
    have hpoint := hcut '.' (by rw [toList_joinPort, if_pos hcolon])
      (Text.not_mem_toString rfl (by decide) port)
    rw [if_pos hcolon, if_pos hseparator, hpoint, Option.bind_some,
      Text.readInt64_toString hfits, Option.map_some]
  · have hnone : (Text.lastSegment '/' address.toList).count ':' = 0 := by
      rw [List.count_eq_zero]
      exact fun hmem => hcolon (List.contains_iff_mem.mpr hmem)
    have hseparator : ¬1 < (Text.lastSegment '/' address.toList ++
        ':' :: (toString port).toList).count ':' := by
      rw [List.count_append, List.count_cons_self, count_colon_toString, hnone]
      omega
    have hlast := hcut ':' (by rw [toList_joinPort, if_neg hcolon])
      (Text.not_mem_toString rfl (by decide) port)
    rw [if_neg hcolon, if_neg hseparator, hlast, Option.bind_some,
      Text.readInt64_toString hfits, Option.map_some]

/-- With exactly one colon in the host, what was joined is not split at all. -/
theorem splitPort_joinPort_of_single {address : String} {port : Int}
    (hhost : (Text.lastSegment '/' address.toList).count ':' = 1) :
    splitPort (joinPort address port) = none := by
  have hcolon : (Text.lastSegment '/' address.toList).contains ':' = true := by
    rw [List.contains_iff_mem, ← List.count_pos_iff]
    omega
  have hseparator : ¬1 < (Text.lastSegment '/' address.toList ++
      '.' :: (toString port).toList).count ':' := by
    rw [List.count_append, List.count_cons_of_ne (by decide), count_colon_toString, hhost]
    omega
  have htail : ':' ∉ '.' :: (toString port).toList := by
    rw [List.mem_cons]
    rintro (heq | hmem)
    · cases heq
    · exact Text.not_mem_toString (c := ':') rfl (by decide) port hmem
  rw [splitPort_eq, host_joinPort, if_pos hcolon, if_neg hseparator, Text.cutLast,
    toList_joinPort, if_pos hcolon, Text.cutLastChars_append htail]
  -- what comes after the colon has the point in it, so it is no number
  cases Text.cutLastChars ':' address.toList with
  | none => rfl
  | some cut =>
      have hpoint : Text.readInt64 (String.ofList (cut.2 ++ '.' :: (toString port).toList)) =
          none := by
        rw [Text.readInt64, String.toList_ofList,
          Text.integer?_eq_none_of_mem (c := '.') (by simp) rfl (by decide) (by decide)]
        rfl
      rw [Option.map_some, Option.map_some, Option.bind_some, hpoint, Option.map_none]

/-- A destination that is split is longer than its address. -/
theorem ne_of_splitPort {destination address : String} {port : Int}
    (h : splitPort destination = some (address, port)) : address ≠ destination := by
  rw [splitPort_eq] at h
  obtain ⟨cut, hcut, hrest⟩ := Option.bind_eq_some_iff.mp h
  obtain ⟨number, -, hpair⟩ := Option.map_eq_some_iff.mp hrest
  obtain ⟨chars, hchars, rfl⟩ := Option.map_eq_some_iff.mp hcut
  obtain ⟨rfl, -⟩ := Prod.mk.inj hpair
  intro heq
  have hlength := congrArg List.length (Text.append_of_cutLastChars hchars)
  rw [← heq] at hlength
  simp at hlength

theorem fits_of_splitPort {destination address : String} {port : Int}
    (h : splitPort destination = some (address, port)) : Text.fitsInt64 port = true := by
  rw [splitPort_eq] at h
  obtain ⟨cut, -, hrest⟩ := Option.bind_eq_some_iff.mp h
  obtain ⟨number, hnumber, hpair⟩ := Option.map_eq_some_iff.mp hrest
  obtain ⟨-, rfl⟩ := Prod.mk.inj hpair
  exact Text.fitsInt64_of_readInt64 hnumber

/-! ## Reading -/

variable (held body : Attributes) {name : String}

theorem get?_readDestination_of_ne (hport : name ≠ "port") (hname : name ≠ "destination") :
    (readDestination held).get? name = held.get? name := by
  unfold readDestination
  split
  · rw [Attributes.get?_insert_of_ne _ hport, Attributes.get?_insert_of_ne _ hname]
  · rfl

theorem get?_readVlans_of_ne (hvlans : name ≠ "vlans") (henabled : name ≠ "enabled_vlans")
    (hdisabled : name ≠ "disabled_vlans") :
    (readVlans held).get? name = held.get? name := by
  unfold readVlans
  split
  · dsimp only
    split
    · rw [Attributes.get?_insert_of_ne _ hdisabled, Attributes.get?_erase_of_ne _ hvlans]
    · rw [Attributes.get?_insert_of_ne _ henabled, Attributes.get?_erase_of_ne _ hvlans]
  · rfl

/-- The list of VLANs is the enabled one unless the switch says otherwise. -/
theorem get?_enabled_readVlans :
    (readVlans held).get? "enabled_vlans" =
      if held.flag? "vlansDisabled" = some true then held.get? "enabled_vlans"
      else (held.get? "vlans").or (held.get? "enabled_vlans") := by
  have hflag : (held.erase "vlans").flag? "vlansDisabled" = held.flag? "vlansDisabled" := by
    rw [Attributes.flag?, Attributes.get?_erase_of_ne _ (by decide), Attributes.flag?]
  unfold readVlans
  cases hvlans : held.get? "vlans" with
  | none => simp
  | some vlans =>
      simp only [hflag, beq_iff_eq]
      split
      · rw [Attributes.get?_insert_of_ne _ (by decide),
          Attributes.get?_erase_of_ne _ (by decide)]
      · rw [Attributes.get?_insert_self, Option.some_or]

/-- The list of VLANs is the disabled one when the switch says so. -/
theorem get?_disabled_readVlans :
    (readVlans held).get? "disabled_vlans" =
      if held.flag? "vlansDisabled" = some true then
        (held.get? "vlans").or (held.get? "disabled_vlans")
      else held.get? "disabled_vlans" := by
  have hflag : (held.erase "vlans").flag? "vlansDisabled" = held.flag? "vlansDisabled" := by
    rw [Attributes.flag?, Attributes.get?_erase_of_ne _ (by decide), Attributes.flag?]
  unfold readVlans
  cases hvlans : held.get? "vlans" with
  | none => simp
  | some vlans =>
      simp only [hflag, beq_iff_eq]
      split
      · rw [Attributes.get?_insert_self, Option.some_or]
      · rw [Attributes.get?_insert_of_ne _ (by decide),
          Attributes.get?_erase_of_ne _ (by decide)]

/-- Names that take no part in addresses and VLANs are read as they are. -/
theorem get?_read_of_not_mem
    (h : name ∉ ["destination", "port", "vlans", "enabled_vlans", "disabled_vlans"]) :
    (read held).get? name = held.get? name := by
  simp only [List.mem_cons, List.not_mem_nil, or_false, not_or] at h
  rw [read, get?_readVlans_of_ne _ h.2.2.1 h.2.2.2.1 h.2.2.2.2,
    get?_readDestination_of_ne _ h.2.1 h.1]

/-- Address and port are read from a destination that can be split. -/
theorem get?_read_of_splitPort {address : String} {port : Int}
    (h : (held.text? "destination").bind splitPort = some (address, port)) :
    (read held).get? "destination" = some (.text address) ∧
      (read held).get? "port" = some (.int port) := by
  have hread : readDestination held =
      (held.insert "destination" (.text address)).insert "port" (.int port) := by
    simp [readDestination, h]
  constructor
  · rw [read, get?_readVlans_of_ne _ (by decide) (by decide) (by decide), hread,
      Attributes.get?_insert_of_ne _ (by decide), Attributes.get?_insert_self]
  · rw [read, get?_readVlans_of_ne _ (by decide) (by decide) (by decide), hread,
      Attributes.get?_insert_self]

/-- Any other destination is read as it is, and so is a port beside it. -/
theorem get?_read_of_splitPort_eq_none
    (h : (held.text? "destination").bind splitPort = none) :
    (read held).get? "destination" = held.get? "destination" ∧
      (read held).get? "port" = held.get? "port" := by
  have hread : readDestination held = held := by
    simp [readDestination, h]
  constructor
  · rw [read, get?_readVlans_of_ne _ (by decide) (by decide) (by decide), hread]
  · rw [read, get?_readVlans_of_ne _ (by decide) (by decide) (by decide), hread]

theorem get?_enabled_read :
    (read held).get? "enabled_vlans" =
      if held.flag? "vlansDisabled" = some true then held.get? "enabled_vlans"
      else (held.get? "vlans").or (held.get? "enabled_vlans") := by
  rw [read, get?_enabled_readVlans, Attributes.flag?]
  simp only [get?_readDestination_of_ne held (show "vlansDisabled" ≠ "port" by decide)
      (by decide), get?_readDestination_of_ne held (show "vlans" ≠ "port" by decide)
      (by decide), get?_readDestination_of_ne held (show "enabled_vlans" ≠ "port" by decide)
      (by decide)]
  rfl

theorem get?_disabled_read :
    (read held).get? "disabled_vlans" =
      if held.flag? "vlansDisabled" = some true then
        (held.get? "vlans").or (held.get? "disabled_vlans")
      else held.get? "disabled_vlans" := by
  rw [read, get?_disabled_readVlans, Attributes.flag?]
  simp only [get?_readDestination_of_ne held (show "vlansDisabled" ≠ "port" by decide)
      (by decide), get?_readDestination_of_ne held (show "vlans" ≠ "port" by decide)
      (by decide), get?_readDestination_of_ne held (show "disabled_vlans" ≠ "port" by decide)
      (by decide)]
  rfl

/-! ## Writing -/

theorem get?_writeDestination_of_ne (hport : name ≠ "port") (hname : name ≠ "destination") :
    (writeDestination body).get? name = body.get? name := by
  unfold writeDestination
  dsimp only
  split
  · rw [Attributes.get?_insert_of_ne _ hname, Attributes.get?_erase_of_ne _ hport]
  · rw [Attributes.get?_erase_of_ne _ hport]

/-- A destination is written with its port, where both are given. -/
theorem get?_destination_writeDestination :
    (writeDestination body).get? "destination" =
      match body.text? "destination", body.int? "port" with
      | some address, some port => some (.text (joinPort address port))
      | _, _ => body.get? "destination" := by
  have htext : (body.erase "port").text? "destination" = body.text? "destination" := by
    rw [Attributes.text?, Attributes.get?_erase_of_ne _ (by decide), Attributes.text?]
  unfold writeDestination
  simp only [htext]
  cases body.text? "destination" with
  | none => simp [Attributes.get?_erase_of_ne]
  | some address =>
      cases body.int? "port" with
      | none => simp [Attributes.get?_erase_of_ne]
      | some port => simp

variable {body}

theorem get?_port_writeDestination (h : body.Distinct) :
    (writeDestination body).get? "port" = none := by
  unfold writeDestination
  dsimp only
  split
  · rw [Attributes.get?_insert_of_ne _ (by decide), h.get?_erase, if_pos rfl]
  · rw [h.get?_erase, if_pos rfl]

theorem distinct_writeDestination (h : body.Distinct) : (writeDestination body).Distinct := by
  unfold writeDestination
  dsimp only
  split
  · exact (h.erase _).insert _ _
  · exact h.erase _

theorem distinct_write (h : body.Distinct) : (write body).Distinct := by
  unfold write writeVlans
  have hbody := distinct_writeDestination h
  split
  · exact ((hbody.erase _).insert _ _).insert _ _
  · split
    · exact ((hbody.erase _).insert _ _).insert _ _
    · exact hbody

/-- The names that are written are those of the body and those of the VLANs. -/
theorem mem_names_of_write (h : name ∈ (write body).names) :
    name ∈ body.names ∨ name ∈ ["destination", "vlans", "vlansEnabled", "vlansDisabled"] := by
  have hdestination : ∀ {other : String}, other ∈ (writeDestination body).names →
      other ∈ body.names ∨ other = "destination" := by
    intro other hother
    unfold writeDestination at hother
    dsimp only at hother
    split at hother
    · rcases Attributes.mem_names_of_insert hother with heq | hrest
      · exact Or.inr heq
      · exact Or.inl (Attributes.mem_names_of_erase hrest)
    · exact Or.inl (Attributes.mem_names_of_erase hother)
  -- both branches for VLANs only add to what is written of the destination
  have hkept : name ∈ (writeDestination body).names →
      name ∈ body.names ∨ name ∈ ["destination", "vlans", "vlansEnabled", "vlansDisabled"] := by
    intro hmem
    rcases hdestination hmem with hbody | heq
    · exact Or.inl hbody
    · exact Or.inr (by simp [heq])
  unfold write writeVlans at h
  split at h
  · rcases Attributes.mem_names_of_insert h with heq | h
    · exact Or.inr (by simp [heq])
    · rcases Attributes.mem_names_of_insert h with heq | h
      · exact Or.inr (by simp [heq])
      · exact hkept (Attributes.mem_names_of_erase h)
  · split at h
    · rcases Attributes.mem_names_of_insert h with heq | h
      · exact Or.inr (by simp [heq])
      · rcases Attributes.mem_names_of_insert h with heq | h
        · exact Or.inr (by simp [heq])
        · exact hkept (Attributes.mem_names_of_erase h)
    · exact hkept h

theorem get?_writeVlans_of_ne (hvlans : name ≠ "vlans") (hon : name ≠ "vlansEnabled")
    (hoff : name ≠ "vlansDisabled") (henabled : name ≠ "enabled_vlans")
    (hdisabled : name ≠ "disabled_vlans") :
    (writeVlans body).get? name = body.get? name := by
  unfold writeVlans
  split
  · rw [Attributes.get?_insert_of_ne _ hon, Attributes.get?_insert_of_ne _ hvlans,
      Attributes.get?_erase_of_ne _ henabled]
  · split
    · rw [Attributes.get?_insert_of_ne _ hoff, Attributes.get?_insert_of_ne _ hvlans,
        Attributes.get?_erase_of_ne _ hdisabled]
    · rfl

/-- Names that take no part in addresses and VLANs are written as they are. -/
theorem get?_write_of_not_mem
    (h : name ∉ ["destination", "port", "vlans", "vlansEnabled", "vlansDisabled",
      "enabled_vlans", "disabled_vlans"]) :
    (write body).get? name = body.get? name := by
  simp only [List.mem_cons, List.not_mem_nil, or_false, not_or] at h
  obtain ⟨hname, hport, hvlans, hon, hoff, henabled, hdisabled⟩ := h
  rw [write, get?_writeVlans_of_ne hvlans hon hoff henabled hdisabled,
    get?_writeDestination_of_ne _ hport hname]

/-- What is written of a destination. -/
theorem get?_destination_write (body : Attributes) :
    (write body).get? "destination" =
      match body.text? "destination", body.int? "port" with
      | some address, some port => some (.text (joinPort address port))
      | _, _ => body.get? "destination" := by
  rw [write, get?_writeVlans_of_ne (by decide) (by decide) (by decide) (by decide)
    (by decide), get?_destination_writeDestination]

theorem get?_port_write (h : body.Distinct) :
    (write body).get? "port" = none := by
  rw [write, get?_writeVlans_of_ne (by decide) (by decide) (by decide) (by decide)
    (by decide), get?_port_writeDestination h]

/-- What is written of a list of enabled VLANs: the list, beside a list of
disabled ones under its own name. -/
theorem get?_write_of_enabled (hdistinct : body.Distinct) {vlans : Value}
    (h : body.get? "enabled_vlans" = some vlans) :
    (write body).get? "vlans" = some vlans ∧
      (write body).get? "vlansDisabled" = body.get? "vlansDisabled" ∧
        (write body).get? "enabled_vlans" = none ∧
          (write body).get? "disabled_vlans" = body.get? "disabled_vlans" := by
  have hlist : (writeDestination body).get? "enabled_vlans" = some vlans := by
    rw [get?_writeDestination_of_ne _ (by decide) (by decide), h]
  have hwrite : write body = (((writeDestination body).erase "enabled_vlans").insert "vlans"
      vlans).insert "vlansEnabled" (.flag true) := by
    simp [write, writeVlans, hlist]
  have hwritten := distinct_writeDestination hdistinct
  rw [hwrite]
  refine ⟨?_, ?_, ?_, ?_⟩
  · rw [Attributes.get?_insert_of_ne _ (by decide), Attributes.get?_insert_self]
  · rw [Attributes.get?_insert_of_ne _ (by decide), Attributes.get?_insert_of_ne _ (by decide),
      Attributes.get?_erase_of_ne _ (by decide),
      get?_writeDestination_of_ne _ (by decide) (by decide)]
  · rw [Attributes.get?_insert_of_ne _ (by decide), Attributes.get?_insert_of_ne _ (by decide),
      hwritten.get?_erase, if_pos rfl]
  · rw [Attributes.get?_insert_of_ne _ (by decide), Attributes.get?_insert_of_ne _ (by decide),
      Attributes.get?_erase_of_ne _ (by decide),
      get?_writeDestination_of_ne _ (by decide) (by decide)]

/-- What is written of a list of disabled VLANs alone: the list and its switch. -/
theorem get?_write_of_disabled (hdistinct : body.Distinct) {vlans : Value}
    (hnone : body.get? "enabled_vlans" = none) (h : body.get? "disabled_vlans" = some vlans) :
    (write body).get? "vlans" = some vlans ∧
      (write body).get? "vlansDisabled" = some (.flag true) ∧
        (write body).get? "enabled_vlans" = none ∧
          (write body).get? "disabled_vlans" = none := by
  have hother : (writeDestination body).get? "enabled_vlans" = none := by
    rw [get?_writeDestination_of_ne _ (by decide) (by decide), hnone]
  have hlist : (writeDestination body).get? "disabled_vlans" = some vlans := by
    rw [get?_writeDestination_of_ne _ (by decide) (by decide), h]
  have hwrite : write body = (((writeDestination body).erase "disabled_vlans").insert "vlans"
      vlans).insert "vlansDisabled" (.flag true) := by
    simp [write, writeVlans, hother, hlist]
  have hwritten := distinct_writeDestination hdistinct
  rw [hwrite]
  refine ⟨?_, ?_, ?_, ?_⟩
  · rw [Attributes.get?_insert_of_ne _ (by decide), Attributes.get?_insert_self]
  · rw [Attributes.get?_insert_self]
  · rw [Attributes.get?_insert_of_ne _ (by decide), Attributes.get?_insert_of_ne _ (by decide),
      Attributes.get?_erase_of_ne _ (by decide), hother]
  · rw [Attributes.get?_insert_of_ne _ (by decide), Attributes.get?_insert_of_ne _ (by decide),
      hwritten.get?_erase, if_pos rfl]

/-- Without a list of VLANs nothing is written of them. -/
theorem get?_write_of_no_vlans (henabled : body.get? "enabled_vlans" = none)
    (hdisabled : body.get? "disabled_vlans" = none) (hname : name ≠ "destination")
    (hport : name ≠ "port") : (write body).get? name = body.get? name := by
  have hwrite : write body = writeDestination body := by
    have hother : (writeDestination body).get? "enabled_vlans" = none := by
      rw [get?_writeDestination_of_ne _ (by decide) (by decide), henabled]
    have hlist : (writeDestination body).get? "disabled_vlans" = none := by
      rw [get?_writeDestination_of_ne _ (by decide) (by decide), hdisabled]
    simp [write, writeVlans, hother, hlist]
  rw [hwrite, get?_writeDestination_of_ne _ hport hname]

end Virtual
end Catalog
end DesiredState
