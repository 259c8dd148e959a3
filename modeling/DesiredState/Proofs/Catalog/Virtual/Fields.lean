import DesiredState.Proofs.Catalog.Virtual.View
import DesiredState.Proofs.Pass.Flags

/-!
# The attributes of a virtual server

How each attribute is judged, what a view shows of it after some attributes
were sent, and what can be wanted of it.  Addresses and lists of VLANs are the
ones that are written in another form; an address is read back unless it is
taken apart in another place than it was put together.
-/

namespace DesiredState
namespace Catalog
namespace Virtual

/-! ## The fields -/

theorem nodup_names : schema.names.Nodup := by decide

theorem returns_of_mem_names : ∀ name ∈ schema.names, schema.Returns name := by decide

/-- The names that are read or written in another form have no alias. -/
theorem plain_of_mem : ∀ name ∈ ["name", "enabled", "disabled", "destination", "port",
    "vlans", "vlansEnabled", "vlansDisabled", "enabled_vlans", "disabled_vlans"],
    schema.Plain name := by
  decide

theorem fields_consistent : ∀ field ∈ schema.fields, field.Consistent := by decide

/-- All names but address and port are judged on their own, and none of them
misses a value that asks for clearing. -/
theorem fields_single : ∀ field ∈ schema.fields, field.name ≠ "destination" →
    field.name ≠ "port" → field.comparison.partner? = none ∧
      field.comparison ≠ .keywordOrSet ∧
        (field.shape.clearable = true → field.comparison.forgives = true) := by
  decide

theorem destination_declared :
    schema.field? "destination" =
      some ((Field.reference "destination").comparedBy (.paired "port")) :=
  rfl

theorem port_declared :
    schema.field? "port" = some ((Field.port "port").comparedBy (.paired "destination")) :=
  rfl

theorem pairsMutually : schema.PairsMutually schema.names :=
  Schema.pairsMutually_of_partners nodup_names (by decide)

theorem faithful : kind.Faithful where
  updatable := rfl
  paired := pairsMutually
  writes := by
    intro body hdistinct hnames
    refine ⟨distinct_write hdistinct, fun name hname => ?_⟩
    rcases mem_names_of_write hname with hbody | hwritten
    · exact returns_of_mem_names name (hnames name hbody)
    · refine (plain_of_mem name ?_).returns
      simp only [List.mem_cons, List.not_mem_nil, or_false] at hwritten ⊢
      rcases hwritten with rfl | rfl | rfl | rfl <;> simp
  named := plain_of_mem _ (by decide)
  flagged := by
    intro flags hflags
    obtain rfl := Option.some.inj hflags
    exact ⟨plain_of_mem _ (by decide), plain_of_mem _ (by decide)⟩

/-- The names that reader and writer reshape. -/
def reshaped : List String := ["destination", "port", "enabled_vlans", "disabled_vlans"]

theorem transparent {name : String} (hname : name ∈ schema.names) (hplain : name ∉ reshaped) :
    kind.Transparent name := by
  have hpasses : ∀ name ∈ schema.names, name ∉ reshaped →
      name ∉ ["destination", "port", "vlans", "vlansEnabled", "vlansDisabled",
        "enabled_vlans", "disabled_vlans"] ∧
      name ∉ ["destination", "port", "vlans", "enabled_vlans", "disabled_vlans"] ∧
        name ≠ "name" ∧ name ≠ "enabled" ∧ name ≠ "disabled" := by
    decide
  obtain ⟨hwrite, hread, hunnamed, henabled, hdisabled⟩ := hpasses name hname hplain
  refine ⟨returns_of_mem_names name hname, fun held => get?_read_of_not_mem held hread,
    fun body => get?_write_of_not_mem hwrite, hunnamed, fun flags hflags => ?_⟩
  obtain rfl := Option.some.inj hflags
  exact ⟨henabled, hdisabled⟩

/-! ## What is read back -/

/-- An address that is sent is read back as it was sent: with a port, when its
host does not have exactly one colon; without one, when it is not split. -/
def AddressKept (sent : Attributes) : Prop :=
  ∀ address, sent.text? "destination" = some address →
    if (sent.int? "port").isSome then
      (Text.lastSegment '/' address.toList).count ':' ≠ 1
    else splitPort address = none

instance (sent : Attributes) : Decidable (AddressKept sent) :=
  inferInstanceAs (Decidable (∀ address, sent.text? "destination" = some address → _))

/-- The names under which addresses and VLANs are written and read. -/
def followed : List String :=
  ["destination", "port", "vlans", "vlansDisabled", "enabled_vlans", "disabled_vlans"]

theorem bare_of_mem_followed : ∀ name ∈ followed, kind.Bare name := by decide

section Follows

variable {sent base view : Attributes}

/-- What is shown under one of these names. -/
theorem get?_of_follows (h : kind.Follows followed sent base view) (name : String)
    (hname : name ∈ followed) :
    view.get? name =
      (((write sent).get? name).map (schema.coerced name)).or (base.get? name) :=
  h.get?_eq name hname

/-- The switch for disabled VLANs as it is left by an update. -/
theorem flag?_of_write (h : kind.Follows followed sent base view)
    (hwrite : (write sent).get? "vlansDisabled" = none) :
    view.flag? "vlansDisabled" = base.flag? "vlansDisabled" := by
  rw [Attributes.flag?, get?_of_follows h _ (by decide), hwrite, Option.map_none, Option.none_or,
    Attributes.flag?]

/-- After enabled VLANs were sent, they are read under the name that the switch
tells. -/
theorem read_of_enabled (h : kind.Follows followed sent base view) {vlans : Value}
    (hsent : sent.get? "enabled_vlans" = some vlans) :
    (read view).get? "enabled_vlans" =
        (if base.flag? "vlansDisabled" = some true then base.get? "enabled_vlans"
          else some vlans) ∧
      (base.flag? "vlansDisabled" ≠ some true → (read view).get? "disabled_vlans" =
        ((sent.get? "disabled_vlans").map (schema.coerced "disabled_vlans")).or
          (base.get? "disabled_vlans")) := by
  obtain ⟨hvlans, hswitch, henabled, hdisabled⟩ := get?_write_of_enabled h.distinct hsent
  rw [h.get?_eq_none (by decide)] at hswitch
  rw [get?_enabled_read, get?_disabled_read, flag?_of_write h hswitch,
    get?_of_follows h "vlans" (by decide), get?_of_follows h "enabled_vlans" (by decide),
    get?_of_follows h "disabled_vlans" (by decide), hvlans, henabled, hdisabled]
  refine ⟨?_, fun hoff => by rw [if_neg hoff]⟩
  rw [Option.map_some, Schema.coerced_of_undeclared rfl, Option.map_none, Option.none_or,
    Option.some_or, Option.some_or]

/-- After disabled VLANs were sent alone, they are read under their name. -/
theorem read_of_disabled (h : kind.Follows followed sent base view) {vlans : Value}
    (hnone : sent.get? "enabled_vlans" = none)
    (hsent : sent.get? "disabled_vlans" = some vlans) :
    (read view).get? "enabled_vlans" = base.get? "enabled_vlans" ∧
      (read view).get? "disabled_vlans" = some vlans := by
  obtain ⟨hvlans, hswitch, henabled, -⟩ := get?_write_of_disabled h.distinct hnone hsent
  have hflag : view.flag? "vlansDisabled" = some true := by
    rw [Attributes.flag?, get?_of_follows h _ (by decide), hswitch, Option.map_some,
      Schema.coerced_of_undeclared rfl]
    rfl
  rw [get?_enabled_read, get?_disabled_read, if_pos hflag, if_pos hflag,
    get?_of_follows h "vlans" (by decide), get?_of_follows h "enabled_vlans" (by decide),
    hvlans, henabled, Option.map_some, Schema.coerced_of_undeclared rfl, Option.map_none,
    Option.none_or, Option.some_or, Option.some_or]
  exact ⟨rfl, rfl⟩

/-- When no VLANs were sent, they are read as before. -/
theorem read_of_no_vlans (h : kind.Follows followed sent base view)
    (henabled : sent.get? "enabled_vlans" = none)
    (hdisabled : sent.get? "disabled_vlans" = none) :
    (read view).get? "enabled_vlans" = (read base).get? "enabled_vlans" ∧
      (read view).get? "disabled_vlans" = (read base).get? "disabled_vlans" := by
  -- the switch is no attribute, so it is not sent on its own
  have hkept : ∀ name ∈ ["vlans", "vlansDisabled", "enabled_vlans", "disabled_vlans"],
      view.get? name = base.get? name := by
    have hnames : ∀ name ∈ ["vlans", "vlansDisabled", "enabled_vlans", "disabled_vlans"],
        name ≠ "destination" ∧ name ≠ "port" ∧
          name ∈ ["destination", "port", "vlans", "vlansDisabled", "enabled_vlans",
            "disabled_vlans"] ∧
          (name ∉ schema.names ∨ name = "enabled_vlans" ∨ name = "disabled_vlans") := by
      decide
    intro name hname
    obtain ⟨hdestination, hport, hlisted, hunsent⟩ := hnames name hname
    have hnone : sent.get? name = none := by
      rcases hunsent with hundeclared | rfl | rfl
      · exact h.get?_eq_none hundeclared
      · exact henabled
      · exact hdisabled
    rw [get?_of_follows h name hlisted,
      get?_write_of_no_vlans henabled hdisabled hdestination hport, hnone, Option.map_none,
      Option.none_or]
  have hflag : view.flag? "vlansDisabled" = base.flag? "vlansDisabled" := by
    rw [Attributes.flag?, hkept _ (by decide), Attributes.flag?]
  rw [get?_enabled_read, get?_disabled_read, get?_enabled_read, get?_disabled_read, hflag,
    hkept _ (by decide), hkept _ (by decide), hkept _ (by decide)]
  exact ⟨rfl, rfl⟩

theorem coerced_destination (address : String) :
    schema.coerced "destination" (.text address) = .text address :=
  rfl

/-- When neither address nor port was sent, both are read as before. -/
theorem read_of_no_address (h : kind.Follows followed sent base view)
    (hdestination : sent.get? "destination" = none) :
    (read view).get? "destination" = (read base).get? "destination" ∧
      (read view).get? "port" = (read base).get? "port" := by
  -- a port alone is dropped when it is written
  have hwritten : (write sent).get? "destination" = none := by
    rw [get?_destination_write, Attributes.text?, hdestination]
    rfl
  have hsame : view.get? "destination" = base.get? "destination" ∧
      view.get? "port" = base.get? "port" := by
    rw [get?_of_follows h _ (by decide), get?_of_follows h _ (by decide), hwritten,
      get?_port_write h.distinct, Option.map_none, Option.map_none, Option.none_or,
      Option.none_or]
    exact ⟨rfl, rfl⟩
  have htext : view.text? "destination" = base.text? "destination" := by
    rw [Attributes.text?, hsame.1, Attributes.text?]
  cases hsplit : (base.text? "destination").bind splitPort with
  | some cut =>
      obtain ⟨address, port⟩ := cut
      obtain ⟨hbase, hbasePort⟩ := get?_read_of_splitPort base hsplit
      obtain ⟨hview, hviewPort⟩ := get?_read_of_splitPort view (htext ▸ hsplit)
      exact ⟨hview.trans hbase.symm, hviewPort.trans hbasePort.symm⟩
  | none =>
      obtain ⟨hbase, hbasePort⟩ := get?_read_of_splitPort_eq_none base hsplit
      obtain ⟨hview, hviewPort⟩ := get?_read_of_splitPort_eq_none view (htext ▸ hsplit)
      rw [hview, hviewPort, hbase, hbasePort]
      exact hsame

/-- What is written as the destination is shown as it is. -/
theorem text?_of_follows (h : kind.Follows followed sent base view) {shown : String}
    (hwritten : (write sent).get? "destination" = some (.text shown)) :
    view.get? "destination" = some (.text shown) ∧ view.text? "destination" = some shown := by
  have hview : view.get? "destination" = some (.text shown) := by
    rw [get?_of_follows h _ (by decide), hwritten, Option.map_some, coerced_destination,
      Option.some_or]
  exact ⟨hview, Attributes.text?_eq_some_iff.mpr hview⟩

/-- An address that was sent with a port is read back with it, unless its host
has exactly one colon. -/
theorem read_of_ported (h : kind.Follows followed sent base view) {address : String} {port : Int}
    (hsent : sent.get? "destination" = some (.text address))
    (hport : sent.get? "port" = some (.int port)) (hfits : Text.fitsInt64 port = true) :
    if (Text.lastSegment '/' address.toList).count ':' ≠ 1 then
      (read view).get? "destination" = some (.text address) ∧
        (read view).get? "port" = some (.int port)
    else (read view).get? "destination" ≠ some (.text address) := by
  obtain ⟨hview, htext⟩ := text?_of_follows h (show (write sent).get? "destination" =
      some (.text (joinPort address port)) by
    rw [get?_destination_write, Attributes.text?_eq_some_iff.mpr hsent,
      Attributes.int?_eq_some_iff.mpr hport])
  split
  · rename_i hhost
    have hsplit : (view.text? "destination").bind splitPort = some (address, port) := by
      rw [htext, Option.bind_some, splitPort_joinPort hhost hfits]
    exact get?_read_of_splitPort view hsplit
  · rename_i hhost
    have hunsplit : (view.text? "destination").bind splitPort = none := by
      rw [htext, Option.bind_some, splitPort_joinPort_of_single (Classical.not_not.mp hhost)]
    obtain ⟨hread, -⟩ := get?_read_of_splitPort_eq_none view hunsplit
    -- the joined text is read, and it is longer than the address
    intro hback
    rw [hread, hview] at hback
    have hlonger := congrArg String.toList (Value.text.inj (Option.some.inj hback))
    rw [toList_joinPort] at hlonger
    simp at hlonger

/-- An address that was sent without a port is read back, unless it ends in a
port. -/
theorem read_of_portless (h : kind.Follows followed sent base view) {address : String}
    (hsent : sent.get? "destination" = some (.text address)) (hport : sent.int? "port" = none) :
    (read view).get? "destination" = some (.text address) ↔ splitPort address = none := by
  obtain ⟨hview, htext⟩ := text?_of_follows h (show (write sent).get? "destination" =
      some (.text address) by
    rw [get?_destination_write, Attributes.text?_eq_some_iff.mpr hsent, hport, hsent])
  cases hsplit : splitPort address with
  | some cut =>
      obtain ⟨front, port⟩ := cut
      obtain ⟨hread, -⟩ := get?_read_of_splitPort view (by
        rw [htext, Option.bind_some, hsplit])
      refine iff_of_false (fun hback => ?_) nofun
      rw [hread] at hback
      exact ne_of_splitPort hsplit (Value.text.inj (Option.some.inj hback))
  | none =>
      obtain ⟨hread, -⟩ := get?_read_of_splitPort_eq_none view (by
        rw [htext, Option.bind_some, hsplit])
      exact iff_of_true (hread.trans hview) rfl

/-- An address that was sent is read back, with its port, when it is kept, and
is not read back otherwise. -/
theorem read_of_address (h : kind.Follows followed sent base view) {address : String}
    (hsent : sent.get? "destination" = some (.text address))
    (hfits : ∀ port, sent.get? "port" = some (.int port) → Text.fitsInt64 port = true) :
    (AddressKept sent ∧ (read view).get? "destination" = some (.text address) ∧
        ∀ port, sent.get? "port" = some (.int port) →
          (read view).get? "port" = some (.int port)) ∨
      (¬AddressKept sent ∧ (read view).get? "destination" ≠ some (.text address)) := by
  have hkept : AddressKept sent ↔ if (sent.int? "port").isSome then
      (Text.lastSegment '/' address.toList).count ':' ≠ 1 else splitPort address = none := by
    simp only [AddressKept, Attributes.text?_eq_some_iff.mpr hsent, Option.some.injEq,
      forall_eq']
  -- with a port the host decides, without one the whole address
  cases hint : sent.int? "port" with
  | some port =>
      rw [hint, Option.isSome_some, if_pos rfl] at hkept
      have hport := Attributes.int?_eq_some_iff.mp hint
      have hread := read_of_ported h hsent hport (hfits port hport)
      split at hread
      · rename_i hhost
        refine Or.inl ⟨hkept.mpr hhost, hread.1, fun other hother => ?_⟩
        rw [hport] at hother
        rw [hread.2, hother]
      · rename_i hhost
        exact Or.inr ⟨fun hother => hhost (hkept.mp hother), hread⟩
  | none =>
      rw [hint, Option.isSome_none, if_neg Bool.false_ne_true] at hkept
      have hread := read_of_portless h hsent hint
      by_cases hsplit : splitPort address = none
      · refine Or.inl ⟨hkept.mpr hsplit, hread.mpr hsplit, fun port hport => ?_⟩
        rw [Attributes.int?_eq_some_iff.mpr hport] at hint
        cases hint
      · exact Or.inr ⟨fun hother => hsplit (hkept.mp hother), fun hback =>
          hsplit (hread.mp hback)⟩

end Follows

/-! ## What is wanted -/

variable {params want view : Attributes} {partition : String} {target : Target}

theorem ordinary (h : kind.Accepts partition params target want) {field : Field}
    (hfield : field ∈ schema.fields) (hdestination : field.name ≠ "destination")
    (hport : field.name ≠ "port") : schema.Ordinary want field.name field :=
  Schema.ordinary_of_want nodup_names h.normal hfield
    (fields_single field hfield hdestination hport).1 (fields_consistent field hfield)

theorem enabled_ordinary (h : kind.Accepts partition params target want) :
    schema.Ordinary want "enabled_vlans" (Field.list "enabled_vlans") := by
  have hfield : Field.list "enabled_vlans" ∈ schema.fields := by decide
  exact ordinary h hfield (by decide) (by decide)

theorem disabled_ordinary (h : kind.Accepts partition params target want) :
    schema.Ordinary want "disabled_vlans" (Field.list "disabled_vlans") := by
  have hfield : Field.list "disabled_vlans" ∈ schema.fields := by decide
  exact ordinary h hfield (by decide) (by decide)

/-- A wanted destination is a text. -/
theorem text_of_destination (h : kind.Accepts partition params target want)
    {wanted : Value} (hwanted : want.get? "destination" = some wanted) :
    ∃ address, wanted = .text address := by
  obtain ⟨field, hfield, hholds⟩ := Schema.holds_of_want nodup_names h.normal hwanted
  obtain rfl := Option.some.inj (destination_declared.symm.trans hfield)
  cases wanted with
  | text address => exact ⟨address, rfl⟩
  | _ => exact hholds.elim

/-- A wanted port is a number of 16 bits. -/
theorem int_of_port (h : kind.Accepts partition params target want)
    {wanted : Value} (hwanted : want.get? "port" = some wanted) :
    ∃ port, wanted = .int port ∧ Text.fitsInt64 port = true := by
  obtain ⟨field, hfield, hholds⟩ := Schema.holds_of_want nodup_names h.normal hwanted
  obtain rfl := Option.some.inj (port_declared.symm.trans hfield)
  cases wanted with
  | int port =>
      refine ⟨port, rfl, ?_⟩
      have hbounds : 0 ≤ port ∧ port ≤ 65535 := hholds
      rw [Text.fitsInt64_iff]
      omega
  | _ => exact hholds.elim

/-- A port is wanted with a destination only. -/
theorem isSet_of_port (h : kind.Accepts partition params target want)
    (hport : want.contains "port" = true) : want.isSet "destination" = true := by
  have hvalid := h.valid
  simp only [kind, validate] at hvalid
  split at hvalid
  · cases hvalid
  · rename_i hset
    simpa [hport] using hset

/-- Both names of the address are quiet when the view shows what is wanted. -/
theorem quiet_address_iff (h : kind.Accepts partition params target want) :
    (schema.changesAt want view "destination" = .ok [] ∧
        schema.changesAt want view "port" = .ok []) ↔
      (∀ wanted, want.get? "destination" = some wanted →
          view.get? "destination" = some wanted) ∧
        ∀ wanted, want.get? "port" = some wanted → view.get? "port" = some wanted := by
  refine Schema.changesAt_pair_shown_iff rfl rfl fun name hname wanted hwanted => ?_
  simp only [List.mem_cons, List.not_mem_nil, or_false] at hname
  rcases hname with rfl | rfl
  · obtain ⟨address, rfl⟩ := text_of_destination h hwanted
    rfl
  · obtain ⟨port, rfl, -⟩ := int_of_port h hwanted
    rfl

/-! ## Views of both passes -/

theorem switched : kind.Switched ⟨"enabled", "disabled", true⟩ where
  flags_eq := rfl
  unobserved := rfl
  onCreate := rfl
  differ := by decide
  untouched := by
    have hpasses : ∀ name ∈ ["enabled", "disabled"],
        name ∉ ["destination", "port", "vlans", "vlansEnabled", "vlansDisabled",
          "enabled_vlans", "disabled_vlans"] ∧
        name ∉ ["destination", "port", "vlans", "enabled_vlans", "disabled_vlans"] ∧
          name ∉ schema.names ∧ name ≠ "name" := by
      decide
    intro name hname
    obtain ⟨hwrite, hread, hundeclared, hunnamed⟩ := hpasses name hname
    exact ⟨hundeclared, hunnamed, fun held => get?_read_of_not_mem held hread,
      fun body => get?_write_of_not_mem hwrite⟩

theorem immediate : kind.Immediate where
  jobless := fun _ => rfl
  flagged := by
    intro flags hflags
    obtain rfl := Option.some.inj hflags
    rfl
  writesNothing := rfl
  kept := by
    intro hsingleton
    cases hsingleton

end Virtual
end Catalog
end DesiredState
