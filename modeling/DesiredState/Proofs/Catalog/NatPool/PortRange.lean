import DesiredState.Proofs.Catalog.NatPool.Repetition
import DesiredState.Proofs.Pass.Bodies
import DesiredState.Proofs.Pass.Jobs

/-!
# The port range that is sent

The two ends of a port range are refused where both are wanted and cross.  An end
that is not wanted is filled in when the other one is sent: with the end that is
shown of the stored pool, or else with its default.  Nobody compares the two
after that, so a range may be sent upside down.

What is sent is told here for creations and updates at once, since a creation
fills in the ends as an update of an empty pool would (`get?_read_empty`).
`range_inOrder_iff` says of which work orders every range that they send is in
order; of a stored pool nothing is asked but that its numbers have 64 bits.
-/

namespace DesiredState
namespace Catalog
namespace NatPool

/-- The text of two port numbers of which the first is not the greater one. -/
def InOrder (range : Value) : Prop :=
  ∃ low high : Int, 0 ≤ low ∧ low ≤ high ∧ high ≤ 65535 ∧ range = .text (joinRange low high)

/-- An end of the range as it is filled in: as it is wanted, or else as it is shown,
or else a default. -/
def filledEnd (want shown : Attributes) (name : String) (missing : Int) : Int :=
  ((want.int? name).or (shown.int? name)).getD missing

/-- The low end as it is filled in over a stored pool. -/
def lowEnd (want raw : Attributes) : Int :=
  filledEnd want (kind.read raw) "port_range_low" defaultLow

/-- The high end as it is filled in over a stored pool. -/
def highEnd (want raw : Attributes) : Int :=
  filledEnd want (kind.read raw) "port_range_high" defaultHigh

/-- An end of the range is wanted other than the stored pool shows it. -/
def moves (want raw : Attributes) : Bool :=
  Schema.differs want (kind.read raw) "port_range_low" ||
    Schema.differs want (kind.read raw) "port_range_high"

/-- If the range moves, its ends as they are filled in are ports that do not cross. -/
def EndsInOrder (want raw : Attributes) : Prop :=
  moves want raw = true →
    0 ≤ lowEnd want raw ∧ lowEnd want raw ≤ highEnd want raw ∧ highEnd want raw ≤ 65535

instance (want raw : Attributes) : Decidable (EndsInOrder want raw) :=
  inferInstanceAs (Decidable (_ → _ ∧ _ ∧ _))

/-- The ends of the range that a body is sent with are in order, if it has one. -/
def SendsInOrder (body : Attributes) : Prop :=
  ∀ range, body.get? rangeWire = some range → InOrder range

variable {pass : Pass} {params want raw sent created changes body : Attributes}
  {partition : String} {target : Target} {low high : Int}

/-! ## Texts of ranges -/

/-- Two ends can be read off the text of a range that is in order, so it is in order
only for ends that are. -/
theorem inOrder_joinRange_iff (hlow : Text.fitsInt64 low = true)
    (hhigh : Text.fitsInt64 high = true) :
    InOrder (.text (joinRange low high)) ↔ 0 ≤ low ∧ low ≤ high ∧ high ≤ 65535 := by
  constructor
  · rintro ⟨front, back, hfront, hordered, hback, hsame⟩
    have hsplit : splitRange (joinRange low high) = some (front, back) := by
      rw [Value.text.inj hsame]
      exact splitRange_joinRange hfront (fits_of_port ⟨hfront, Int.le_trans hordered hback⟩)
        (fits_of_port ⟨Int.le_trans hfront hordered, hback⟩)
    have hsign : 0 ≤ low := by
      by_contra hneg
      rw [splitRange_joinRange_of_neg (Int.not_le.mp hneg)] at hsplit
      cases hsplit
    rw [splitRange_joinRange hsign hlow hhigh] at hsplit
    obtain ⟨rfl, rfl⟩ := Prod.mk.inj (Option.some.inj hsplit)
    exact ⟨hfront, hordered, hback⟩
  · rintro ⟨hsign, hordered, hbound⟩
    exact ⟨low, high, hsign, hordered, hbound, rfl⟩

/-! ## Ends that are sent -/

section Sent

variable (haccepts : kind.Accepts partition params target want)
  (hsent : ∀ name, name = "port_range_low" ∨ name = "port_range_high" →
    sent.get? name =
      if moves want raw then (want.get? name).or ((kind.read raw).get? name) else none)

include hsent in
theorem get?_sent_of_moves (hmoves : moves want raw = true) (name : String)
    (hname : name = "port_range_low" ∨ name = "port_range_high") :
    sent.get? name = (want.get? name).or ((kind.read raw).get? name) := by
  rw [hsent name hname, if_pos hmoves]

include haccepts hsent

/-- Where the range moves, an end is sent as it is filled in. -/
theorem getD_int?_sent (hmoves : moves want raw = true) {name : String}
    (hname : name = "port_range_low" ∨ name = "port_range_high") (missing : Int) :
    (sent.int? name).getD missing = filledEnd want (kind.read raw) name missing := by
  rw [filledEnd, Attributes.int?, get?_sent_of_moves hsent hmoves name hname]
  cases hwanted : want.get? name with
  | none => rw [Option.none_or, Attributes.int?, hwanted, Option.bind_none, Option.none_or]; rfl
  | some wanted =>
      obtain ⟨port, rfl, -⟩ := int_of_end haccepts hname hwanted
      rw [Attributes.int?_eq_some_iff.mpr hwanted]
      rfl

/-- A range is sent exactly where it moves, with its ends as they are filled in. -/
theorem range?_sent :
    range? sent =
      if moves want raw then some (joinRange (lowEnd want raw) (highEnd want raw))
      else none := by
  by_cases hmoves : moves want raw = true
  · have hfilled := get?_sent_of_moves hsent hmoves
    rw [if_pos hmoves, range?_eq_some (ends_of_differs haccepts hfilled hmoves),
      getD_int?_sent haccepts hsent hmoves (.inl rfl),
      getD_int?_sent haccepts hsent hmoves (.inr rfl)]
    rfl
  · rw [if_neg hmoves, range?, Attributes.int?, hsent _ (.inl rfl), Attributes.int?,
      hsent _ (.inr rfl), if_neg hmoves, if_neg hmoves]
    rfl

/-- A body that is written for such ends is in order exactly when they are. -/
theorem sendsInOrder_iff (hraw : raw.WellFormed)
    (hbody : body.get? rangeWire = (range? sent).map Value.text) :
    SendsInOrder body ↔ EndsInOrder want raw := by
  unfold SendsInOrder EndsInOrder
  rw [hbody, range?_sent haccepts hsent]
  by_cases hmoves : moves want raw = true
  · have hfits : ∀ name, name = "port_range_low" ∨ name = "port_range_high" →
        ∀ missing, Text.fitsInt64 missing = true →
          Text.fitsInt64 (filledEnd want (kind.read raw) name missing) = true := by
      intro name hname missing hmissing
      rw [← getD_int?_sent haccepts hsent hmoves hname]
      cases hint : sent.int? name with
      | none => exact hmissing
      | some port =>
          exact fits_of_sent_end haccepts (get?_sent_of_moves hsent hmoves) hraw hname
            (Attributes.int?_eq_some_iff.mp hint)
    simp only [if_pos hmoves, Option.map_some, Option.some.injEq, forall_eq',
      forall_prop_of_true hmoves]
    exact inOrder_joinRange_iff (hfits _ (.inl rfl) defaultLow (by decide))
      (hfits _ (.inr rfl) defaultHigh (by decide))
  · simp [hmoves]

end Sent

/-! ## Bodies -/

/-- The range of a written body. -/
theorem get?_range_write (hdistinct : sent.Distinct)
    (hnames : ∀ name ∈ sent.names, name ∈ schema.names) :
    (kind.write sent).get? rangeWire = (range? sent).map Value.text := by
  have hplain : kind.schema.Plain rangeWire := by decide
  obtain ⟨hwritten, hreturns⟩ := faithful.writes sent hdistinct hnames
  have hcarried := (Schema.carries_toWire hwritten hreturns).get?_toWire rangeWire hplain.returns
  have hunsent : sent.get? rangeWire = none := by
    rw [Attributes.get?_eq_none_iff]
    intro hmem
    exact absurd (hnames rangeWire hmem) (by decide)
  rw [hplain.toWire_eq] at hcarried
  exact hcarried.trans (get?_write_of_range hdistinct hunsent).1

/-- An update sends the range in order exactly when its ends are. -/
theorem updateBody_inOrder_iff (hkind : pass.kind = kind)
    (haccepts : kind.Accepts partition params target want) (hraw : raw.WellFormed)
    (hchanges : kind.changes want (kind.read raw) = .ok changes) :
    SendsInOrder (pass.updateBody want (kind.read raw) changes) ↔ EndsInOrder want raw := by
  have hpaired : kind.schema.comparison "port_range_low" = .paired "port_range_high" := rfl
  refine sendsInOrder_iff haccepts
    (faithful.get?_changes_of_pair hchanges (by decide) hpaired) hraw ?_
  have hflagless : pass.kind.flags = none := by
    rw [hkind]
    rfl
  rw [Pass.updateBody, Pass.flagsOfUpdate_of_flagless hflagless, hkind]
  exact get?_range_write (Schema.distinct_of_changes hchanges)
    (faithful.names_of_changes hchanges)

/-- Of an empty pool no end is shown. -/
theorem get?_read_empty {name : String}
    (hname : name = "port_range_low" ∨ name = "port_range_high") :
    (kind.read .empty).get? name = none := by
  rcases hname with rfl | rfl
  · rfl
  · rfl

/-- A creation fills in the ends as an update of an empty pool does. -/
theorem get?_end_created_eq (haccepts : kind.Accepts partition params target want)
    (hcreated : kind.creation want = .ok created) {name : String}
    (hname : name = "port_range_low" ∨ name = "port_range_high") :
    created.get? name =
      if moves want .empty then (want.get? name).or ((kind.read .empty).get? name)
      else none := by
  rw [get?_end_created haccepts hcreated hname, get?_read_empty hname, Option.or_none]
  split
  · rfl
  · rename_i hstill
    cases hwanted : want.get? name with
    | none => rfl
    | some wanted =>
        -- what is wanted differs from an end that is not shown
        have hdiffers : Schema.differs want (kind.read .empty) name = true := by
          rw [Schema.differs, hwanted, get?_read_empty hname]
          rfl
        refine absurd (Bool.or_eq_true_iff.mpr ?_) hstill
        rcases hname with rfl | rfl
        · exact .inl hdiffers
        · exact .inr hdiffers

/-- A creation sends the range in order exactly when its ends are, as they are filled
in over an empty pool. -/
theorem creationBody_inOrder_iff (hkind : pass.kind = kind)
    (haccepts : kind.Accepts partition params target want)
    (hcreated : kind.creation want = .ok created) :
    SendsInOrder (pass.creationBody created) ↔ EndsInOrder want .empty := by
  have hempty : Attributes.empty.WellFormed := ⟨Attributes.distinct_empty, nofun⟩
  refine sendsInOrder_iff haccepts
    (fun name hname => get?_end_created_eq haccepts hcreated hname) hempty ?_
  have hflags : pass.flagsCreated = .empty := by
    rw [Pass.flagsCreated, hkind]
    rfl
  rw [Pass.creationBody_eq, hflags, hkind]
  refine (Attributes.get?_update _ (Schema.distinct_toWire _) rangeWire).trans ?_
  rw [Attributes.get?_insert_of_ne _ (by decide), Attributes.get?_empty, Option.or_none]
  exact get?_range_write (ResourceKind.distinct_of_creation hcreated)
    (ResourceKind.names_of_creation hcreated)

/-! ## Work orders -/

variable {order : WorkOrder} {patience : Nat} {shelf : Device.Shelf}

/-- Every range that a work order for a NAT pool sends is in order exactly when the
ends are that its pass fills in: those of its creation over an empty pool, those
of its update over the stored one. -/
theorem range_inOrder_iff (hentry : Entry.ofName order.entry = .ok .natPool)
    (hformed : shelf.snapshot.WellFormed) :
    (∀ body ∈ (Plan.run order patience shelf).bodies, SendsInOrder body) ↔
      (order.checkOnly = false → Plan.Lasts order patience shelf.snapshot
        (fun want => EndsInOrder want .empty) fun want raw _ => EndsInOrder want raw) := by
  refine Plan.bodies_iff_lasts (fun _ => Plan.kind_of_passOf hentry rfl) immediate rfl rfl
    nofun ?_ ?_
  · intro pass want hkind haccepts
    obtain ⟨created, hcreated⟩ : ∃ created, kind.creation want = .ok created := ⟨_, rfl⟩
    constructor
    · intro h
      exact (creationBody_inOrder_iff hkind haccepts hcreated).mp (h created hcreated)
    · intro h other hother
      exact (creationBody_inOrder_iff hkind haccepts hother).mpr h
  · intro pass want raw changes hkind haccepts hstored hchanges
    exact updateBody_inOrder_iff hkind haccepts (hformed.get? hstored) hchanges

/-- Both ends move as they are wanted, and the low one is filled in from the stored
range. -/
theorem retimed_inOrder :
    stickyShelf.snapshot.WellFormed ∧ Entry.ofName retimed.entry = .ok .natPool ∧
      ((Plan.run retimed 0 stickyShelf).bodies.map fun body => body.text? rangeWire) =
        [some "2000-4000"] ∧
      ∀ body ∈ (Plan.run retimed 0 stickyShelf).bodies, SendsInOrder body :=
  ⟨wellFormed_stickyShelf, rfl, by decide +kernel,
    (range_inOrder_iff rfl wellFormed_stickyShelf).mpr (by decide +kernel)⟩

/-- Asks for a low end above the stored high one. -/
def raised : WorkOrder :=
  { retimed with params := ⟨[("port_range_low", .int 4000)]⟩ }

/-- The low end that is wanted is sent with the high end that is stored below it. -/
theorem raised_crosses :
    stickyShelf.snapshot.WellFormed ∧ Entry.ofName raised.entry = .ok .natPool ∧
      (∃ stored ∈ stickyShelf.snapshot.get? "ltm/lsn-pool:/Common/lsn1",
        stored.text? rangeWire = some (joinRange 2000 3000)) ∧
      ¬∀ body ∈ (Plan.run raised 0 stickyShelf).bodies, SendsInOrder body := by
  refine ⟨wellFormed_stickyShelf, rfl, by decide +kernel, fun hall => ?_⟩
  obtain ⟨body, hbody, hrange⟩ : ∃ body ∈ (Plan.run raised 0 stickyShelf).bodies,
      body.text? rangeWire = some (joinRange 4000 3000) := by decide +kernel
  have hinOrder := hall body hbody _ (Attributes.text?_eq_some_iff.mp hrange)
  rw [inOrder_joinRange_iff (by decide) (by decide)] at hinOrder
  omega

end NatPool
end Catalog
end DesiredState
