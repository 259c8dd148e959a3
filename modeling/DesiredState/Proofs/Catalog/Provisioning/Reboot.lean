import DesiredState.Device.Scripted
import DesiredState.Proofs.Catalog.Provisioning.Level
import DesiredState.Proofs.Pass.Success
import DesiredState.Proofs.Pass.Termination
import DesiredState.Proofs.Wait.Replay

/-!
# Whether a provisioned module needs a reboot

After a level is written the device is polled until it has settled, at most
`attempts` times, and the report says whether it asked for a reboot.  All of this
can be said of what the polls come back with, on any device:

* `pollsMade`, `Settles` — how many polls there are, and whether one of them finds
  the device settled;
* `AsksReboot` — whether the last value that they carry asks for a reboot;
* `Faultless` — none of them fails, and none finds that settling has failed.

The report goes by the last value alone.  A wait that has run out hands that value on
as one that has settled does, so a device that still asks for a reboot when the polls
are used up is reported as one that has settled so.  `reboot_told_iff` says that the
report tells the truth in all other cases, and not in that one.
-/

namespace DesiredState
namespace Catalog
namespace Provisioning

open Conversation Pass Wait

/-- How many polls the device is given to settle. -/
def attempts : Nat := 24

variable {replies : Nat → Sighting}

/-- How many polls are made: all, or up to the first one that finds the device settled. -/
def pollsMade (replies : Nat → Sighting) : Nat :=
  ((List.range' 1 attempts).find? fun index => (replies index).isSuccess).getD attempts

/-- One of the polls finds the device settled. -/
def Settles (replies : Nat → Sighting) : Prop :=
  ∃ index ∈ List.range' 1 attempts, (replies index).isSuccess = true

instance (replies : Nat → Sighting) : Decidable (Settles replies) :=
  inferInstanceAs (Decidable (∃ index ∈ List.range' 1 attempts, _))

/-- The last value that was observed asks for a reboot. -/
def AsksReboot (replies : Nat → Sighting) : Prop :=
  ((lastCarried replies (pollsMade replies)).bind fun value => value.text? "value") =
    some "reboot"

instance (replies : Nat → Sighting) : Decidable (AsksReboot replies) :=
  inferInstanceAs (Decidable (_ = _))

/-- No poll that is made fails, and none finds that settling has failed. -/
def Faultless (replies : Nat → Sighting) : Prop :=
  ∀ index ∈ List.range' 1 (pollsMade replies), settle.wait.bears (replies index) = true

instance (replies : Nat → Sighting) : Decidable (Faultless replies) :=
  inferInstanceAs (Decidable (∀ index ∈ List.range' 1 (pollsMade replies), _))

/-- A report says whether a reboot is required: it is if the device has settled and the
last value asks for it, and it is not if the polls were used up. -/
structure TellsTruth (report : Report) (replies : Nat → Sighting) : Prop where
  required : report.attributes.flag? "reboot_required" = some true ↔
    Settles replies ∧ AsksReboot replies
  spent : ¬Settles replies → report.attributes.flag? "reboot_required" = some false

/-! ## Settling -/

/-- Settling tolerates no outage, so of what it bears all but a success is a device
that is still settling. -/
theorem pending_of_bears {sighting : Sighting} (hborne : settle.wait.bears sighting = true)
    (hunsettled : sighting.isSuccess = false) : ∃ value, sighting = .ok ⟨.pending, value⟩ := by
  match sighting with
  | .ok ⟨.pending, value⟩ => exact ⟨value, rfl⟩
  | .ok ⟨.completed, value⟩ => cases hunsettled
  | .ok ⟨.failed detail, value⟩ => cases hborne
  | .error failure =>
      have hrefused : settle.wait.tolerates failure = false := Bool.and_false _
      rw [bears, hrefused] at hborne
      cases hborne

/-- Where the polls are used up, none of them has found the device settled. -/
theorem pollsMade_of_unsettled (h : ¬Settles replies) :
    pollsMade replies = attempts ∧
      ∀ index, 0 < index → index ≤ attempts → (replies index).isSuccess = false := by
  have hnone : ∀ index, 0 < index → index ≤ attempts → (replies index).isSuccess = false := by
    intro index hmade hgiven
    refine Bool.eq_false_iff.mpr fun hsuccess => h ⟨index, ?_, hsuccess⟩
    rw [List.mem_range'_1]
    omega
  refine ⟨?_, hnone⟩
  rw [pollsMade, List.find?_range'_eq_none.mpr]
  · rfl
  · intro index hmade hgiven
    rw [hnone index hmade (by omega)]
    rfl

/-- Where the device settles, the last poll is the first one that finds it settled. -/
theorem pollsMade_of_settles (h : Settles replies) :
    0 < pollsMade replies ∧ pollsMade replies ≤ attempts ∧
      (replies (pollsMade replies)).isSuccess = true ∧
        ∀ index, 0 < index → index < pollsMade replies → (replies index).isSuccess = false := by
  unfold pollsMade
  cases hfound : (List.range' 1 attempts).find? fun index => (replies index).isSuccess with
  | none =>
      obtain ⟨index, hindex, hsuccess⟩ := h
      exact absurd hsuccess (List.find?_eq_none.mp hfound index hindex)
  | some index =>
      obtain ⟨hsuccess, hindex, hearlier⟩ := List.find?_range'_eq_some.mp hfound
      obtain ⟨hmade, hgiven⟩ := List.mem_range'_1.mp hindex
      refine ⟨hmade, ?_, hsuccess, fun earlier hlate hearly => ?_⟩
      · rw [Option.getD_some]
        omega
      · simpa using hearlier earlier hlate hearly

/-- Polls without a fault before the device is found settled find it settling. -/
theorem not_settled_of_faultless (h : Faultless replies) {index : Nat}
    (hindex : index ≤ pollsMade replies)
    (hunsettled : 0 < index → (replies index).isSuccess = false) (result : Except Fault Outcome) :
    ¬settle.wait.Settled replies index result := by
  refine not_settled_of_pending fun hmade => pending_of_bears (h index ?_) (hunsettled hmade)
  rw [List.mem_range'_1]
  omega

section Settling

variable {σ : Type} {device : Device σ} {state : σ} {operation : Operation} {patience : Nat}

/-- Watching the device settle comes to the last value that was observed, whether the
device has settled or the polls are used up. -/
theorem track_settle (hmode : operation.mode = .watch) (hpatience : attempts ≤ patience)
    (h : Faultless (device.sightings operation.job operation.key.path state)) :
    ∃ outcome, ((settle.wait.track patience operation).run device state).result =
        some (.ok outcome) ∧
      outcome.value = lastCarried (device.sightings operation.job operation.key.path state)
        (pollsMade (device.sightings operation.job operation.key.path state)) := by
  rw [(settle.wait.track_replayed device state (.ok "") hmode patience).result]
  generalize device.sightings operation.job operation.key.path state = replies at h ⊢
  have haccepted : settle.wait.idFor operation (.ok "") = some operation.key.path := by
    unfold idFor
    rw [hmode]
  have hallowance : settle.wait.allowance = (attempts : Nat) := rfl
  by_cases hsettles : Settles replies
  · obtain ⟨hmade, hgiven, hsuccess, hearlier⟩ := pollsMade_of_settles hsettles
    have hroom : min settle.wait.confirmations (pollsMade replies) < 2 ^ 32 :=
      Nat.lt_of_le_of_lt (Nat.min_le_left _ _) (by decide)
    refine ⟨_, (run_track_of_first haccepted (.completed hmade fun other hlate hearly => ?_)
      (fun index hindex => ?_) hroom ?_ (by omega)).1, rfl⟩
    · obtain rfl : other = pollsMade replies := by
        change pollsMade replies < other + 1 at hlate
        omega
      exact hsuccess
    · exact not_settled_of_faultless h hindex.le fun hlate => hearlier index hlate hindex
    · rw [hallowance]
      exact_mod_cast hgiven
  · obtain ⟨hmade, hnone⟩ := pollsMade_of_unsettled hsettles
    rw [hmade]
    refine ⟨_, (run_track_of_spent haccepted hallowance (by decide) (fun index hindex => ?_)
      hpatience).1, rfl⟩
    exact not_settled_of_faultless h (hindex.trans hmade.ge) fun hlate => hnone index hlate hindex

end Settling

/-! ## Passes -/

/-- The report says whether the last value that settling came to asks for a reboot. -/
theorem flag?_rebootReport (attributes : Attributes) (outcome : Outcome) :
    (attributes.update (rebootReport outcome)).flag? "reboot_required" =
      some ((outcome.value.bind fun value => value.text? "value") == some "reboot") := by
  have hdistinct : (rebootReport outcome).Distinct := Attributes.distinct_empty.insert _ _
  rw [Attributes.flag?, Attributes.get?_update _ hdistinct, rebootReport,
    Attributes.get?_insert_self, Option.some_or, Outcome.observed?, Option.bind_assoc]
  rfl

/-- A report that goes by the last value alone tells the truth unless that value asks for
a reboot and the polls were used up. -/
theorem tellsTruth_iff {report : Report}
    (h : report.attributes.flag? "reboot_required" = some (decide (AsksReboot replies))) :
    TellsTruth report replies ↔ ¬(¬Settles replies ∧ AsksReboot replies) := by
  constructor
  · rintro htruth ⟨hspent, hasks⟩
    rw [htruth.spent hspent] at h
    simp [hasks] at h
  · intro hcase
    refine ⟨?_, fun hspent => ?_⟩
    · rw [h, Option.some.injEq, decide_eq_true_iff]
      refine ⟨fun hasks => ⟨?_, hasks⟩, And.right⟩
      by_contra hspent
      exact hcase ⟨hspent, hasks⟩
    · rw [h, Option.some.injEq, decide_eq_false_iff_not]
      exact fun hasks => hcase ⟨hspent, hasks⟩

section Writing

variable {σ : Type} {device : Device σ} {before seen updated : σ} {pass : Pass}
  {params want raw changes : Attributes} (hkind : pass.kind = kind)
  (htarget : pass.target = .present) (hlive : pass.checkOnly = false)
  (hwant : kind.want pass.key.partition params .present = .ok want)
  (hread : device.answer (.read pass.key) before = (.ok raw, seen))
  (hchanges : kind.changes want (kind.read raw) = .ok changes)
  (hwrites : changes.isEmpty = false)
  (hupdate : device.answer (.update pass.key (kind.write changes)) seen = (.ok (), updated))

include hkind htarget hlive hwant hread hchanges hwrites hupdate

/-- A pass that writes a level reports it with what settling comes to. -/
theorem result_of_settled {outcome : Outcome}
    (houtcome : ((settle.wait.track pass.patience
      (settle.operation pass.key (kind.write want))).run device updated).result =
        some (.ok outcome)) :
    ((pass.reconcile params).run device before).result =
      some (.ok ⟨true, (Report.attributesOf want kind.reportable changes).update
        (rebootReport outcome)⟩) := by
  have hflagless : pass.kind.flags = none := by rw [hkind]; rfl
  have hreconcile : pass.reconcile params = pass.proceed want true := by
    rw [reconcile, hkind, htarget, hwant]
    rfl
  have hconverge : pass.converge want (kind.read raw) changes =
      require false (.update pass.key (kind.write changes)) fun _ =>
        pass.followUp want (kind.observe (kind.read raw) want) true
          ⟨true, Report.attributesOf want kind.reportable changes⟩ := by
    unfold converge
    dsimp only
    rw [flagsOfUpdate_of_flagless hflagless, hwrites, hlive, hkind]
    rfl
  rw [hreconcile, proceed, htarget, if_neg (by decide), if_pos rfl, update,
    result_require hread, hkind]
  change ((obtain (kind.changes want (kind.read raw)) fun changes =>
    pass.converge want (kind.read raw) changes).run device seen).result = _
  rw [hchanges, obtain, hconverge, result_require hupdate, followUp, hkind, htarget]
  change ((pass.runFollowUps want _ true [settle] _).run device updated).result = _
  rw [runFollowUps, if_pos (show settle.isDue _ true = true from rfl), hkind,
    result_bind _ houtcome]
  rfl

/-- On a device that takes the level and whose polls are without a fault, the pass
succeeds and reports what the last value that was observed asks for. -/
theorem reboot_told (hpatience : attempts ≤ pass.patience)
    (hfaultless : Faultless (device.sightings .settleProvisioning pass.key.path updated)) :
    ∃ report, ((pass.reconcile params).run device before).result = some (.ok report) ∧
      report.attributes.flag? "reboot_required" =
        some (decide (AsksReboot
          (device.sightings .settleProvisioning pass.key.path updated))) := by
  have hmode : (settle.operation pass.key (kind.write want)).mode = .watch := rfl
  obtain ⟨outcome, houtcome, hlast⟩ := track_settle hmode hpatience hfaultless
  refine ⟨_, result_of_settled hkind htarget hlive hwant hread hchanges hwrites hupdate
    houtcome, ?_⟩
  rw [flag?_rebootReport, hlast, beq_eq_decide]
  rfl

/-- On such a device the report tells the truth about the reboot exactly if it is not so
that the polls were used up and the last value that was observed asks for one. -/
theorem reboot_told_iff (hpatience : attempts ≤ pass.patience)
    (hfaultless : Faultless (device.sightings .settleProvisioning pass.key.path updated)) :
    ∃ report, ((pass.reconcile params).run device before).result = some (.ok report) ∧
      (TellsTruth report (device.sightings .settleProvisioning pass.key.path updated) ↔
        ¬(¬Settles (device.sightings .settleProvisioning pass.key.path updated) ∧
          AsksReboot (device.sightings .settleProvisioning pass.key.path updated))) := by
  obtain ⟨report, hok, hflag⟩ := reboot_told hkind htarget hlive hwant hread hchanges hwrites
    hupdate hpatience hfaultless
  exact ⟨report, hok, tellsTruth_iff hflag⟩

end Writing

/-- A pass that is patient enough for all polls. -/
def patientPass : Pass :=
  { asmPass with patience := attempts }

/-- The value with which a device asks for something. -/
def asking (action : String) : Option Attributes := some ⟨[("value", .text action)]⟩

/-- A device on which the module has no level, with replies to the polls. -/
def settlingScript (replies : List Sighting) : Device.Script where
  stored := ⟨[("sys/provision:/Common/asm", asked "none")]⟩
  polls := replies.map fun reply => (.settleProvisioning, reply)

/-- The device after it was asked for the entry and has taken a level. -/
def updatedScript (replies : List Sighting) (level : String) : Device.Script :=
  Device.scripted.after [.read patientPass.key, .update patientPass.key (asked level)]
    (settlingScript replies)

/-- The device is still settling at the first poll, and then asks for a reboot. -/
def rebooting : List Sighting :=
  [.ok ⟨.pending, asking "none"⟩, .ok ⟨.completed, asking "reboot"⟩]

/-- The device asks for a reboot while it is settling, and does not settle in time. -/
def stuck : List Sighting :=
  List.replicate attempts (.ok ⟨.pending, asking "reboot"⟩)

/-- The device takes a level. -/
theorem script_answers (replies : List Sighting) (level : String) :
    Device.scripted.answer (.read patientPass.key) (settlingScript replies) =
        (.ok (asked "none"), (settlingScript replies).recorded (.read patientPass.key)) ∧
      Device.scripted.answer (.update patientPass.key (kind.write (asked level)))
          ((settlingScript replies).recorded (.read patientPass.key)) =
        (.ok (), updatedScript replies level) :=
  ⟨rfl, rfl⟩

/-- What the device replies to the polls after it has taken a level. -/
abbrev scriptSightings (replies : List Sighting) (level : String) : Nat → Sighting :=
  Device.scripted.sightings .settleProvisioning patientPass.key.path
    (updatedScript replies level)

/-- The reboot that is asked for with the last poll is told. -/
theorem rebooting_told :
    ∃ report, ((patientPass.reconcile (asked "dedicated")).run Device.scripted
        (settlingScript rebooting)).result = some (.ok report) ∧
      TellsTruth report (scriptSightings rebooting "dedicated") := by
  have hkind : patientPass.kind = kind := rfl
  have hwant : kind.want "Common" (asked "dedicated") .present = .ok (asked "dedicated") := rfl
  have hchanges : kind.changes (asked "dedicated") (kind.read (asked "none")) =
      .ok (asked "dedicated") := rfl
  obtain ⟨hread, hupdate⟩ := script_answers rebooting "dedicated"
  have hfaultless : Faultless (scriptSightings rebooting "dedicated") := by decide +kernel
  have hsettles : Settles (scriptSightings rebooting "dedicated") := by decide +kernel
  obtain ⟨report, hok, htruth⟩ := reboot_told_iff hkind rfl rfl hwant hread hchanges rfl hupdate
    (Nat.le_refl _) hfaultless
  exact ⟨report, hok, htruth.mpr fun hspent => hspent.1 hsettles⟩

/-- The device has not settled, and still a reboot is reported as required. -/
theorem stuck_told_as_settled :
    Faultless (scriptSightings stuck "nominal") ∧ ¬Settles (scriptSightings stuck "nominal") ∧
      ∃ report, ((patientPass.reconcile (asked "nominal")).run Device.scripted
          (settlingScript stuck)).result = some (.ok report) ∧
        report.attributes.flag? "reboot_required" = some true := by
  have hkind : patientPass.kind = kind := rfl
  have hwant : kind.want "Common" (asked "nominal") .present = .ok (asked "nominal") := rfl
  have hchanges : kind.changes (asked "nominal") (kind.read (asked "none")) =
      .ok (asked "nominal") := rfl
  obtain ⟨hread, hupdate⟩ := script_answers stuck "nominal"
  have hfaultless : Faultless (scriptSightings stuck "nominal") := by decide +kernel
  have hspent : ¬Settles (scriptSightings stuck "nominal") := by decide +kernel
  have hasks : AsksReboot (scriptSightings stuck "nominal") := by decide +kernel
  obtain ⟨report, hok, hflag⟩ := reboot_told hkind rfl rfl hwant hread hchanges rfl hupdate
    (Nat.le_refl _) hfaultless
  rw [decide_eq_true hasks] at hflag
  exact ⟨hfaultless, hspent, report, hok, hflag⟩

end Provisioning
end Catalog
end DesiredState
