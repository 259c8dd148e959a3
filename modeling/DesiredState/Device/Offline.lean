import DesiredState.Catalog.Archive
import DesiredState.Catalog.Volume
import DesiredState.Device.Scripted

/-!
# The offline device

A device that is nothing but a snapshot.  Jobs have their effect when they are
submitted and are found completed at the first poll: an applied policy becomes
active, an installed volume reports that it is complete, and a volume whose
reboot is awaited becomes active.  Conditions that are watched are polled by
the path of a resource, jobs by an id that was given out.
-/

namespace DesiredState
namespace Device

/-- The key under which the configuration daemon shows its status. -/
def daemonStateKey : String := "sys/mcp-state:/Common/mcp-state"

/-- The key of the variable that tells how provisioning settles. -/
def settleActionKey : String := "sys/db:/Common/provision.action"

/-- The state of an offline device. -/
structure Shelf where
  snapshot : Snapshot
  /-- The ids of submitted jobs. -/
  issued : List String := []
deriving Inhabited

namespace Shelf

/-- What an installed volume takes over from the payload of its job. -/
def installed (payload volume : Attributes) : Attributes :=
  let complete := volume.insert "status" (.text "complete")
  ["version", "build"].foldl
    (fun set name =>
      match payload.get? name with
      | some value => set.insert name value
      | none => set)
    complete

/-- The effect of a submitted job. -/
def applyJob (snapshot : Snapshot) (job : Job) (key : String) (payload : Attributes) :
    Snapshot :=
  match job with
  | .applyPolicy => snapshot.modify key fun policy => policy.insert "active" (.flag true)
  | .installSoftware => snapshot.modify key (installed payload)
  | _ => snapshot

/-- What a poll observes, and what it does to the resources. -/
def observe (snapshot : Snapshot) (job : Job) (id : String) : Observation × Snapshot :=
  match job with
  | .configReload =>
      match (snapshot.get? daemonStateKey).bind fun state => state.text? "output" with
      | some output => (⟨Catalog.Archive.reloadProgress output, none⟩, snapshot)
      | none => (⟨.completed, none⟩, snapshot)
  | .settleProvisioning => (⟨.completed, snapshot.get? settleActionKey⟩, snapshot)
  | .awaitReboot =>
      let volume := Catalog.Volume.kindName ++ ":" ++ id
      (⟨.completed, none⟩,
        snapshot.modify volume fun held => held.insert "active" (.flag true))
  | _ => (⟨.completed, none⟩, snapshot)

/-- The id of the next submitted job. -/
def nextId (shelf : Shelf) (job : Job) : String :=
  job.name ++ "-" ++ toString (shelf.issued.length + 1)

/-- Whether an id can be polled: the path of a resource, or an id given out. -/
def knows (shelf : Shelf) (id : String) : Bool :=
  id.toList.head? == some '/' || shelf.issued.contains id

/-- The reply to a request. -/
def answer : (request : Request) → Shelf → request.Reply × Shelf
  | .lookUp key, shelf => (.ok (shelf.snapshot.get? key.display).isSome, shelf)
  | .read key, shelf =>
      match shelf.snapshot.get? key.display with
      | some resource => (.ok resource, shelf)
      | none => (.error (notFound key.display), shelf)
  | .create key body, shelf =>
      if (shelf.snapshot.get? key.display).isSome then
        (.error (.answered 409
          (some s!"The requested object ({key.display}) already exists.")), shelf)
      else
        (.ok (), { shelf with snapshot := shelf.snapshot.insert key.display body })
  | .update key body, shelf =>
      match shelf.snapshot.get? key.display with
      | some resource =>
          (.ok (), { shelf with
            snapshot := shelf.snapshot.insert key.display (resource.update body) })
      | none => (.error (notFound key.display), shelf)
  | .delete key, shelf =>
      if (shelf.snapshot.get? key.display).isSome then
        (.ok (), { shelf with snapshot := shelf.snapshot.erase key.display })
      else
        (.error (notFound key.display), shelf)
  | .submit job key payload, shelf =>
      let id := shelf.nextId job
      let issued := if shelf.issued.contains id then shelf.issued else shelf.issued ++ [id]
      (.ok id, ⟨applyJob shelf.snapshot job key.display payload, issued⟩)
  | .poll job id, shelf =>
      if shelf.knows id then
        let (observation, after) := observe shelf.snapshot job id
        (.ok observation, { shelf with snapshot := after })
      else
        (.error (.answered 404 (some s!"Task {id} not found.")), shelf)

end Shelf

/-- The offline device. -/
def offline : Device Shelf := ⟨Shelf.answer⟩

end Device
end DesiredState
