/-!
# Resource keys

A resource is known by its kind, its partition and its name.  A name that
starts with a slash is already qualified and stays as it is.
-/

namespace DesiredState

/-- The partition of resources that name none. -/
def defaultPartition : String := "Common"

/-- A name qualified with a partition. -/
def qualify (partition name : String) : String :=
  match name.toList with
  | '/' :: _ => name
  | _ => "/" ++ partition ++ "/" ++ name

/-- What identifies one resource of a device. -/
structure Key where
  /-- The kind of resource, such as `ltm/lsn-pool`. -/
  kind : String
  partition : String
  /-- The name, without its partition. -/
  name : String
deriving Inhabited, Repr, DecidableEq

namespace Key

/-- The path of a resource: its name, qualified with its partition. -/
def path (key : Key) : String :=
  qualify key.partition key.name

/-- The path with a tilde for every slash. -/
def urlName (key : Key) : String :=
  String.ofList (key.path.toList.map fun c => if c = '/' then '~' else c)

/-- A key as it is shown and stored: kind, colon, path. -/
def display (key : Key) : String :=
  key.kind ++ ":" ++ key.path

end Key
end DesiredState
