import DesiredState.Entries
import DesiredState.Text.Cut

/-!
# Files

What the program needs of a file system: to read a text and to write one.  A
folder is such a file system in memory.  It has the directories that every
system has and those that its files are in, one of which is the current one,
and the null device.  A path is followed name by name, and each name that is
followed must stand in a directory that is there, also before `..`.
-/

namespace DesiredState
namespace CommandLine

/-- What is found at a path. -/
inductive Content where
  | text (content : String)
  | missing
  /-- Something that cannot be read. -/
  | unreadable (reason : String)
deriving Inhabited, Repr, DecidableEq

/-- A way of reading and writing files. -/
structure Files (m : Type → Type) where
  /-- What is found at a path. -/
  read : String → m Content
  /-- Writes a text to a path; the answer is the reason of a failure. -/
  write : String → String → m (Option String)

/-- Why a path is of no use. -/
inductive Obstacle where
  | missing
  /-- A name follows that of a file. -/
  | notDirectory
  /-- A directory stands where a file should be. -/
  | isDirectory
  /-- A name or the whole path is too long. -/
  | nameTooLong
deriving Inhabited, Repr, DecidableEq

/-- What is said of an obstacle. -/
def Obstacle.reason : Obstacle → String
  | .missing => "No such file or directory"
  | .notDirectory => "Not a directory"
  | .isDirectory => "Is a directory"
  | .nameTooLong => "File name too long"

/-- What stands at a place of a file system. -/
inductive Item where
  | directory
  | file (content : String)
  /-- A device that holds nothing and keeps nothing. -/
  | null
deriving Inhabited, Repr, DecidableEq

/-- The files of a folder, under their places.  A place is named by the names
on the way from the root to it, with slashes between them. -/
structure Folder where
  /-- The texts under their places. -/
  files : List (String × String) := []
deriving Inhabited, Repr

namespace Folder

/-- The current directory, which paths without a leading slash start from. -/
def current : List String := ["tmp", "work"]

/-- The place of the null device. -/
def nullDevice : List String := ["dev", "null"]

/-- The directories that are there without any file. -/
def standing : List (List String) :=
  current :: ["bin", "dev", "etc", "home", "lib", "opt", "proc", "root", "run", "sbin",
    "srv", "sys", "usr", "var"].map fun name => [name]

/-- How many octets a name may have at most. -/
def nameLimit : Nat := 255

/-- How many octets a path may have at most. -/
def pathLimit : Nat := 4095

/-- The names between the slashes of a path. -/
def namesOf (path : String) : List String :=
  (Text.segments '/' path.toList).map String.ofList

/-- The names of a place, as one text. -/
def textOf (place : List String) : String :=
  String.intercalate "/" place

/-- Whether there is a directory at a place: one that is standing or has a file
in it, or one around such a directory. -/
def hasDirectory (folder : Folder) (place : List String) : Bool :=
  (standing ++ folder.files.map fun file => (namesOf file.1).dropLast).any fun directory =>
    directory.take place.length == place

/-- What stands at a place. -/
def item? (folder : Folder) (place : List String) : Option Item :=
  if folder.hasDirectory place then some .directory
  else if place == nullDevice then some .null
  else (folder.files.lookup (textOf place)).map .file

/-- Follows names from a place.  A lone dot and no name at all stay there, two
dots lead to the directory around it, and the root is around itself. -/
def follow (folder : Folder) (place : List String) :
    List String → Except Obstacle (List String)
  | [] => .ok place
  | name :: rest =>
      match folder.item? place with
      | none => .error .missing
      | some .directory =>
          if name == "" || name == "." then follow folder place rest
          else if name == ".." then follow folder place.dropLast rest
          else if nameLimit < name.utf8ByteSize then .error .nameTooLong
          else follow folder (place ++ [name]) rest
      | some _ => .error .notDirectory

/-- The place that a path leads to, whether or not anything stands there. -/
def locate (folder : Folder) (path : String) : Except Obstacle (List String) :=
  if path.isEmpty then .error .missing
  else if pathLimit < path.utf8ByteSize then .error .nameTooLong
  else folder.follow (if path.startsWith "/" then [] else current) (namesOf path)

/-- What is found at a path. -/
def read (folder : Folder) (path : String) : Content :=
  match folder.locate path with
  | .error .missing => .missing
  | .error obstacle => .unreadable obstacle.reason
  | .ok place =>
      match folder.item? place with
      | none => .missing
      | some .directory => .unreadable Obstacle.isDirectory.reason
      | some .null => .text ""
      | some (.file content) => .text content

/-- The folder with a file at a place. -/
def place (folder : Folder) (place : List String) (content : String) : Folder :=
  ⟨Entries.put (textOf place) content folder.files⟩

/-- The folder after a text has been written to a path, or why it cannot be.
The directory of the file must be there. -/
def write (folder : Folder) (path content : String) : Except Obstacle Folder := do
  let place ← folder.locate path
  match folder.item? place with
  | some .directory => throw .isDirectory
  | some .null => return folder
  | _ => return folder.place place content

/-- The folder as a file system. -/
def access : Files (StateM Folder) where
  read path := fun folder => (folder.read path, folder)
  write path content := fun folder =>
    match folder.write path content with
    | .ok written => (none, written)
    | .error obstacle => (some obstacle.reason, folder)

/-- The folder with some files under their paths from the current directory,
each written over those before it.  The directories on the way are made. -/
def ofList (files : List (String × String)) : Folder :=
  files.foldl (fun folder (path, content) =>
    folder.place (current ++ (namesOf path).filter fun name => name != "" && name != ".")
      content) {}

end Folder
end CommandLine
end DesiredState
