import Lockstep.FileSystem.Resolve
import Std.Data.HashMap

/-!
# Changes of a file system

A file system as it can be laid out by hand and looked at from outside, and what differs between
two of them.
-/

namespace Lockstep.FileSystem

/-- What is put at a location by hand. -/
inductive Fixture where
  | directory (isSearchable isWritable : Bool)
  | file (contents : ByteArray) (isDenied : Bool) (brokenFrom : Option Nat)
  | link (target : Path)

/-- Puts something at a location.  What a directory holds stays in it. -/
def install (system : FileSystem) (location : Location) (fixture : Fixture) : FileSystem :=
  match fixture with
  | .directory isSearchable isWritable =>
    let entries := ((system.node? location).map Node.entries).getD []
    system.setNode location (.directory isSearchable isWritable entries)
  | .link target => system.setNode location (.link target)
  | .file contents isDenied brokenFrom =>
    (system.addFile location
      { contents := Contents.ofByteArray contents, isDenied, brokenFrom }).1

/-- What can be seen at a location. -/
inductive Sight where
  | directory
  | link
  | file (contents : Bytes)
  /-- A file that somebody is still writing. -/
  | openFile
deriving DecidableEq, Repr

def sight (system : FileSystem) : Node → Sight
  | .directory .. => .directory
  | .link _ => .link
  | .file id =>
    match system.file? id with
    | none => .file []
    | some file => if file.isOpen then .openFile else .file file.contents.toBytes

/-- Everything that can be seen, each under its absolute path. -/
def view (system : FileSystem) : List (String × Sight) :=
  (system.root.listing []).map fun (location, node) => (location.text, system.sight node)

/-- The paths at which the two differ, and what is there in the later one. -/
def changes (earlier later : FileSystem) : List (String × Option Sight) :=
  let before := Std.HashMap.ofList earlier.view
  let after := Std.HashMap.ofList later.view
  let gone := earlier.view.filterMap fun (path, _) =>
    if after.contains path then none else some (path, none)
  let present := later.view.filterMap fun (path, sight) =>
    if before[path]? = some sight then none else some (path, some sight)
  gone ++ present

end Lockstep.FileSystem
