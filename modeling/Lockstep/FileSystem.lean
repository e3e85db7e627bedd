import Lockstep.Contents
import Lockstep.FileSystem.Tree
import Lockstep.SystemError

/-!
# File systems

A tree of directories, files and symbolic links.  The contents of the files are kept apart from
the tree, so a file that is open can still be used after it was taken out of the tree.
-/

namespace Lockstep

/-- The contents of a file and how they can be used. -/
structure StoredFile where
  contents : Contents
  /-- The file cannot be opened. -/
  isDenied : Bool := false
  /-- Reading fails from this offset on. -/
  brokenFrom : Option Nat := none
  /-- Somebody is still writing the file. -/
  isOpen : Bool := false

structure FileSystem where
  root : Node := .plain
  files : List (FileId × StoredFile) := []
  nextId : FileId := 0
  /-- How many bytes can still be written; without bound if there is none. -/
  free : Option Nat := none

namespace FileSystem

def node? (system : FileSystem) (location : Location) : Option Node :=
  system.root.at? location

def setNode (system : FileSystem) (location : Location) (node : Node) : FileSystem :=
  { system with root := system.root.put location node }

def removeNode (system : FileSystem) (location : Location) : FileSystem :=
  { system with root := system.root.remove location }

def file? (system : FileSystem) (id : FileId) : Option StoredFile :=
  (system.files.find? (·.1 = id)).map (·.2)

def updateFile (system : FileSystem) (id : FileId) (update : StoredFile → StoredFile) :
    FileSystem :=
  { system with
    files := system.files.map fun entry =>
      if entry.1 = id then (id, update entry.2) else entry }

/-- Puts a new file at a location. -/
def addFile (system : FileSystem) (location : Location) (file : StoredFile) :
    FileSystem × FileId :=
  let id := system.nextId
  let system := { system with files := (id, file) :: system.files, nextId := id + 1 }
  (system.setNode location (.file id), id)

end FileSystem

end Lockstep
