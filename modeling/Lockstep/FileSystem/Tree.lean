import Lockstep.Path

/-!
# Trees of directories

What stands in a file system, apart from the contents of the files.  A directory holds other nodes
under names, so nothing can stand below anything but a directory.  A location is the list of names
that lead to a node from the root.
-/

namespace Lockstep

/-- The names from the root on. -/
abbrev Location := List Path

namespace Location

/-- The absolute path of a location. -/
def path (location : Location) : Path :=
  Path.joinPieces true location

def text (location : Location) : String :=
  location.path.text

/-- The names of an absolute path. -/
def ofPath (path : Path) : Location :=
  path.pieces.filter (!·.isEmpty)

end Location

abbrev FileId := Nat

inductive Node where
  | directory (isSearchable isWritable : Bool) (entries : List (Path × Node))
  | file (id : FileId)
  | link (target : Path)

namespace Node

/-- An empty directory that everything is allowed in. -/
def plain : Node := .directory true true []

def entries : Node → List (Path × Node)
  | .directory _ _ entries => entries
  | .file _ | .link _ => []

def child? (node : Node) (name : Path) : Option Node :=
  node.entries.lookup name

/-- The node at a location below. -/
def at? : Node → Location → Option Node
  | node, [] => some node
  | node, name :: rest => (node.child? name).bind (·.at? rest)

/-- The entries with another node under a name. -/
def putEntry (name : Path) (node : Node) (entries : List (Path × Node)) : List (Path × Node) :=
  if (entries.lookup name).isSome then
    entries.map fun entry => if entry.1 = name then (name, node) else entry
  else (name, node) :: entries

/-- The directory with another node under a name. -/
def withChild (node : Node) (name : Path) (child : Node) : Node :=
  match node with
  | .directory isSearchable isWritable entries =>
    .directory isSearchable isWritable (putEntry name child entries)
  | other => other

def withoutChild (node : Node) (name : Path) : Node :=
  match node with
  | .directory isSearchable isWritable entries =>
    .directory isSearchable isWritable (entries.filter (·.1 ≠ name))
  | other => other

/-- Puts a node at a location.  Where there is nothing on the way a directory is made. -/
def put (node : Node) (location : Location) (new : Node) : Node :=
  match location with
  | [] => new
  | name :: rest => node.withChild name (((node.child? name).getD plain).put rest new)

/-- Takes away what stands at a location.  The root stays. -/
def remove : Node → Location → Node
  | node, [] => node
  | node, name :: rest =>
    if rest.isEmpty then node.withoutChild name
    else match node.child? name with
      | none => node
      | some child => node.withChild name (child.remove rest)

mutual

/-- The node and everything below it, if the node stands at `here`. -/
def listing (here : Location) : Node → List (Location × Node)
  | .directory isSearchable isWritable entries =>
    (here, .directory isSearchable isWritable entries) :: listingBelow here entries
  | .file id => [(here, .file id)]
  | .link target => [(here, .link target)]

def listingBelow (here : Location) : List (Path × Node) → List (Location × Node)
  | [] => []
  | (name, node) :: rest => listing (here ++ [name]) node ++ listingBelow here rest

end

end Node

end Lockstep
