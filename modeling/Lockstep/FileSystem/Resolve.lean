import Lockstep.FileSystem
import Lockstep.Text.Utf8

/-!
# Following paths

How a path leads to a location.  Links are followed, at most forty of them on one way; a link that
stands in the way counts again each time.  A location that comes out of `follow` is never that of
a link, so it is the canonical name of what the path means.  Making something new does not follow
a link at the end: there is something, wherever the link leads.
-/

namespace Lockstep.FileSystem

def maxLinks : Nat := 40

def maxNameLength : Nat := 255

def maxPathLength : Nat := 4095

def textLength (characters : List Char) : Nat :=
  characters.foldr (fun character length => character.utf8Size + length) 0

/-- What a path asks for from the root on.  An empty name at the end, left behind by a slash, asks
for a directory. -/
def steps (path : Path) : List Path :=
  let pieces := path.pieces
  let names := pieces.filter (!·.isEmpty)
  if pieces.getLast? = some [] then names ++ [[]] else names

/-- Faults of a path that show before anything is looked up. -/
def checkPath (path : Path) : Except SystemError Unit :=
  if path.contains '\x00' then .error .zeroByteInPath
  else if path.isEmpty then .error .notFound
  else if textLength path > maxPathLength then .error .nameTooLong
  else .ok ()

/-- The way from the root to a node: the names on it, each with what stands there, the last one
first. -/
abbrev Trail := List (Path × Node)

namespace Trail

def location (trail : Trail) : Location :=
  (trail.map (·.1)).reverse

/-- What stands at the end of the way. -/
def node (trail : Trail) (root : Node) : Node :=
  match trail with
  | [] => root
  | (_, node) :: _ => node

end Trail

/-- Where the given steps lead from the end of a way, if at most `links` links are met. -/
def follow (system : FileSystem) (links : Nat) (trail : Trail) (todo : List Path) :
    Except SystemError Trail :=
  match todo with
  | [] => .ok trail
  | name :: rest =>
    match trail.node system.root with
    | .directory isSearchable _ entries =>
      if name.isEmpty then system.follow links trail rest
      else if !isSearchable then .error .permissionDenied
      else if name = Path.dot then system.follow links trail rest
      else if name = Path.dotDot then system.follow links trail.tail rest
      else if textLength name > maxNameLength then .error .nameTooLong
      else match entries.lookup name with
        | none => .error .notFound
        | some (.link target) =>
          match links with
          | 0 => .error .tooManyLinks
          | links + 1 =>
            system.follow links (if target.isAbsolute then [] else trail) (steps target ++ rest)
        | some node => system.follow links ((name, node) :: trail) rest
    | _ => .error .notDirectory
termination_by (links, todo.length)

/-- The way to what a path leads to.  Relative paths start at the root. -/
def walk (system : FileSystem) (path : Path) : Except SystemError Trail := do
  checkPath path
  system.follow maxLinks [] (steps path)

/-- The canonical location of something that exists. -/
def canonicalize (system : FileSystem) (path : Path) : Except SystemError Location := do
  return (← system.walk path).location

/-- What a path leads to. -/
def nodeAt (system : FileSystem) (path : Path) : Except SystemError Node := do
  return (← system.walk path).node system.root

def isRegularFile (system : FileSystem) (path : Path) : Except SystemError Bool := do
  match ← system.nodeAt path with
  | .file _ => .ok true
  | _ => .ok false

def isDirectory (system : FileSystem) (path : Path) : Bool :=
  match system.nodeAt path with
  | .ok (.directory ..) => true
  | _ => false

/-- A place where something may stand: its directory and its name in it. -/
structure Place where
  directory : Location
  isWritable : Bool
  name : Path

def Place.location (place : Place) : Location :=
  place.directory ++ [place.name]

/-- The place that the last name of a path means.  A path that ends in a step, or is the root,
means something that exists. -/
def placeOf (system : FileSystem) (path : Path) : Except SystemError Place := do
  checkPath path
  match (path.pieces.filter (!·.isEmpty)).reverse with
  | [] => .error .fileExists
  | name :: front =>
    let trail ← system.follow maxLinks [] front.reverse
    match trail.node system.root with
    | .directory isSearchable isWritable _ =>
      if !isSearchable then .error .permissionDenied
      else if name = Path.dot || name = Path.dotDot then .error .fileExists
      else .ok ⟨trail.location, isWritable, name⟩
    | _ => .error .notDirectory

/-- Nothing stands at the place and something can be put there. -/
def checkVacant (system : FileSystem) (place : Place) : Except SystemError Unit :=
  if textLength place.name > maxNameLength then .error .nameTooLong
  else if (system.node? place.location).isSome then .error .fileExists
  else if !place.isWritable then .error .permissionDenied
  else .ok ()

def endsWithSlash (path : Path) : Bool :=
  path.getLast? = some '/'

/-- Makes a new empty file, which is open for writing. -/
def createFile (system : FileSystem) (path : Path) :
    Except SystemError (FileSystem × FileId) := do
  let place ← system.placeOf path
  if endsWithSlash path then .error .isDirectory
  else do
    system.checkVacant place
    return system.addFile place.location { contents := {}, isOpen := true }

def makeDirectory (system : FileSystem) (path : Path) : Except SystemError FileSystem := do
  let place ← system.placeOf path
  system.checkVacant place
  return system.setNode place.location .plain

/-- Makes a directory and those above it that are missing; what exists already is no error.  What
was made stays even if the directory itself cannot be made.  The first argument bounds the number
of levels. -/
def makeDirectories (system : FileSystem) : Nat → Path → Except SystemError Unit × FileSystem
  | 0, _ => (.error .nameTooLong, system)
  | levels + 1, path =>
    if path.isEmpty then (.ok (), system)
    else
      match system.makeDirectory path with
      | .ok system => (.ok (), system)
      | .error error =>
        if error.kind = .notFound then
          match path.parent? with
          | none => (.error error, system)
          | some parent =>
            match system.makeDirectories levels parent with
            | (.error error, system) => (.error error, system)
            | (.ok (), system) =>
              match system.makeDirectory path with
              | .ok system => (.ok (), system)
              | .error error =>
                (if system.isDirectory path then .ok () else .error error, system)
        else (if system.isDirectory path then .ok () else .error error, system)

/-- Takes a file or a link away. -/
def removeFile (system : FileSystem) (path : Path) : Except SystemError FileSystem := do
  let place ← system.placeOf path
  match system.node? place.location with
  | none => .error .notFound
  | some (.directory ..) => .error .isDirectory
  | some _ =>
    if place.isWritable then return system.removeNode place.location
    else .error .permissionDenied

/-! ## Open files -/

/-- What an open file leads to: a directory can be opened, but not read. -/
inductive Handle where
  | file (id : FileId)
  | directory
deriving DecidableEq, Repr

def openFile (system : FileSystem) (path : Path) : Except SystemError Handle := do
  match ← system.nodeAt path with
  | .file id =>
    if (system.file? id).any (·.isDenied) then .error .permissionDenied else .ok (.file id)
  | _ => .ok .directory

/-- Up to `count` bytes from an offset on; none at the end. -/
def readFile (system : FileSystem) (handle : Handle) (offset count : Nat) :
    Except SystemError Bytes :=
  match handle with
  | .directory => .error .isDirectory
  | .file id =>
    match system.file? id with
    | none => .ok []
    | some file =>
      match file.brokenFrom with
      | none => .ok (file.contents.slice offset count)
      | some limit =>
        if offset ≥ limit then .error .inputOutput
        else .ok (file.contents.slice offset (min count (limit - offset)))

/-- Everything from an offset on. -/
def readRest (system : FileSystem) (handle : Handle) (offset : Nat) :
    Except SystemError Bytes :=
  match handle with
  | .directory => .error .isDirectory
  | .file id =>
    match system.file? id with
    | none => .ok []
    | some file =>
      if file.brokenFrom.any (· ≤ file.contents.size) then .error .inputOutput
      else .ok (file.contents.slice offset file.contents.size)

/-- Adds bytes at the end of a file, as many as fit on the device. -/
def appendFile (system : FileSystem) (id : FileId) (bytes : Bytes) :
    Except SystemError Unit × FileSystem :=
  let fitting := (system.free.map (min bytes.length ·)).getD bytes.length
  let system := system.updateFile id fun file =>
    { file with contents := file.contents.append (bytes.take fitting) }
  let system := { system with free := system.free.map (· - fitting) }
  (if fitting < bytes.length then .error .noSpace else .ok (), system)

/-- Nobody writes the file any longer. -/
def closeFile (system : FileSystem) (id : FileId) : FileSystem :=
  system.updateFile id fun file =>
    { file with isOpen := false, contents := file.contents.pack }

end Lockstep.FileSystem
