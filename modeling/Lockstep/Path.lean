import Lockstep.Text.Blank

/-!
# Paths

The written form of a place in a file system: names between slashes.  This module looks at the
text alone.  Repeated slashes, a slash at the end and single dots do not count as names, except
that a single dot at the very front of a relative path does.
-/

namespace Lockstep

abbrev Path := List Char

namespace Path

def ofText (text : String) : Path :=
  text.toList

def text (path : Path) : String :=
  String.ofList path

def dot : Path := ['.']

def dotDot : Path := ['.', '.']

def isAbsolute (path : Path) : Bool :=
  path.head? == some '/'

/-- What stands between the slashes behind the root. -/
def pieces (path : Path) : List Path :=
  let body := if path.isAbsolute then path.drop 1 else path
  Text.splitOn '/' body

/-- Pieces that name nothing. -/
def isFiller (piece : Path) : Bool :=
  piece.isEmpty || piece = dot

/-- The pieces up to the last one that counts, the last one first; a dot at the front of a
relative path counts. -/
def trimmedPieces (path : Path) : List Path :=
  let reversed := path.pieces.reverse
  let kept := reversed.dropWhile isFiller
  if kept.isEmpty && !path.isAbsolute && path.pieces.head? = some dot then [dot] else kept

def joinPieces (isAbsolute : Bool) (pieces : List Path) : Path :=
  let body := List.intercalate ['/'] pieces
  if isAbsolute then '/' :: body else body

/-- The path without its last name. -/
def parent? (path : Path) : Option Path :=
  match path.trimmedPieces with
  | [] => none
  | _ :: front =>
    let kept := front.dropWhile isFiller
    let kept :=
      if kept.isEmpty && !path.isAbsolute && !front.isEmpty && path.pieces.head? = some dot
      then [dot] else kept
    some (joinPieces path.isAbsolute kept.reverse)

/-- The last name, if it is the name of a file or directory and not a step upwards. -/
def fileName? (path : Path) : Option Path :=
  match path.trimmedPieces with
  | [] => none
  | last :: _ => if last = dot || last = dotDot then none else some last

/-- Puts a name behind a path. -/
def push (path name : Path) : Path :=
  if name.isAbsolute then name
  else if path.isEmpty || path.getLast? = some '/' then path ++ name
  else path ++ '/' :: name

/-- The path with another last name; a path that has none gets one. -/
def withFileName (path name : Path) : Path :=
  match path.fileName? with
  | some _ => ((path.parent?).getD path).push name
  | none => path.push name

/-- What stands before and after the last dot of a name.  A dot at the front does not divide. -/
def splitExtension (name : Path) : Path × Option Path :=
  match Text.splitFirst? '.' name.reverse with
  | some (extension, stem) =>
    if stem.isEmpty then (name, none) else (stem.reverse, some extension.reverse)
  | none => (name, none)

def fileStem? (path : Path) : Option Path :=
  path.fileName?.map fun name => (splitExtension name).1

def extension? (path : Path) : Option Path :=
  path.fileName?.bind fun name => (splitExtension name).2

end Path

end Lockstep
