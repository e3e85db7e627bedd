import Lockstep.Machine

/-!
# Local files of downloads

A download never overwrites anything.  If there is something under the wanted name already, the
file gets the first free name of a numbered series, in which the number stands behind the stem and
in front of the extension.
-/

namespace Lockstep

/-- The sibling with this number: `boot (2).img` for `boot.img`. -/
def Path.numbered (path : Path) (number : Nat) : Path :=
  let stem := path.fileStem?.getD []
  let extension := match path.extension? with
    | some extension => '.' :: extension
    | none => []
  path.withFileName (stem ++ s!" ({number})".toList ++ extension)

namespace LocalFile

/-- How many names are tried. -/
def maxAttempts : Nat := 1000

def noFreeName (path : Path) : SystemError :=
  ⟨.alreadyExists, s!"no free name for {path.text} after {maxAttempts} attempts"⟩

/-- Makes a file under `candidate` or, if that is taken, under the numbered names from `number`
on; so many more names are tried. -/
def createFrom (path candidate : Path) (number : Nat) :
    Nat → Program (Except SystemError (FileId × Path))
  | 0 => return .error (noFreeName path)
  | attempts + 1 => do
    match ← Program.call (.createFile candidate) with
    | .ok file => return .ok (file, candidate)
    | .error error =>
      if error.kind = .alreadyExists then
        createFrom path (path.numbered number) (number + 1) attempts
      else return .error error

/-- Makes a new file under the path or the first free numbered sibling of it. -/
def create (path : Path) : Program (Except SystemError (FileId × Path)) :=
  createFrom path path 1 maxAttempts

end LocalFile

end Lockstep
