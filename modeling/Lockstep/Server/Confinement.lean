import Lockstep.Machine

/-!
# Confinement

Which file a request means.  Whatever exists under the requested name is looked up by its
canonical location, which has to lie under the canonical root, so a link cannot lead out of the
root.  A name under which nothing is found is left as it stands, directly below the root.
-/

namespace Lockstep.Server

def rootUnavailable : Notice :=
  ⟨.accessViolation, "Server root directory unavailable"⟩

def outsideRoot : Notice :=
  ⟨.accessViolation, "Path traversal attempt detected"⟩

def notRegular : Notice :=
  ⟨.fileNotFound, "Not a regular file"⟩

/-- The path of the file that `filename` means under `root`. -/
def resolve (root : Path) (filename : String) : Program (Except Notice Path) := do
  match ← Program.call (.canonicalize root) with
  | .error _ => return .error rootUnavailable
  | .ok rootLocation =>
    let requested := rootLocation.path.push (Path.ofText filename)
    match ← Program.call (.canonicalize requested) with
    | .ok location =>
      if rootLocation.isPrefixOf location then return .ok location.path
      else return .error outsideRoot
    | .error error =>
      if error.kind = .notFound then return .ok requested
      else return .error (Notice.ofCode (error.code .reading))

/-- Opens a file to be sent. -/
def openToRead (path : Path) : Program (Except Notice FileSystem.Handle) := do
  match ← Program.call (.isRegularFile path) with
  | .error error => return .error (Notice.ofCode (error.code .reading))
  | .ok false => return .error notRegular
  | .ok true =>
    match ← Program.call (.openFile path) with
    | .error error => return .error (Notice.ofCode (error.code .reading))
    | .ok handle => return .ok handle

/-- Makes the file that is going to be received. -/
def openToWrite (path : Path) : Program (Except Notice FileId) := do
  match ← Program.call (.createFile path) with
  | .error error => return .error (Notice.ofCode (error.code .writing))
  | .ok file => return .ok file

end Lockstep.Server
