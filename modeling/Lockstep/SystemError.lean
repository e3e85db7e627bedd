import Lockstep.Packet

/-!
# System errors

Why the system refused a call on a socket or a file.  A few kinds are told apart because they
decide what happens next; the text is only ever shown.
-/

namespace Lockstep

namespace SystemError

inductive Kind where
  | notFound
  | permissionDenied
  | alreadyExists
  | connectionRefused
  | connectionReset
  | other
deriving DecidableEq, Repr

end SystemError

structure SystemError where
  kind : SystemError.Kind
  text : String
deriving DecidableEq, Repr

namespace SystemError

/-- Reported by a later receive when an earlier datagram found nobody to take it. -/
def isBounce (error : SystemError) : Bool :=
  error.kind = .connectionRefused || error.kind = .connectionReset

/-! ## The error code for the peer -/

/-- What a local stream was used for when it failed. -/
inductive Use where
  | reading
  | writing
deriving DecidableEq, Repr

def code (error : SystemError) (use : Use) : ErrorCode :=
  match error.kind, use with
  | .permissionDenied, _ => .accessViolation
  | .notFound, .reading => .fileNotFound
  | .alreadyExists, _ => .fileAlreadyExists
  | _, .writing => .diskFull
  | _, .reading => .notDefined

/-! ## Errors by their number -/

def notFound : SystemError := ⟨.notFound, "No such file or directory (os error 2)"⟩
def inputOutput : SystemError := ⟨.other, "Input/output error (os error 5)"⟩
def permissionDenied : SystemError := ⟨.permissionDenied, "Permission denied (os error 13)"⟩
def fileExists : SystemError := ⟨.alreadyExists, "File exists (os error 17)"⟩
def notDirectory : SystemError := ⟨.other, "Not a directory (os error 20)"⟩
def isDirectory : SystemError := ⟨.other, "Is a directory (os error 21)"⟩
def noSpace : SystemError := ⟨.other, "No space left on device (os error 28)"⟩
def nameTooLong : SystemError := ⟨.other, "File name too long (os error 36)"⟩
def tooManyLinks : SystemError := ⟨.other, "Too many levels of symbolic links (os error 40)"⟩
def messageTooLong : SystemError := ⟨.other, "Message too long (os error 90)"⟩
def familyNotSupported : SystemError :=
  ⟨.other, "Address family not supported by protocol (os error 97)"⟩
def addressInUse : SystemError := ⟨.other, "Address already in use (os error 98)"⟩
def addressNotAvailable : SystemError :=
  ⟨.other, "Cannot assign requested address (os error 99)"⟩

/-! ## Errors without a number -/

def zeroByteInPath : SystemError := ⟨.other, "file name contained an unexpected NUL byte"⟩
def invalidSocketAddress : SystemError := ⟨.other, "invalid socket address"⟩
def invalidPort : SystemError := ⟨.other, "invalid port value"⟩
def wroteNothing : SystemError := ⟨.other, "write zero"⟩

end SystemError

end Lockstep
