import Lockstep.Session

/-!
# Failures

Why a service or a call of the client as a whole came to nothing: a cause, and around it what was
being done when it struck.
-/

namespace Lockstep

inductive Failure.Cause where
  | transfer (error : TransferError)
  | system (error : SystemError)
  | other (text : String)
deriving DecidableEq, Repr

structure Failure where
  /-- What was being done, the outermost first. -/
  contexts : List String := []
  cause : Failure.Cause
deriving DecidableEq, Repr

namespace Failure

/-- The texts of the cause and of what is behind it. -/
def Cause.texts : Cause → List String
  | .transfer error => error.message :: (error.source?.map SystemError.text).toList
  | .system error => [error.text]
  | .other text => [text]

def message (failure : Failure) : String :=
  ": ".intercalate (failure.contexts ++ failure.cause.texts)

/-- A failure of the system while something was being done. -/
def ofSystem (context : String) (error : SystemError) : Failure :=
  ⟨[context], .system error⟩

def ofTransfer (context : String) (error : TransferError) : Failure :=
  ⟨[context], .transfer error⟩

end Failure

end Lockstep
