import Lockstep.Address
import Lockstep.SystemError

/-!
# Sessions

One side of one transfer.  A session knows its peer, the number of the next block and how far it
has come; it moves a stream of bytes across, one block and one acknowledgment at a time.  How it
reacts to what happens around it is described in `Lockstep.Session.Turn`.
-/

namespace Lockstep

/-- The side that a session plays. -/
inductive Role where
  | sender
  | receiver
deriving DecidableEq, Repr

structure TransferConfig where
  /-- Milliseconds until an unanswered packet is sent again. -/
  timeout : Nat := 1500
  /-- Timeouts that end the wait for the first answer to a request. -/
  requestRetries : Nat := 10
  /-- Timeouts that end the wait for any later packet. -/
  maxRetries : Nat := 10
  /-- The local address of the sockets that transfers use. -/
  localBind : Option Ip := none
deriving DecidableEq, Repr

inductive Stage where
  | idle
  | requestSent
  | transferring
  | completed
  | failed
deriving DecidableEq, Repr

structure Session where
  peer : SocketAddress
  /-- The port of the peer is known too, not only its host. -/
  bound : Bool
  mode : Mode
  config : TransferConfig
  /-- The next block that is expected or sent. -/
  block : BlockNumber := 1
  stage : Stage := .idle
deriving DecidableEq, Repr

/-- What a completed transfer moved. -/
structure Summary where
  blocks : Nat := 0
  /-- Payload bytes as they travelled. -/
  bytes : Nat := 0
deriving DecidableEq, Repr

def Summary.add (summary : Summary) (length : Nat) : Summary :=
  ⟨summary.blocks + 1, summary.bytes + length⟩

/-- Why a transfer ended without completing. -/
inductive TransferError where
  | timeout (attempts : Nat)
  /-- The peer gave up. -/
  | peer (notice : Notice)
  /-- The peer broke the rules of the exchange. -/
  | protocol (reason : String)
  /-- The local stream failed. -/
  | stream (code : ErrorCode) (source : SystemError)
  | socket (source : SystemError)
deriving DecidableEq, Repr

namespace TransferError

def message : TransferError → String
  | .timeout attempts => s!"transfer timed out after {attempts} attempts"
  | .peer notice => s!"peer reported {notice.display}"
  | .protocol reason => s!"illegal TFTP operation: {reason}"
  | .stream code source => s!"local stream failure ({code.display}): {source.text}"
  | .socket source => s!"socket error: {source.text}"

def isTimeout : TransferError → Bool
  | .timeout _ => true
  | _ => false

/-- The error of the system that is behind it. -/
def source? : TransferError → Option SystemError
  | .stream _ source => some source
  | .socket source => some source
  | _ => none

end TransferError

namespace Session

/-- A session whose peer is known from the request it answers. -/
def accepted (peer : SocketAddress) (mode : Mode) (config : TransferConfig) : Session :=
  { peer, bound := true, mode, config }

/-- A session that is going to send a request to `server`; the port that the answer comes from
will be its peer's. -/
def requesting (server : SocketAddress) (mode : Mode) (config : TransferConfig) : Session :=
  { peer := server, bound := false, mode, config }

def retryBudget (session : Session) : Nat :=
  if session.bound then session.config.maxRetries else session.config.requestRetries

/-- The session that takes a datagram from `source`: a session whose peer's port is still open
binds it, a bound one listens to its peer alone. -/
def admit? (session : Session) (source : SocketAddress) : Option Session :=
  if session.bound then if source = session.peer then some session else none
  else if source.ip = session.peer.ip then some { session with peer := source, bound := true }
  else none

end Session

end Lockstep
