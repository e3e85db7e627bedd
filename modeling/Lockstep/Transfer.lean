import Lockstep.Stream

/-!
# Transfers

A session together with its socket and its local stream: everything that has to be kept while the
session waits.  A file that could not be received to its end is removed again.
-/

namespace Lockstep

/-- The most that a session takes of one datagram. -/
def sessionBuffer : Nat := 1500

/-- A transfer that waits. -/
structure Transfer where
  socket : SocketAddress
  stream : Stream
  session : Session
  exchange : Session.Exchange
  /-- The running number of the wait; of two waits that end at the same time the earlier one is
  served first. -/
  since : Nat

/-- What a turn of a transfer leads to. -/
inductive Course where
  | running (transfer : Transfer)
  | ended (session : Session) (stream : Stream) (result : Except TransferError Summary)

namespace Transfer

/-- Takes a turn of a session.  If it waits again, this is the wait number `since`. -/
def takeTurn (socket : SocketAddress) (stream : Stream) (turn : Session.Turn Session.Progress)
    (since : Nat) : Program Course := do
  match ← stream.converse socket turn with
  | (.waiting session exchange, stream) =>
    return .running { socket, stream, session, exchange, since }
  | (.ended session result, stream) => return .ended session stream result

def react (transfer : Transfer) (event : Session.Event) (now since : Nat) : Program Course :=
  let event := match event with
    | .arrival source datagram => .arrival source (datagram.take sessionBuffer)
    | event => event
  takeTurn transfer.socket transfer.stream
    (transfer.session.react transfer.exchange event now) since

end Transfer

/-! ## Around a transfer -/

/-- A socket on any port, from which `peer` can be reached. -/
def bindEphemeral (peer : SocketAddress) (localBind : Option Ip) :
    Program (Except SystemError SocketAddress) :=
  Program.call (.bind ⟨localBind.getD (Ip.unspecified peer.ip.family), 0, 0⟩)

/-- A file that is being received. -/
structure Upload where
  path : Path
  file : FileId

/-- Closes the file that a transfer received into, and removes it if the transfer failed. -/
def Upload.conclude (upload : Option Upload) (result : Except TransferError Summary) :
    Program Unit := do
  match upload with
  | none => return
  | some upload =>
    Program.call (.closeFile upload.file)
    match result with
    | .ok _ => return
    | .error _ =>
      let _ ← Program.call (.removeFile upload.path)

end Lockstep
