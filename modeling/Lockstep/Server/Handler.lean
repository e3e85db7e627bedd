import Lockstep.Server.Admission
import Lockstep.Server.Confinement
import Lockstep.Transfer

/-!
# Handlers

What a server does about one datagram at its well-known port.  Everything about it, a rejection
too, is sent from a socket of its own.  A file that could not be received to its end is removed
again.
-/

namespace Lockstep

/-- A request that is being served. -/
structure Handler where
  client : SocketAddress
  transfer : Transfer
  /-- The file to be removed if the transfer fails. -/
  upload : Option Upload

namespace Handler

/-- Turns a request down. -/
def reject (socket client : SocketAddress) (notice : Notice) : Program (Option Handler) := do
  let _ ← Program.call (.send socket client (Packet.error notice).encode)
  Program.call (.close socket)
  return none

def follow (socket client : SocketAddress) (upload : Option Upload) (course : Course) :
    Program (Option Handler) := do
  match course with
  | .running transfer => return some { client, transfer, upload }
  | .ended _ _ result =>
    Upload.conclude upload result
    Program.call (.close socket)
    return none

def serveRead (socket client : SocketAddress) (path : Path) (mode : Mode)
    (config : TransferConfig) (now since : Nat) : Program (Option Handler) := do
  match ← Server.openToRead path with
  | .error notice => reject socket client notice
  | .ok handle =>
    let session := Session.accepted client mode config
    follow socket client none
      (← Transfer.takeTurn socket (.reader { handle }) (session.send none now) since)

def serveWrite (socket client : SocketAddress) (path : Path) (mode : Mode)
    (config : TransferConfig) (now since : Nat) : Program (Option Handler) := do
  match ← Server.openToWrite path with
  | .error notice => reject socket client notice
  | .ok file =>
    let session := Session.accepted client mode config
    follow socket client (some { path, file })
      (← Transfer.takeTurn socket (.writer { file }) (session.receive (Packet.encodeAck 0) now)
        since)

/-- Serves the admitted request of `client` from `socket`. -/
def serve (socket client : SocketAddress) (root : Path) (config : TransferConfig)
    (admission : Admission) (now since : Nat) : Program (Option Handler) := do
  match ← Server.resolve root admission.request.filename with
  | .error notice => reject socket client notice
  | .ok path =>
    match admission.role with
    | .sender => serveRead socket client path admission.mode config now since
    | .receiver => serveWrite socket client path admission.mode config now since

/-- Deals with a datagram that `client` sent to the well-known port. -/
def open? (client : SocketAddress) (datagram : Bytes) (root : Path) (config : TransferConfig)
    (now since : Nat) : Program (Option Handler) := do
  match ← bindEphemeral client config.localBind with
  | .error _ => return none
  | .ok socket =>
    match Admission.ofDatagram datagram with
    | .error refusal => reject socket client refusal.notice
    | .ok admission => serve socket client root config admission now since

def react (handler : Handler) (event : Session.Event) (now since : Nat) :
    Program (Option Handler) := do
  follow handler.transfer.socket handler.client handler.upload
    (← handler.transfer.react event now since)

end Handler

end Lockstep
