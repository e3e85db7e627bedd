import Lockstep.Address.Printer
import Lockstep.Client.LocalFile
import Lockstep.Failure
import Lockstep.Transfer

/-!
# Clients

A client opens a socket of its own for every call, sends its request to the well-known port of the
server and then plays its side of the transfer with whichever port answers.  Calls move a stream or
a local file; a local file that could not be received to its end is removed again.
-/

namespace Lockstep

structure ClientConfig where
  server : SocketAddress := { ip := Ip.localhost .four, port := 6900 }
  mode : Mode := .octet
  transfer : TransferConfig := {}

namespace Client

/-- Closes the socket of a transfer that has ended. -/
def settle (socket : SocketAddress) (course : Course) : Program Course := do
  match course with
  | .running _ => return course
  | .ended .. =>
    Program.call (.close socket)
    return course

/-- The first turn of the client's side of a transfer. -/
def opening (role : Role) (session : Session) (remote : String) (mode : Mode) (now : Nat) :
    Session.Turn Session.Progress :=
  let request := FileRequest.inMode remote mode
  match role with
  | .receiver => session.receive (Packet.readRequest request).encode now
  | .sender => session.send (some (Packet.writeRequest request).encode) now

/-- Moves the file `remote` of the server into the stream, or the stream into it. -/
def start (config : ClientConfig) (role : Role) (remote : String) (stream : Stream)
    (now since : Nat) : Program Course := do
  let session := Session.requesting config.server config.mode config.transfer
  match ← bindEphemeral config.server config.transfer.localBind with
  | .error error => return .ended session stream (.error (.socket error))
  | .ok socket =>
    settle socket
      (← Transfer.takeTurn socket stream (opening role session remote config.mode now) since)

def react (transfer : Transfer) (event : Session.Event) (now since : Nat) : Program Course := do
  settle transfer.socket (← transfer.react event now since)

/-! ## Local files -/

/-- What is known of a call that moves a local file. -/
structure FileCall where
  /-- What the call does, for its failure. -/
  context : String
  /-- The local file to be removed if the call fails. -/
  upload : Option Upload

/-- What a turn of such a call leads to. -/
inductive FileCourse where
  | running (call : FileCall) (transfer : Transfer)
  | ended (result : Except Failure Summary)

namespace FileCall

def follow (call : FileCall) (course : Course) : Program FileCourse := do
  match course with
  | .running transfer => return .running call transfer
  | .ended _ _ result =>
    Upload.conclude call.upload result
    return .ended (result.mapError (Failure.ofTransfer call.context))

def react (call : FileCall) (transfer : Transfer) (event : Session.Event) (now since : Nat) :
    Program FileCourse := do
  call.follow (← Client.react transfer event now since)

end FileCall

/-- Receives the file `remote` into a new local file. -/
def readFile (config : ClientConfig) (remote : String) (path : Path) (now since : Nat) :
    Program FileCourse := do
  match ← LocalFile.create path with
  | .error error => return .ended (.error (.ofSystem s!"failed to create {path.text}" error))
  | .ok (file, path) =>
    let call : FileCall :=
      { context := s!"reading '{remote}' from {config.server.text}", upload := some { path, file } }
    call.follow (← start config .receiver remote (.writer { file }) now since)

/-- Sends a local file as `remote`. -/
def writeFile (config : ClientConfig) (path : Path) (remote : String) (now since : Nat) :
    Program FileCourse := do
  match ← Program.call (.openFile path) with
  | .error error => return .ended (.error (.ofSystem s!"failed to open {path.text}" error))
  | .ok handle =>
    let call : FileCall :=
      { context := s!"writing '{remote}' to {config.server.text}", upload := none }
    call.follow (← start config .sender remote (.reader { handle }) now since)

end Client

end Lockstep
