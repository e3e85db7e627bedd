import Lockstep.Address.Printer
import Lockstep.Machine
import Lockstep.Packet.Codec
import Std.Async.UDP

/-!
# The host itself

Answers the calls of programs with the sockets and the files of the host that they run on.  Nothing
is decided here: each call is one request to the system, and what the system says is the answer.
-/

namespace Lockstep

/-- What programs hold open on this host. -/
structure Host where
  sockets : IO.Ref (List (SocketAddress × Std.Async.UDP.Socket))
  files : IO.Ref (List (FileId × IO.FS.Handle))
  nextId : IO.Ref FileId
  /-- Every packet that is sent is shown. -/
  isVerbose : Bool

/-- The address as the system takes it. -/
def SocketAddress.toNet (address : SocketAddress) : Std.Net.SocketAddress :=
  match address.ip with
  | .v4 first second third fourth => .v4 ⟨⟨#v[first, second, third, fourth]⟩, address.port⟩
  | .v6 groups => .v6 ⟨⟨groups⟩, address.port⟩

def SocketAddress.ofNet : Std.Net.SocketAddress → SocketAddress
  | .v4 ⟨⟨bytes⟩, port⟩ => { ip := .v4 bytes[0] bytes[1] bytes[2] bytes[3], port }
  | .v6 ⟨⟨groups⟩, port⟩ => { ip := .v6 groups, port }

def SystemError.ofError (error : IO.Error) : SystemError :=
  let kind : Kind := match error with
    | .noFileOrDirectory .. => .notFound
    | .permissionDenied .. => .permissionDenied
    | .alreadyExists .. => .alreadyExists
    | _ => .other
  ⟨kind, toString error⟩

namespace Host

def new (isVerbose : Bool) : IO Host := do
  let sockets ← IO.mkRef []
  let files ← IO.mkRef []
  let nextId ← IO.mkRef 0
  return { sockets, files, nextId, isVerbose }

/-- What came of a request to the system. -/
def attempt {Value : Type} (request : IO Value) : IO (Except SystemError Value) := do
  match ← request.toBaseIO with
  | .ok value => return .ok value
  | .error error => return .error (.ofError error)

def keepFile (host : Host) (file : IO.FS.Handle) : IO FileId := do
  let id ← host.nextId.modifyGet fun id => (id, id + 1)
  host.files.modify ((id, file) :: ·)
  return id

def withFile {Value : Type} (host : Host) (id : FileId) (use : IO.FS.Handle → IO Value) :
    IO Value := do
  match (← host.files.get).lookup id with
  | some file => use file
  | none => throw (IO.userError "the file is not open")

def bind (host : Host) (address : SocketAddress) : IO SocketAddress := do
  let socket ← Std.Async.UDP.Socket.mk
  socket.bind address.toNet
  let bound := SocketAddress.ofNet (← socket.getSockName)
  host.sockets.modify ((bound, socket) :: ·)
  return bound

def send (host : Host) (source destination : SocketAddress) (packet : Bytes) : IO Unit := do
  match (← host.sockets.get).lookup source with
  | some socket =>
    (socket.send packet.toByteArray (some destination.toNet)).block
    if host.isVerbose then
      let shown := match Packet.decode packet with
        | .ok packet => packet.display
        | .error error => error.message
      IO.eprintln s!"{source.text} -> {destination.text}: {shown}"
  | none => throw (IO.userError "the socket is not open")

def answer (host : Host) (call : Call) : IO call.Reply :=
  match call with
  | .bind address => attempt (host.bind address)
  | .close socket => host.sockets.modify (·.filter (·.1 ≠ socket))
  | .send socket destination packet => attempt (host.send socket destination packet)
  | .canonicalize path => attempt do
    return Location.ofPath (Path.ofText (← IO.FS.realPath path.text).toString)
  | .isRegularFile path => attempt do
    return (← (← IO.FS.realPath path.text).metadata).type == .file
  | .openFile path => attempt do
    return .file (← host.keepFile (← IO.FS.Handle.mk path.text .read))
  | .createFile path => attempt do
    host.keepFile (← IO.FS.Handle.mk path.text .writeNew)
  | .removeFile path => attempt (IO.FS.removeFile path.text)
  | .makeDirectories path =>
    attempt (if path.isEmpty then return () else IO.FS.createDirAll path.text)
  | .readFile (.file id) _ count => attempt do
    return (← host.withFile id (·.read (USize.ofNat count))).data.toList
  | .readRest (.file id) _ => attempt do
    return (← host.withFile id (·.readBinToEnd)).data.toList
  | .readFile .directory _ _ | .readRest .directory _ => return .error .isDirectory
  | .appendFile id bytes => attempt (host.withFile id fun file => do
    file.write bytes.toByteArray
    file.flush)
  | .closeFile id => host.files.modify (·.filter (·.1 ≠ id))

/-- Runs a program on this host. -/
def run {Result : Type} (host : Host) (program : Program Result) : IO Result :=
  program.runM host.answer

end Host

end Lockstep
