import Lockstep.Dialogue
import Lockstep.FileSystem.Resolve
import Lockstep.Network

/-!
# Machines

What the programs of this library ask of the host they run on, and a host that answers from a
clock, a file system and a network that are plain values.
-/

namespace Lockstep

inductive Call where
  | bind (address : SocketAddress)
  | close (socket : SocketAddress)
  | send (socket destination : SocketAddress) (packet : Bytes)
  | canonicalize (path : Path)
  | isRegularFile (path : Path)
  | openFile (path : Path)
  /-- Make a new file, and fail if there is anything already. -/
  | createFile (path : Path)
  | removeFile (path : Path)
  | makeDirectories (path : Path)
  | readFile (handle : FileSystem.Handle) (offset count : Nat)
  | readRest (handle : FileSystem.Handle) (offset : Nat)
  | appendFile (id : FileId) (bytes : Bytes)
  | closeFile (id : FileId)
deriving DecidableEq, Repr

@[reducible]
def Call.Reply : Call → Type
  | .bind _ => Except SystemError SocketAddress
  | .close _ | .closeFile _ => Unit
  | .send .. | .removeFile _ | .makeDirectories _ | .appendFile .. => Except SystemError Unit
  | .canonicalize _ => Except SystemError Location
  | .isRegularFile _ => Except SystemError Bool
  | .openFile _ => Except SystemError FileSystem.Handle
  | .createFile _ => Except SystemError FileId
  | .readFile .. | .readRest .. => Except SystemError Bytes

/-- A program that runs on a host without waiting for anything. -/
abbrev Program := Dialogue Call Call.Reply

structure Machine where
  now : Nat := 0
  files : FileSystem := {}
  network : Network := {}

namespace Machine

def withFiles {Reply : Type} (machine : Machine) (reply : Reply × FileSystem) :
    Reply × Machine :=
  (reply.1, { machine with files := reply.2 })

def withNetwork {Reply : Type} (machine : Machine) (reply : Reply × Network) :
    Reply × Machine :=
  (reply.1, { machine with network := reply.2 })

/-- Takes over the changed file system if there was no error. -/
def tryFiles {Reply : Type} (machine : Machine)
    (result : Except SystemError (Reply × FileSystem)) : Except SystemError Reply × Machine :=
  match result with
  | .ok (reply, files) => (.ok reply, { machine with files })
  | .error error => (.error error, machine)

def answer (call : Call) (machine : Machine) : call.Reply × Machine :=
  match call with
  | .bind address => machine.withNetwork (machine.network.bind address)
  | .close socket => machine.withNetwork ((), machine.network.close socket)
  | .send socket destination packet =>
    machine.withNetwork (machine.network.send machine.now socket destination packet)
  | .canonicalize path => (machine.files.canonicalize path, machine)
  | .isRegularFile path => (machine.files.isRegularFile path, machine)
  | .openFile path => (machine.files.openFile path, machine)
  | .createFile path =>
    machine.tryFiles ((machine.files.createFile path).map fun (files, id) => (id, files))
  | .removeFile path =>
    machine.tryFiles ((machine.files.removeFile path).map fun files => ((), files))
  | .makeDirectories path =>
    machine.withFiles (machine.files.makeDirectories (path.length + 1) path)
  | .readFile handle offset count => (machine.files.readFile handle offset count, machine)
  | .readRest handle offset => (machine.files.readRest handle offset, machine)
  | .appendFile id bytes => machine.withFiles (machine.files.appendFile id bytes)
  | .closeFile id => machine.withFiles ((), machine.files.closeFile id)

def run {Result : Type} (machine : Machine) (program : Program Result) : Result × Machine :=
  program.run answer machine

end Machine

namespace Program

def call (call : Call) : Program call.Reply :=
  Dialogue.question call

end Program

end Lockstep
