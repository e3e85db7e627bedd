import Lockstep.Address.Parser
import Lockstep.Failure
import Lockstep.Server.Handler

/-!
# Servers

A server listens at a well-known port and hands every datagram to a handler of its own.  Told to
stop, it closes the port at once and lets the handlers that are at work come to their ends; only
then has it finished.
-/

namespace Lockstep

/-- The most that a server takes of one datagram at its well-known port. -/
def requestBuffer : Nat := 2048

structure ServerConfig where
  bindAddress : String := "0.0.0.0:6900"
  root : Path := Path.ofText "./server_files"
  transfer : TransferConfig := {}

/-- Opens a socket at an address in written form. -/
def bindText (text : String) : Program (Except SystemError SocketAddress) :=
  match SocketAddress.ofText? text with
  | some address => Program.call (.bind address)
  | none =>
    return .error (if text.contains ':' then .invalidPort else .invalidSocketAddress)

structure Server where
  root : Path
  config : TransferConfig
  /-- The well-known port, until it is closed. -/
  listener : Option SocketAddress
  handlers : List Handler := []
  outcome : Except Failure Unit := .ok ()

namespace Server

/-- Opens the well-known port. -/
def bind (config : ServerConfig) : Program (Except Failure SocketAddress) := do
  match ← bindText config.bindAddress with
  | .error error =>
    return .error
      (.ofSystem s!"Failed to bind TFTP server socket to {config.bindAddress}" error)
  | .ok listener => return .ok listener

/-- A server at an open port.  Its transfers use the address of the port unless they are given
another one. -/
def start (config : ServerConfig) (listener : SocketAddress) : Server :=
  let transfer := config.transfer
  let localBind :=
    if transfer.localBind.isNone && !listener.ip.isUnspecified then some listener.ip
    else transfer.localBind
  { root := config.root, config := { transfer with localBind }, listener := some listener }

/-- A datagram has come in at the well-known port. -/
def dispatch (server : Server) (client : SocketAddress) (datagram : Bytes) (now since : Nat) :
    Program Server := do
  let handler? ←
    Handler.open? client (datagram.take requestBuffer) server.root server.config now since
  return { server with handlers := server.handlers ++ handler?.toList }

/-- Closes the well-known port. -/
def stop (server : Server) : Program Server := do
  match server.listener with
  | none => return server
  | some listener =>
    Program.call (.close listener)
    return { server with listener := none }

/-- Receiving at the well-known port failed. -/
def trip (server : Server) (error : SystemError) : Program Server :=
  if error.isBounce then return server
  else
    { server with outcome := .error (.ofSystem "TFTP listener receive failed" error) }.stop

/-- Something has happened to the handler whose socket is `socket`. -/
def react (server : Server) (socket : SocketAddress) (event : Session.Event) (now since : Nat) :
    Program Server := do
  let handlers ← go server.handlers
  return { server with handlers }
where
  go : List Handler → Program (List Handler)
    | [] => return []
    | handler :: rest =>
      if handler.transfer.socket = socket then do
        let handler? ← handler.react event now since
        return handler?.toList ++ rest
      else do
        let rest ← go rest
        return handler :: rest

/-- The port is closed and nothing is being served any more. -/
def hasFinished (server : Server) : Bool :=
  server.listener.isNone && server.handlers.isEmpty

end Server

end Lockstep
