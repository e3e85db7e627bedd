import Lockstep.Dialogue
import Lockstep.Netascii
import Lockstep.Packet.Codec
import Lockstep.Session

/-!
# Turns

What a session does from one wait to the next.  A session waits for a datagram until a deadline;
when something happens it takes a turn, in which it sends packets and uses its stream, and then
waits again or has ended.  Sending and the stream are questions that a turn asks, so a turn is a
finite tree that covers every answer; no time passes during a turn.

Each wait is for one packet, which is either a block or the acknowledgment of the packet that was
sent last.  That packet is what a timeout repeats.  Old duplicates and packets of strangers leave
the deadline as it is.
-/

namespace Lockstep

namespace Session

/-! ## Questions -/

inductive Question where
  | send (destination : SocketAddress) (packet : Bytes)
  /-- Hand bytes to the stream. -/
  | write (chunk : Bytes)
  /-- Have the stream store everything that was handed to it. -/
  | flush
  /-- Take this many bytes from the stream, fewer only at its end. -/
  | fill (count : Nat)
  /-- Take everything that is left in the stream. -/
  | drain
deriving DecidableEq, Repr

@[reducible]
def Answer : Question → Type
  | .send _ _ | .write _ | .flush => Except SystemError Unit
  | .fill _ | .drain => Except SystemError Bytes

abbrev Turn := Dialogue Question Answer

/-! ## Waiting -/

/-- Where the payloads of the blocks to come are taken from. -/
inductive Supply where
  /-- From the stream, one at a time. -/
  | stream
  /-- From a text that was read and converted as a whole. -/
  | text (rest : Bytes)
deriving DecidableEq, Repr

/-- The packet a session waits for. -/
inductive Awaited where
  /-- The next block. -/
  | data (decoder : Netascii.Decoder)
  /-- The acknowledgment of a request to write. -/
  | acceptance
  /-- The acknowledgment of the current block, whose payload has the given length. -/
  | ack (length : Nat) (supply : Supply)
deriving DecidableEq, Repr

structure Exchange where
  /-- The packet that a timeout repeats. -/
  outstanding : Bytes
  deadline : Nat
  /-- The timeouts since the wait began. -/
  attempts : Nat := 0
  summary : Summary
  awaited : Awaited
deriving DecidableEq, Repr

/-- What a turn leads to. -/
inductive Progress where
  | waiting (session : Session) (exchange : Exchange)
  | ended (session : Session) (result : Except TransferError Summary)

/-! ## Ends -/

def fail (session : Session) (error : TransferError) : Turn Progress :=
  .done (.ended { session with stage := .failed } (.error error))

def complete (session : Session) (summary : Summary) : Turn Progress :=
  .done (.ended { session with stage := .completed } (.ok summary))

def await (session : Session) (exchange : Exchange) : Turn Progress :=
  .done (.waiting session exchange)

/-- Sends a packet that the transfer cannot do without. -/
def sendToPeer (session : Session) (packet : Bytes) (next : Turn Progress) : Turn Progress :=
  .ask (.send session.peer packet) fun
    | .ok () => next
    | .error error => session.fail (.socket error)

/-- Sends an error notice; it does not matter whether that succeeds. -/
def notify (destination : SocketAddress) (code : ErrorCode) (message : String)
    (next : Turn Progress) : Turn Progress :=
  .ask (.send destination (Packet.encodeError code.number message)) fun _ => next

/-- The peer broke the rules. -/
def reject (session : Session) (reason : String) : Turn Progress :=
  notify session.peer .illegalOperation reason (session.fail (.protocol reason))

/-- The local stream failed. -/
def abandon (session : Session) (use : SystemError.Use) (error : SystemError) : Turn Progress :=
  notify session.peer (error.code use) (error.code use).defaultMessage
    (session.fail (.stream (error.code use) error))

def deadlineFrom (session : Session) (now : Nat) : Nat :=
  now + session.config.timeout

/-! ## Sending -/

/-- Sends a packet and waits for its acknowledgment. -/
def awaitAck (session : Session) (packet : Bytes) (awaited : Awaited) (summary : Summary)
    (now : Nat) : Turn Progress :=
  session.sendToPeer packet
    (session.await
      { outstanding := packet, deadline := session.deadlineFrom now, summary, awaited })

def sendPayload (session : Session) (payload : Bytes) (supply : Supply) (summary : Summary)
    (now : Nat) : Turn Progress :=
  session.awaitAck (Packet.encodeData session.block payload) (.ack payload.length supply) summary
    now

/-- Sends the current block.  A source that ends with a full block is followed by an empty one. -/
def sendBlock (session : Session) (supply : Supply) (summary : Summary) (now : Nat) :
    Turn Progress :=
  match supply with
  | .stream => .ask (.fill blockSize) fun
    | .ok payload => session.sendPayload payload .stream summary now
    | .error error => session.abandon .reading error
  | .text rest =>
    session.sendPayload (rest.take blockSize) (.text (rest.drop blockSize)) summary now

/-- Sends the first block. -/
def beginSending (session : Session) (now : Nat) : Turn Progress :=
  let session := { session with stage := .transferring }
  match session.mode with
  | .octet => session.sendBlock .stream {} now
  | .netascii => .ask .drain fun
    | .ok raw => session.sendBlock (.text (Netascii.encode raw)) {} now
    | .error error => session.abandon .reading error

/-- Starts to send the stream, after the acceptance of `opening?` if there is such a request. -/
def send (session : Session) (opening? : Option Bytes) (now : Nat) : Turn Progress :=
  match opening? with
  | some request => { session with stage := .requestSent }.awaitAck request .acceptance {} now
  | none => session.beginSending now

/-- The current block, of the given length, has arrived. -/
def advance (session : Session) (length : Nat) (supply : Supply) (summary : Summary) (now : Nat) :
    Turn Progress :=
  if length < blockSize then session.complete (summary.add length)
  else { session with block := session.block + 1 }.sendBlock supply (summary.add length) now

/-! ## Receiving -/

/-- Starts to receive into the stream.  `opening` is sent until the first block arrives. -/
def receive (session : Session) (opening : Bytes) (now : Nat) : Turn Progress :=
  session.sendToPeer opening
    ({ session with stage := if session.bound then .transferring else .requestSent }.await
      { outstanding := opening, deadline := session.deadlineFrom now, summary := {},
        awaited := .data {} })

/-- The current block is stored; acknowledges it. -/
def acknowledge (session : Session) (length : Nat) (decoder : Netascii.Decoder)
    (summary : Summary) (now : Nat) : Turn Progress :=
  let packet := Packet.encodeAck session.block
  session.sendToPeer packet
    (let session := { session with block := session.block + 1, stage := .transferring }
     if length < blockSize then session.complete (summary.add length)
     else session.await
      { outstanding := packet, deadline := session.deadlineFrom now,
        summary := summary.add length, awaited := .data decoder })

/-- Writes to the stream and goes on if that succeeds. -/
def store (session : Session) (chunk : Bytes) (next : Turn Progress) : Turn Progress :=
  .ask (.write chunk) fun
    | .ok () => next
    | .error error => session.abandon .writing error

/-- Takes the current block.  Everything is stored before the last one is acknowledged. -/
def takePayload (session : Session) (payload : Bytes) (decoder : Netascii.Decoder)
    (summary : Summary) (now : Nat) : Turn Progress :=
  let (chunk, decoder) := match session.mode with
    | .octet => (payload, decoder)
    | .netascii => decoder.feed payload
  let acknowledged := session.acknowledge payload.length decoder summary now
  session.store chunk
    (if Packet.isLastPayload payload then
      session.store decoder.finish.1
        (.ask .flush fun
          | .ok () => acknowledged
          | .error error => session.abandon .writing error)
     else acknowledged)

/-! ## Reactions -/

/-- The peer sent something else than the awaited block. -/
def unexpectedData (session : Session) (packet : Packet) : Turn Progress :=
  match packet with
  | .data block _ =>
    session.reject s!"expected DATA #{session.block.toNat}, got #{block.toNat}"
  | other => session.reject s!"expected DATA #{session.block.toNat}, got {other.opcode.name}"

def takeData (session : Session) (exchange : Exchange) (decoder : Netascii.Decoder)
    (packet : Packet) (now : Nat) : Turn Progress :=
  match packet with
  | .data block payload =>
    if block = session.block then session.takePayload payload decoder exchange.summary now
    else if block.isStale session.block then
      session.sendToPeer exchange.outstanding (session.await exchange)
    else session.unexpectedData packet
  | _ => session.unexpectedData packet

/-- Takes an acknowledgment of block `expected`; older ones are overlooked. -/
def takeAck (session : Session) (exchange : Exchange) (expected : BlockNumber) (packet : Packet)
    (next : Turn Progress) : Turn Progress :=
  match packet with
  | .ack block =>
    if block = expected then next
    else if block.isStale expected then session.await exchange
    else session.reject s!"expected ACK #{expected.toNat}, got #{block.toNat}"
  | other => session.reject s!"expected ACK #{expected.toNat}, got {other.opcode.name}"

/-- A packet of the peer that is not an error notice. -/
def take (session : Session) (exchange : Exchange) (packet : Packet) (now : Nat) :
    Turn Progress :=
  match exchange.awaited with
  | .data decoder => session.takeData exchange decoder packet now
  | .acceptance => session.takeAck exchange 0 packet (session.beginSending now)
  | .ack length supply =>
    session.takeAck exchange session.block packet
      (session.advance length supply exchange.summary now)

/-- A datagram of the peer. -/
def read (session : Session) (exchange : Exchange) (datagram : Bytes) (now : Nat) :
    Turn Progress :=
  match Packet.decode datagram with
  | .error error => session.reject error.message
  | .ok (.error notice) =>
    if notice.code = .unknownTransferId then session.await exchange
    else session.fail (.peer notice)
  | .ok packet => session.take exchange packet now

/-- A datagram of anybody; strangers are told that they are. -/
def arrive (session : Session) (exchange : Exchange) (source : SocketAddress) (datagram : Bytes)
    (now : Nat) : Turn Progress :=
  match session.admit? source with
  | none =>
    notify source .unknownTransferId ErrorCode.unknownTransferId.defaultMessage
      (session.await exchange)
  | some session => session.read exchange datagram now

/-- The deadline has come. -/
def expire (session : Session) (exchange : Exchange) (now : Nat) : Turn Progress :=
  let attempts := exchange.attempts + 1
  if attempts ≥ session.retryBudget then session.fail (.timeout attempts)
  else session.sendToPeer exchange.outstanding
    (session.await { exchange with attempts, deadline := session.deadlineFrom now })

/-- Receiving failed. -/
def trip (session : Session) (exchange : Exchange) (error : SystemError) : Turn Progress :=
  if error.isBounce then session.await exchange else session.fail (.socket error)

/-- What can happen to a session that waits. -/
inductive Event where
  | arrival (source : SocketAddress) (datagram : Bytes)
  | receiveError (error : SystemError)
  | expiry
deriving DecidableEq, Repr

def react (session : Session) (exchange : Exchange) (event : Event) (now : Nat) : Turn Progress :=
  match event with
  | .arrival source datagram => session.arrive exchange source datagram now
  | .receiveError error => session.trip exchange error
  | .expiry => session.expire exchange now

end Session

end Lockstep
