import Lockstep.Proofs.Execution
import Lockstep.Proofs.Reading
import Lockstep.Proofs.Translation

/-!
# Reactions of a bound session

What a session whose peer is bound does about each kind of event, as an equation between turns. The
later modules use these equations and do not look into the reactions themselves.
-/

namespace Lockstep.Session

variable {session : Session} {exchange : Exchange} {now : Nat}

/-! ## Events -/

theorem react_peer (hbound : session.bound = true) (datagram : Bytes) :
    session.react exchange (.arrival session.peer datagram) now =
      session.read exchange datagram now := by
  simp only [react, arrive, admit?, hbound, if_true]

/-- A stranger is told that it is one; nothing else happens. -/
theorem react_stranger (hbound : session.bound = true) {source : SocketAddress}
    (hsource : source ≠ session.peer) (datagram : Bytes) :
    session.react exchange (.arrival source datagram) now =
      notify source .unknownTransferId ErrorCode.unknownTransferId.defaultMessage
        (session.await exchange) := by
  simp only [react, arrive, admit?, hbound, if_true, hsource, if_false]

theorem read_encodeData {block : BlockNumber} {payload : Bytes}
    (h : payload.length ≤ blockSize) :
    session.read exchange (Packet.encodeData block payload) now =
      session.take exchange (.data block payload) now := by
  simp only [read, Packet.decode_encodeData h]

theorem read_encodeAck (block : BlockNumber) :
    session.read exchange (Packet.encodeAck block) now =
      session.take exchange (.ack block) now := by
  simp only [read, Packet.decode_encodeAck]

/-! ## Blocks -/

theorem take_data_current {decoder : Netascii.Decoder} (hawaited : exchange.awaited = .data decoder)
    (payload : Bytes) :
    session.take exchange (.data session.block payload) now =
      session.takePayload payload decoder exchange.summary now := by
  simp only [take, hawaited, takeData, if_true]

/-- An old block repeats the packet that was sent last. -/
theorem take_data_stale {decoder : Netascii.Decoder} (hawaited : exchange.awaited = .data decoder)
    {block : BlockNumber} (hne : block ≠ session.block)
    (hstale : block.isStale session.block = true) (payload : Bytes) :
    session.take exchange (.data block payload) now =
      session.sendToPeer exchange.outstanding (session.await exchange) := by
  simp only [take, hawaited, takeData, hne, hstale, if_false, if_true]

/-- The session goes on when everything that was written is stored. -/
def flush (session : Session) (next : Turn Progress) : Turn Progress :=
  .ask .flush fun
    | .ok () => next
    | .error error => session.abandon .writing error

theorem takePayload_eq (payload : Bytes) (decoder : Netascii.Decoder) (summary : Summary) :
    session.takePayload payload decoder summary now =
      let settled := session.mode.readMore decoder payload
      let acknowledged := session.acknowledge payload.length settled.2 summary now
      session.store settled.1
        (if Packet.isLastPayload payload then
          session.store settled.2.finish.1 (session.flush acknowledged)
         else acknowledged) := by
  unfold takePayload Mode.readMore
  cases session.mode <;> rfl

/-! ## Acknowledgments -/

theorem take_ack_current {length : Nat} {supply : Supply}
    (hawaited : exchange.awaited = .ack length supply) :
    session.take exchange (.ack session.block) now =
      session.advance length supply exchange.summary now := by
  simp only [take, hawaited, takeAck, if_true]

theorem take_ack_stale {length : Nat} {supply : Supply}
    (hawaited : exchange.awaited = .ack length supply) {block : BlockNumber}
    (hne : block ≠ session.block) (hstale : block.isStale session.block = true) :
    session.take exchange (.ack block) now = session.await exchange := by
  simp only [take, hawaited, takeAck, hne, hstale, if_false, if_true]

end Lockstep.Session
