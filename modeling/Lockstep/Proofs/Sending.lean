import Lockstep.Proofs.Blocks
import Lockstep.Proofs.Endpoint

/-!
# The sending end

The state of a transfer that waits for the acknowledgment of a block of a given stream, and what
each event makes of it. The position in the stream is counted without a bound; block number, packet
and supply of the session are functions of it.
-/

namespace Lockstep

open Session

namespace Session.Supply

/-- The supply will yield these bytes. -/
def Yields (supply : Supply) (stream : Stream) (rest : Bytes) : Prop :=
  match supply, stream with
  | .text given, _ => given = rest
  | .stream, .source given => given.IsReliable ∧ given.rest = rest
  | .stream, _ => False

end Session.Supply

/-- The block after `index` others, as it travels. -/
def dataPacket (wire : Bytes) (index : Nat) : Bytes :=
  Packet.encodeData (UInt16.ofNat (index + 1)) (chunk wire index)

theorem length_dataPacket_le (wire : Bytes) (index : Nat) :
    (dataPacket wire index).length ≤ maxPacketSize := by
  have hchunk := length_chunk_le wire index
  simp only [dataPacket, Packet.length_encodeData, maxPacketSize]
  omega

/-- `index` blocks of the stream are acknowledged, and the acknowledgment of one more is awaited. -/
structure Sending (endpoint : Endpoint) (wire : Bytes) (index : Nat) (transfer : Transfer) :
    Prop where
  owns : endpoint.Owns transfer
  index_lt : index < blockCount wire
  block : transfer.session.block = UInt16.ofNat (index + 1)
  outstanding : transfer.exchange.outstanding = dataPacket wire index
  summary : transfer.exchange.summary = ⟨index, blockSize * index⟩
  awaited : ∃ supply, transfer.exchange.awaited = .ack (chunk wire index).length supply ∧
    supply.Yields transfer.stream (wire.drop (blockSize * (index + 1)))

namespace Sending

variable {endpoint : Endpoint} {wire : Bytes} {index : Nat} {transfer : Transfer}

/-- A payload is sent and its acknowledgment awaited. -/
theorem run_sendPayload {session : Session} {supply : Supply} {stream : Stream}
    (howns : endpoint.Drives session) (hlt : index < blockCount wire)
    (hblock : session.block = UInt16.ofNat (index + 1))
    (hyields : supply.Yields stream (wire.drop (blockSize * (index + 1)))) (machine : Machine)
    (now since : Nat) :
    ∃ next, Sending endpoint wire index next ∧ next.exchange.attempts = 0 ∧
      next.exchange.deadline = now + endpoint.config.timeout ∧
      endpoint.Posts machine (dataPacket wire index) (.running next)
        (machine.run (Transfer.takeTurn endpoint.socket stream
          (session.sendPayload (chunk wire index) supply ⟨index, blockSize * index⟩ now)
          since)) := by
  let exchange : Exchange :=
    { outstanding := dataPacket wire index, deadline := session.deadlineFrom now,
      summary := ⟨index, blockSize * index⟩,
      awaited := .ack (chunk wire index).length supply }
  have hturn : session.sendPayload (chunk wire index) supply ⟨index, blockSize * index⟩ now =
      session.sendToPeer (dataPacket wire index) (session.await exchange) := by
    simp only [sendPayload, awaitAck, hblock, exchange]
    rfl
  refine ⟨⟨endpoint.socket, stream, session, exchange, since⟩,
    ⟨⟨rfl, howns⟩, hlt, hblock, rfl, rfl, supply, rfl, hyields⟩, rfl, ?_, ?_⟩
  · simp only [exchange, deadlineFrom, howns.config]
  · rw [hturn]
    exact Endpoint.posts_sendToPeer howns.peer machine _ (.waiting session exchange) stream since

/-- The block that is due is taken from the supply and sent. -/
theorem run_sendBlock {session : Session} {supply : Supply} {stream : Stream}
    (howns : endpoint.Drives session) (hlt : index < blockCount wire)
    (hblock : session.block = UInt16.ofNat (index + 1))
    (hyields : supply.Yields stream (wire.drop (blockSize * index))) (machine : Machine)
    (now since : Nat) :
    ∃ next, Sending endpoint wire index next ∧ next.exchange.attempts = 0 ∧
      next.exchange.deadline = now + endpoint.config.timeout ∧
      endpoint.Posts machine (dataPacket wire index) (.running next)
        (machine.run (Transfer.takeTurn endpoint.socket stream
          (session.sendBlock supply ⟨index, blockSize * index⟩ now) since)) := by
  have hdrop : (wire.drop (blockSize * index)).drop blockSize =
      wire.drop (blockSize * (index + 1)) := by
    rw [List.drop_drop, Nat.mul_succ]
  cases supply with
  | text text =>
    obtain rfl : text = wire.drop (blockSize * index) := hyields
    have hafter : (Supply.text ((wire.drop (blockSize * index)).drop blockSize)).Yields stream
        (wire.drop (blockSize * (index + 1))) := hdrop
    exact run_sendPayload howns hlt hblock hafter machine now since
  | stream =>
    cases stream with
    | source source =>
      obtain ⟨hreliable, hrest⟩ := hyields
      have hafter : Supply.stream.Yields (.source (source.skip blockSize))
          (wire.drop (blockSize * (index + 1))) :=
        ⟨hreliable.skip blockSize, by rw [Source.rest_skip, hrest, hdrop]⟩
      have hrun : machine.run (Transfer.takeTurn endpoint.socket (.source source)
            (session.sendBlock .stream ⟨index, blockSize * index⟩ now) since) =
          machine.run (Transfer.takeTurn endpoint.socket (.source (source.skip blockSize))
            (session.sendPayload (chunk wire index) .stream ⟨index, blockSize * index⟩ now)
            since) := by
        simp only [Transfer.run_takeTurn, sendBlock, Dialogue.run, Stream.reply_fill_source,
          Source.fill_of_isReliable hreliable, hrest]
        rfl
      rw [hrun]
      exact run_sendPayload howns hlt hblock hafter machine now since
    | sink _ => exact hyields.elim
    | reader _ => exact hyields.elim
    | writer _ => exact hyields.elim

/-- A source that yields everything is sent from its first block on. -/
theorem run_start (endpoint : Endpoint) {source : Source} (hreliable : source.IsReliable)
    (machine : Machine) (now since : Nat) :
    ∃ next, Sending endpoint (endpoint.mode.wire source.rest) 0 next ∧
      next.exchange.attempts = 0 ∧ next.exchange.deadline = now + endpoint.config.timeout ∧
      endpoint.Posts machine (dataPacket (endpoint.mode.wire source.rest) 0) (.running next)
        (machine.run (Activity.Run.start (.send none source) endpoint.socket endpoint.session now
          since)) := by
  have hdrives : endpoint.Drives { endpoint.session with stage := .transferring } :=
    ⟨rfl, rfl, rfl, rfl, rfl⟩
  have hlt : 0 < blockCount (endpoint.mode.wire source.rest) := Nat.succ_pos _
  cases hmode : endpoint.mode with
  | octet =>
    have hturn : endpoint.session.send none now =
        { endpoint.session with stage := .transferring }.sendBlock .stream ⟨0, blockSize * 0⟩
          now := by
      simp only [send, beginSending, Endpoint.session, Session.accepted, hmode]
      rfl
    have hyields : Supply.stream.Yields (.source source)
        ((Mode.octet.wire source.rest).drop (blockSize * 0)) := ⟨hreliable, rfl⟩
    rw [hmode] at hlt
    rw [Activity.Run.start, hturn]
    exact run_sendBlock hdrives hlt rfl hyields machine now since
  | netascii =>
    rw [hmode] at hlt
    have hturn : machine.run (Activity.Run.start (.send none source) endpoint.socket endpoint.session now
          since) =
        machine.run (Transfer.takeTurn endpoint.socket (.source source.drain.2)
          ({ endpoint.session with stage := .transferring }.sendBlock
            (.text (Netascii.encode source.rest)) ⟨0, blockSize * 0⟩ now) since) := by
      simp only [Activity.Run.start, send, beginSending, Endpoint.session, Session.accepted, hmode,
        Transfer.run_takeTurn, Dialogue.run, Stream.reply_drain_source,
        Source.drain_of_isReliable hreliable]
      rfl
    have hyields : (Supply.text (Netascii.encode source.rest)).Yields (.source source.drain.2)
        ((Mode.netascii.wire source.rest).drop (blockSize * 0)) := rfl
    rw [hturn]
    exact run_sendBlock hdrives hlt rfl hyields machine now since

/-- The clock and the count of the timeouts do not matter for what is being sent. -/
theorem retimed (h : Sending endpoint wire index transfer) (attempts deadline since : Nat) :
    Sending endpoint wire index (transfer.retimed attempts deadline since) :=
  ⟨⟨h.owns.socket, h.owns.drives⟩, h.index_lt, h.block, h.outstanding, h.summary, h.awaited⟩

/-- The awaited acknowledgment takes the session to what follows the block. -/
theorem react_awaited (h : Sending endpoint wire index transfer) {supply : Supply}
    (hawaited : transfer.exchange.awaited = .ack (chunk wire index).length supply) (now : Nat) :
    transfer.session.react transfer.exchange
        (.arrival endpoint.peer (ackPacket (index + 1))) now =
      transfer.session.advance (chunk wire index).length supply transfer.exchange.summary now := by
  calc
    _ = transfer.session.read transfer.exchange (Packet.encodeAck transfer.session.block) now := by
      rw [← h.owns.drives.peer, react_peer h.owns.drives.bound, ackPacket, h.block]
    _ = transfer.session.take transfer.exchange (.ack transfer.session.block) now :=
      read_encodeAck _
    _ = _ := take_ack_current hawaited

/-- The awaited acknowledgment has the next block sent. -/
theorem run_acknowledged (h : Sending endpoint wire index transfer)
    (hmore : index + 1 < blockCount wire) (machine : Machine) (now since : Nat) :
    ∃ next, Sending endpoint wire (index + 1) next ∧ next.exchange.attempts = 0 ∧
      next.exchange.deadline = now + endpoint.config.timeout ∧
      endpoint.Posts machine (dataPacket wire (index + 1)) (.running next)
        (machine.run (transfer.react (.arrival endpoint.peer (ackPacket (index + 1))) now
          since)) := by
  obtain ⟨supply, hawaited, hyields⟩ := h.awaited
  have hlength := length_chunk_of_lt hmore
  have hadvance : transfer.session.react transfer.exchange
        (.arrival endpoint.peer (ackPacket (index + 1))) now =
      { transfer.session with block := transfer.session.block + 1 }.sendBlock supply
        ⟨index + 1, blockSize * (index + 1)⟩ now := by
    rw [h.react_awaited hawaited, advance, hlength, if_neg (Nat.lt_irrefl _), h.summary,
      Summary.add, Nat.mul_succ]
  rw [Transfer.run_react, received_ackPacket, hadvance, h.owns.socket]
  have hdrives : endpoint.Drives { transfer.session with block := transfer.session.block + 1 } :=
    ⟨h.owns.drives.peer, h.owns.drives.bound, h.owns.drives.mode, h.owns.drives.config,
      h.owns.drives.stage⟩
  have hblock : transfer.session.block + 1 = UInt16.ofNat (index + 1 + 1) := by
    rw [h.block, BlockNumber.ofNat_succ (index + 1)]
  exact run_sendBlock hdrives hmore hblock hyields machine now since

/-- The acknowledgment of the last block completes the transfer. -/
theorem run_acknowledged_last (h : Sending endpoint wire index transfer)
    (hlast : index + 1 = blockCount wire) (machine : Machine) (now since : Nat) :
    ∃ session, session.stage = .completed ∧
      machine.run (transfer.react (.arrival endpoint.peer (ackPacket (index + 1))) now since) =
        (.ended session transfer.stream (.ok ⟨blockCount wire, wire.length⟩), machine) := by
  obtain ⟨supply, hawaited, -⟩ := h.awaited
  have hshort : (chunk wire index).length < blockSize := length_chunk_lt_iff.mpr (by omega)
  have hadvance : transfer.session.react transfer.exchange
        (.arrival endpoint.peer (ackPacket (index + 1))) now =
      transfer.session.complete ⟨blockCount wire, wire.length⟩ := by
    rw [h.react_awaited hawaited, advance, if_pos hshort, h.summary, Summary.add,
      length_before_last hlast, hlast]
  refine ⟨{ transfer.session with stage := .completed }, rfl, ?_⟩
  rw [Transfer.run_react, received_ackPacket, hadvance]
  rfl

/-- An old acknowledgment changes nothing. -/
theorem run_acknowledged_stale (h : Sending endpoint wire index transfer) {number : Nat}
    (hle : number ≤ index) (hwindow : index + 1 < number + 32768) (machine : Machine)
    (now since : Nat) :
    machine.run (transfer.react (.arrival endpoint.peer (ackPacket number)) now since) =
      (.running { transfer with since }, machine) := by
  obtain ⟨supply, hawaited, -⟩ := h.awaited
  have hne : UInt16.ofNat number ≠ transfer.session.block := by
    rw [h.block, ne_eq, BlockNumber.ofNat_eq_iff hwindow (by omega)]
    omega
  have hstale : BlockNumber.isStale (UInt16.ofNat number) transfer.session.block = true := by
    rw [h.block, BlockNumber.isStale_ofNat hwindow (by omega), decide_eq_true_eq]
    omega
  rw [Transfer.run_react, received_ackPacket, ← h.owns.drives.peer,
    react_peer h.owns.drives.bound, ackPacket, read_encodeAck,
    take_ack_stale hawaited hne hstale]
  rfl

end Sending

end Lockstep
