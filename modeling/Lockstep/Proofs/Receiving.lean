import Lockstep.Proofs.Sending

/-!
# The receiving end

The state of a transfer that waits for a block of the stream of a given file, and what each event
makes of it. The sink holds what the blocks so far settle of the file. The last block leads to the
completed transfer only after everything was stored and the acknowledgment has left.
-/

namespace Lockstep

open Session

/-- `index` blocks of the file's stream are stored, and one more is awaited. -/
structure Receiving (endpoint : Endpoint) (content : Bytes) (index : Nat) (transfer : Transfer) :
    Prop where
  owns : endpoint.Owns transfer
  index_lt : index < blockCount (endpoint.mode.wire content)
  block : transfer.session.block = UInt16.ofNat (index + 1)
  outstanding : transfer.exchange.outstanding = ackPacket index
  summary : transfer.exchange.summary = ⟨index, blockSize * index⟩
  awaited : transfer.exchange.awaited =
    .data (endpoint.mode.read ((endpoint.mode.wire content).take (blockSize * index))).2
  stream : ∃ sink, transfer.stream = .sink sink ∧
    sink.written.toBytes =
      (endpoint.mode.read ((endpoint.mode.wire content).take (blockSize * index))).1 ∧
    sink.HasRoom (content.length - sink.written.toBytes.length)

namespace Receiving

variable {endpoint : Endpoint} {content : Bytes} {index : Nat} {transfer : Transfer}

/-- A sink with nothing in it awaits the first block. -/
theorem run_start (endpoint : Endpoint) {sink : Sink} (hempty : sink.written.toBytes = [])
    (hroom : sink.HasRoom content.length) (machine : Machine) (now since : Nat) :
    ∃ next, Receiving endpoint content 0 next ∧ next.exchange.attempts = 0 ∧
      next.exchange.deadline = now + endpoint.config.timeout ∧
      endpoint.Posts machine (ackPacket 0) (.running next)
        (machine.run (Activity.Run.start (.receive (Packet.encodeAck 0) sink) endpoint.socket
          endpoint.session now since)) := by
  let exchange : Exchange :=
    { outstanding := ackPacket 0, deadline := now + endpoint.config.timeout,
      summary := ⟨0, blockSize * 0⟩, awaited := .data {} }
  have hread : endpoint.mode.read
      ((endpoint.mode.wire content).take (blockSize * 0)) = ([], {}) := by
    rw [Nat.mul_zero, List.take_zero, Mode.read_nil]
  refine ⟨⟨endpoint.socket, .sink sink, { endpoint.session with stage := .transferring }, exchange,
    since⟩, ⟨⟨rfl, rfl, rfl, rfl, rfl, rfl⟩, Nat.succ_pos _, rfl, rfl, rfl, ?_, sink, rfl, ?_, ?_⟩,
    rfl, rfl, ?_⟩
  · rw [hread]
  · rw [hread, hempty]
  · rw [hempty, List.length_nil, Nat.sub_zero]
    exact hroom
  · exact Endpoint.posts_sendToPeer rfl machine _
      (.waiting { endpoint.session with stage := .transferring } exchange) _ since

/-- The clock and the count of the timeouts do not matter for what was received. -/
theorem retimed (h : Receiving endpoint content index transfer) (attempts deadline since : Nat) :
    Receiving endpoint content index (transfer.retimed attempts deadline since) :=
  ⟨⟨h.owns.socket, h.owns.drives⟩, h.index_lt, h.block, h.outstanding, h.summary, h.awaited,
    h.stream⟩

/-- What is in the sink is the beginning of the file. -/
theorem written_prefix (h : Receiving endpoint content index transfer) :
    ∃ sink, transfer.stream = .sink sink ∧ sink.written.toBytes <+: content := by
  obtain ⟨sink, hstream, hwritten, -⟩ := h.stream
  exact ⟨sink, hstream, by rw [hwritten]; exact Mode.read_take_prefix _ _ _⟩

/-- Old blocks have the last acknowledgment sent again. -/
theorem run_stale (h : Receiving endpoint content index transfer) {number : Nat} {payload : Bytes}
    (hpayload : payload.length ≤ blockSize) (hle : number ≤ index)
    (hwindow : index + 1 < number + 32768) (machine : Machine) (now since : Nat) :
    endpoint.Posts machine (ackPacket index) (.running { transfer with since })
      (machine.run (transfer.react (.arrival endpoint.peer
        (Packet.encodeData (UInt16.ofNat number) payload)) now since)) := by
  have hne : UInt16.ofNat number ≠ transfer.session.block := by
    rw [h.block, ne_eq, BlockNumber.ofNat_eq_iff hwindow (by omega)]
    omega
  have hstale : BlockNumber.isStale (UInt16.ofNat number) transfer.session.block = true := by
    rw [h.block, BlockNumber.isStale_ofNat hwindow (by omega), decide_eq_true_eq]
    omega
  have hturn : transfer.session.react transfer.exchange
        (.arrival endpoint.peer (Packet.encodeData (UInt16.ofNat number) payload)) now =
      transfer.session.sendToPeer (ackPacket index) (transfer.session.await transfer.exchange) := by
    rw [← h.owns.drives.peer, react_peer h.owns.drives.bound, read_encodeData hpayload,
      take_data_stale h.awaited hne hstale, h.outstanding]
  have hcourse : Course.running { transfer with since } =
      (Session.Progress.waiting transfer.session transfer.exchange).course endpoint.socket since
        transfer.stream := by
    rw [← h.owns.socket]
    rfl
  rw [hcourse, Transfer.run_react, Transfer.received_encodeData hpayload, hturn, h.owns.socket]
  exact Endpoint.posts_sendToPeer h.owns.drives.peer machine _ _ _ _

/-- A sink with room for a piece has the turn go on behind it. -/
theorem run_store (session : Session) {sink : Sink} {piece : Bytes}
    (hroom : sink.HasRoom piece.length) (next : Session.Turn Progress) (socket : SocketAddress)
    (machine : Machine) :
    (session.store piece next).run (Stream.reply socket) (.sink sink, machine) =
      next.run (Stream.reply socket) (.sink (sink.after piece), machine) := by
  simp only [store, Dialogue.run, Stream.reply_write_sink, Sink.write_of_hasRoom hroom]

theorem run_flush (session : Session) {sink : Sink} (hroom : sink.HasRoom 0)
    (next : Session.Turn Progress) (socket : SocketAddress) (machine : Machine) :
    (session.flush next).run (Stream.reply socket) (.sink sink, machine) =
      next.run (Stream.reply socket)
        (.sink { sink with flushes := sink.flushes + 1 }, machine) := by
  simp only [flush, Dialogue.run, Stream.reply_flush_sink, Sink.flush_of_hasRoom hroom]

/-- What the block that is due settles of the file, and the decoder behind it. -/
def settled (endpoint : Endpoint) (content : Bytes) (index : Nat) : Bytes × Netascii.Decoder :=
  endpoint.mode.readMore
    (endpoint.mode.read ((endpoint.mode.wire content).take (blockSize * index))).2
    (chunk (endpoint.mode.wire content) index)

theorem read_chunk (endpoint : Endpoint) (content : Bytes) (index : Nat) :
    endpoint.mode.read ((endpoint.mode.wire content).take (blockSize * (index + 1))) =
      ((endpoint.mode.read ((endpoint.mode.wire content).take (blockSize * index))).1 ++
          (settled endpoint content index).1,
        (settled endpoint content index).2) := by
  rw [← take_append_chunk, Mode.read_append]
  rfl

/-- With the last block the whole file is settled. -/
theorem read_append_settled_last (hlast : index + 1 = blockCount (endpoint.mode.wire content)) :
    (endpoint.mode.read ((endpoint.mode.wire content).take (blockSize * index))).1 ++
        (settled endpoint content index).1 = content ∧
      (settled endpoint content index).2 = {} := by
  have hread := read_chunk endpoint content index
  rw [hlast, take_blockCount, Mode.read_wire, Prod.mk.injEq] at hread
  exact ⟨hread.1.symm, hread.2.symm⟩

/-- The reaction to the awaited block. -/
theorem run_current_eq (h : Receiving endpoint content index transfer) (machine : Machine)
    (now since : Nat) :
    machine.run (transfer.react (.arrival endpoint.peer
        (dataPacket (endpoint.mode.wire content) index)) now since) =
      machine.run (Transfer.takeTurn endpoint.socket transfer.stream
        (transfer.session.takePayload (chunk (endpoint.mode.wire content) index)
          (endpoint.mode.read ((endpoint.mode.wire content).take (blockSize * index))).2
          ⟨index, blockSize * index⟩ now) since) := by
  have hle := length_chunk_le (endpoint.mode.wire content) index
  have hturn : transfer.session.react transfer.exchange
        (.arrival endpoint.peer (dataPacket (endpoint.mode.wire content) index)) now =
      transfer.session.takePayload (chunk (endpoint.mode.wire content) index)
        (endpoint.mode.read ((endpoint.mode.wire content).take (blockSize * index))).2
        ⟨index, blockSize * index⟩ now := by
    rw [← h.owns.drives.peer, react_peer h.owns.drives.bound, dataPacket, read_encodeData hle,
      ← h.block, take_data_current h.awaited, h.summary]
  rw [Transfer.run_react, dataPacket, Transfer.received_encodeData hle, ← dataPacket, hturn,
    h.owns.socket]

/-- After a full block the next one is awaited. -/
theorem acknowledge_full (h : Receiving endpoint content index transfer)
    (decoder : Netascii.Decoder) (now : Nat) :
    transfer.session.acknowledge blockSize decoder ⟨index, blockSize * index⟩ now =
      transfer.session.sendToPeer (ackPacket (index + 1)) (.done (.waiting
        { transfer.session with block := transfer.session.block + 1, stage := .transferring }
        { outstanding := ackPacket (index + 1)
          deadline := transfer.session.deadlineFrom now
          summary := ⟨index + 1, blockSize * (index + 1)⟩
          awaited := .data decoder })) := by
  simp only [acknowledge, Nat.lt_irrefl, if_false, ackPacket, ← h.block]
  rfl

/-- After the last one the transfer is completed. -/
theorem acknowledge_last (h : Receiving endpoint content index transfer)
    (hlast : index + 1 = blockCount (endpoint.mode.wire content)) (decoder : Netascii.Decoder)
    (now : Nat) :
    transfer.session.acknowledge (chunk (endpoint.mode.wire content) index).length decoder
        ⟨index, blockSize * index⟩ now =
      transfer.session.sendToPeer (ackPacket (index + 1)) (.done (.ended
        { transfer.session with block := transfer.session.block + 1, stage := .completed }
        (.ok ⟨index + 1, (endpoint.mode.wire content).length⟩))) := by
  have hshort : (chunk (endpoint.mode.wire content) index).length < blockSize :=
    length_chunk_lt_iff.mpr (by omega)
  simp only [acknowledge, hshort, if_true, ackPacket, ← h.block, Summary.add,
    length_before_last hlast]
  rfl

/-- If there is room for what it settles, a full block is stored before it is acknowledged. -/
theorem run_full_eq (h : Receiving endpoint content index transfer)
    (hmore : index + 1 < blockCount (endpoint.mode.wire content)) {sink : Sink}
    (hstream : transfer.stream = .sink sink)
    (hroom : sink.HasRoom (settled endpoint content index).1.length) (machine : Machine)
    (now since : Nat) :
    machine.run (transfer.react (.arrival endpoint.peer
        (dataPacket (endpoint.mode.wire content) index)) now since) =
      machine.run (Transfer.takeTurn endpoint.socket
        (.sink (sink.after (settled endpoint content index).1))
        (transfer.session.acknowledge blockSize (settled endpoint content index).2
          ⟨index, blockSize * index⟩ now) since) := by
  rw [h.run_current_eq, hstream]
  apply Transfer.run_takeTurn_congr
  calc
    _ = (transfer.session.store (settled endpoint content index).1
          (transfer.session.acknowledge blockSize (settled endpoint content index).2
            ⟨index, blockSize * index⟩ now)).run
              (Stream.reply endpoint.socket) (.sink sink, machine) := by
      rw [takePayload_eq, h.owns.drives.mode, isLastPayload_chunk,
        decide_eq_false (Nat.not_le.mpr hmore), length_chunk_of_lt hmore]
      rfl
    _ = _ := run_store _ hroom _ _ _

/-- The last block is stored, the decoder has nothing left, and the sink is flushed before the
block is acknowledged. -/
theorem run_last_eq (h : Receiving endpoint content index transfer)
    (hlast : index + 1 = blockCount (endpoint.mode.wire content)) {sink : Sink}
    (hstream : transfer.stream = .sink sink)
    (hroom : sink.HasRoom ((settled endpoint content index).1.length + 0)) (machine : Machine)
    (now since : Nat) :
    let stored := (sink.after (settled endpoint content index).1).after []
    machine.run (transfer.react (.arrival endpoint.peer
        (dataPacket (endpoint.mode.wire content) index)) now since) =
      machine.run (Transfer.takeTurn endpoint.socket
        (.sink { stored with flushes := stored.flushes + 1 })
        (transfer.session.acknowledge (chunk (endpoint.mode.wire content) index).length {}
          ⟨index, blockSize * index⟩ now) since) := by
  intro stored
  have hafter : (sink.after (settled endpoint content index).1).HasRoom 0 := Sink.HasRoom.after hroom
  have hstored : stored.HasRoom 0 := Sink.HasRoom.after hafter
  rw [h.run_current_eq, hstream]
  apply Transfer.run_takeTurn_congr
  let acknowledged := transfer.session.acknowledge
    (chunk (endpoint.mode.wire content) index).length {} ⟨index, blockSize * index⟩ now
  calc
    _ = (transfer.session.store (settled endpoint content index).1
          (transfer.session.store [] (transfer.session.flush acknowledged))).run
            (Stream.reply endpoint.socket) (.sink sink, machine) := by
      have hdecoder := (read_append_settled_last hlast).2
      unfold settled at hdecoder
      rw [takePayload_eq, h.owns.drives.mode, isLastPayload_chunk, decide_eq_true (by omega)]
      simp only [hdecoder]
      rfl
    _ = (transfer.session.store [] (transfer.session.flush acknowledged)).run
          (Stream.reply endpoint.socket)
            (.sink (sink.after (settled endpoint content index).1), machine) :=
      run_store _ hroom _ _ _
    _ = (transfer.session.flush acknowledged).run (Stream.reply endpoint.socket)
          (.sink stored, machine) := run_store _ hafter _ _ _
    _ = _ := run_flush _ hstored _ _ _

/-- A full block is stored and acknowledged. -/
theorem run_current (h : Receiving endpoint content index transfer)
    (hmore : index + 1 < blockCount (endpoint.mode.wire content)) (machine : Machine)
    (now since : Nat) :
    ∃ next, Receiving endpoint content (index + 1) next ∧ next.exchange.attempts = 0 ∧
      next.exchange.deadline = now + endpoint.config.timeout ∧
      endpoint.Posts machine (ackPacket (index + 1)) (.running next)
        (machine.run (transfer.react (.arrival endpoint.peer
          (dataPacket (endpoint.mode.wire content) index)) now since)) := by
  obtain ⟨sink, hstream, hwritten, hroom⟩ := h.stream
  have hread := read_chunk endpoint content index
  have hprefix : sink.written.toBytes.length + (settled endpoint content index).1.length ≤
      content.length := by
    calc
      _ = (endpoint.mode.read
            ((endpoint.mode.wire content).take (blockSize * (index + 1)))).1.length := by
        rw [hread, List.length_append, hwritten]
      _ ≤ content.length :=
        (endpoint.mode.read_take_prefix content (blockSize * (index + 1))).length_le
  let session : Session :=
    { transfer.session with block := transfer.session.block + 1, stage := .transferring }
  let exchange : Exchange :=
    { outstanding := ackPacket (index + 1), deadline := transfer.session.deadlineFrom now,
      summary := ⟨index + 1, blockSize * (index + 1)⟩,
      awaited := .data (settled endpoint content index).2 }
  refine ⟨⟨endpoint.socket, .sink (sink.after (settled endpoint content index).1), session,
    exchange, since⟩,
    ⟨⟨rfl, h.owns.drives.peer, h.owns.drives.bound, h.owns.drives.mode, h.owns.drives.config, rfl⟩,
      hmore, ?_, rfl, rfl, ?_, _, rfl, ?_, ?_⟩, rfl, ?_, ?_⟩
  · simp only [session, h.block, BlockNumber.ofNat_succ (index + 1)]
  · rw [hread]
  · rw [hread, Sink.written_after, hwritten]
  · rw [Sink.written_after, List.length_append]
    have hsplit : (settled endpoint content index).1.length + (content.length -
        (sink.written.toBytes.length + (settled endpoint content index).1.length)) =
          content.length - sink.written.toBytes.length := by omega
    exact Sink.HasRoom.after (hsplit ▸ hroom)
  · simp only [exchange, deadlineFrom, h.owns.drives.config]
  · rw [h.run_full_eq hmore hstream (hroom.mono (by omega)), h.acknowledge_full]
    exact Endpoint.posts_sendToPeer h.owns.drives.peer machine _ _ _ _

/-- The last block is stored with everything before it, and acknowledged when that is done. -/
theorem run_current_last (h : Receiving endpoint content index transfer)
    (hlast : index + 1 = blockCount (endpoint.mode.wire content)) (machine : Machine)
    (now since : Nat) :
    ∃ session sink, session.stage = .completed ∧ sink.written.toBytes = content ∧
      endpoint.Posts machine (ackPacket (index + 1))
        (.ended session (.sink sink)
          (.ok ⟨blockCount (endpoint.mode.wire content), (endpoint.mode.wire content).length⟩))
        (machine.run (transfer.react (.arrival endpoint.peer
          (dataPacket (endpoint.mode.wire content) index)) now since)) := by
  obtain ⟨sink, hstream, hwritten, hroom⟩ := h.stream
  have hcontent := (read_append_settled_last hlast).1
  rw [← hwritten] at hcontent
  have hlength : content.length - sink.written.toBytes.length =
      (settled endpoint content index).1.length + 0 := by
    have hwhole := congrArg List.length hcontent
    rw [List.length_append] at hwhole
    omega
  rw [h.run_last_eq hlast hstream (hlength ▸ hroom), h.acknowledge_last hlast, ← hlast]
  refine ⟨_, _, ?_, ?_, Endpoint.posts_sendToPeer h.owns.drives.peer machine _ _ _ _⟩
  · rfl
  · dsimp only
    rw [Sink.written_after, Sink.written_after, List.append_nil, hcontent]

end Receiving

end Lockstep
