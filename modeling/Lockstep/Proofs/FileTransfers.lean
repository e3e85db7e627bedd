import Lockstep.Proofs.LocalFiles
import Lockstep.Proofs.Receiving

/-!
# Transfers of files

The two ends of a transfer again, with a file at each of them. A file that can be read to its end
is as good as a scripted source that yields the same bytes, whatever the session asks, so what is
known of such a source holds for the file. A file that is written is followed block by block. An end
that does not know the port of its peer yet is one that admits the peer.
-/

namespace Lockstep

open Session FileSystem

/-! ## Files as sources -/

namespace Course

/-- The same course with another stream. -/
def withStream (course : Course) (stream : Stream) : Course :=
  match course with
  | .running transfer => .running { transfer with stream }
  | .ended session _ result => .ended session stream result

end Course

namespace FileReader

/-- The source yields what the reader yields, and neither fails. -/
structure Mirrors (reader : FileReader) (files : FileSystem) (source : Source) : Prop where
  reliable : source.IsReliable
  yields : reader.Yields files source.rest

variable {reader : FileReader} {machine : Machine} {source : Source}

/-- The answers of the reader are those of the source, and the two go on to agree. -/
theorem Mirrors.reply (h : reader.Mirrors machine.files source) (socket : SocketAddress)
    (question : Question) :
    ∃ answer reader' source' machine', machine'.files = machine.files ∧
      reader'.handle = reader.handle ∧ reader'.Mirrors machine'.files source' ∧
      Stream.reply socket question (.reader reader, machine) =
        (answer, .reader reader', machine') ∧
      Stream.reply socket question (.source source, machine) =
        (answer, .source source', machine') := by
  obtain ⟨reliable, yields⟩ := h
  cases question with
  | send destination packet =>
    exact ⟨(machine.network.send machine.now socket destination packet).1, reader, source,
      { machine with network := (machine.network.send machine.now socket destination packet).2 },
      rfl, rfl, ⟨reliable, yields⟩, rfl, rfl⟩
  | write chunk => exact ⟨.ok (), reader, source, machine, rfl, rfl, ⟨reliable, yields⟩, rfl, rfl⟩
  | flush => exact ⟨.ok (), reader, source, machine, rfl, rfl, ⟨reliable, yields⟩, rfl, rfl⟩
  | fill count =>
    obtain ⟨after, hhandle, hyields, hrun⟩ := run_fill yields count
    refine ⟨.ok (source.rest.take count), after, source.skip count, machine, rfl, hhandle,
      ⟨reliable.skip count, by rw [Source.rest_skip]; exact hyields⟩, ?_, ?_⟩
    · rw [Stream.reply_fill_reader, hrun]
    · rw [Stream.reply_fill_source, Source.fill_of_isReliable reliable]
  | drain =>
    obtain ⟨after, hhandle, hyields, hrun⟩ := run_drain yields
    have hdrained := Source.drain_of_isReliable reliable
    have hempty : (source.skip (source.data.size - source.offset + 1)).rest = [] := by
      rw [Source.rest_skip]
      apply List.drop_of_length_le
      rw [Source.length_rest]
      exact Nat.le_succ _
    refine ⟨.ok source.rest, after, _, machine, rfl, hhandle,
      ⟨reliable.skip _, by rw [hempty]; exact hyields⟩, ?_, ?_⟩
    · rw [Stream.reply_drain_reader, hrun]
    · rw [Stream.reply_drain_source, hdrained]

/-- Whatever a turn asks, it comes to the same with the reader as with the source. -/
theorem Mirrors.run_turn {Result : Type} (h : reader.Mirrors machine.files source)
    (socket : SocketAddress) (turn : Turn Result) :
    ∃ result reader' source' machine', machine'.files = machine.files ∧
      reader'.handle = reader.handle ∧ reader'.Mirrors machine'.files source' ∧
      turn.run (Stream.reply socket) (.reader reader, machine) =
        (result, .reader reader', machine') ∧
      turn.run (Stream.reply socket) (.source source, machine) =
        (result, .source source', machine') := by
  induction turn generalizing reader source machine with
  | done result => exact ⟨result, reader, source, machine, rfl, rfl, h, rfl, rfl⟩
  | ask question next ih =>
    obtain ⟨answer, reader₁, source₁, machine₁, files₁, handle₁, mirrors₁, hreader, hsource⟩ :=
      h.reply socket question
    obtain ⟨result, reader₂, source₂, machine₂, files₂, handle₂, mirrors₂, hreader', hsource'⟩ :=
      ih answer mirrors₁
    refine ⟨result, reader₂, source₂, machine₂, files₂.trans files₁, handle₂.trans handle₁,
      mirrors₂, ?_, ?_⟩
    · rw [Dialogue.run, hreader]
      exact hreader'
    · rw [Dialogue.run, hsource]
      exact hsource'

theorem Mirrors.run_takeTurn (h : reader.Mirrors machine.files source) (socket : SocketAddress)
    (turn : Turn Progress) (since : Nat) :
    ∃ course reader' source' machine', machine'.files = machine.files ∧
      reader'.handle = reader.handle ∧ reader'.Mirrors machine'.files source' ∧
      course.stream = .source source' ∧
      machine.run (Transfer.takeTurn socket (.source source) turn since) = (course, machine') ∧
      machine.run (Transfer.takeTurn socket (.reader reader) turn since) =
        (course.withStream (.reader reader'), machine') := by
  obtain ⟨progress, reader', source', machine', hfiles, hhandle, mirrors, hreader, hsource⟩ :=
    h.run_turn socket turn
  refine ⟨progress.course socket since (.source source'), reader', source', machine', hfiles,
    hhandle, mirrors, ?_, ?_, ?_⟩
  · cases progress <;> rfl
  · rw [Transfer.run_takeTurn, hsource]
  · rw [Transfer.run_takeTurn, hreader]
    cases progress <;> rfl

end FileReader

/-- The source that yields the bytes. -/
def Source.ofBytes (bytes : Bytes) : Source :=
  { data := bytes.toByteArray }

theorem Source.rest_ofBytes (bytes : Bytes) : (ofBytes bytes).rest = bytes := by
  simp [ofBytes, rest]

theorem Source.isReliable_ofBytes (bytes : Bytes) : (ofBytes bytes).IsReliable :=
  ⟨nofun, Nat.zero_le _, rfl⟩

theorem FileSystem.Offers.mirrors {files : FileSystem} {handle : Handle} {content : Bytes}
    (h : files.Offers handle content) :
    FileReader.Mirrors { handle } files (Source.ofBytes content) where
  reliable := Source.isReliable_ofBytes content
  yields := by
    rw [Source.rest_ofBytes]
    exact FileReader.yields_of_offers h

/-! ## Sending a file -/

/-- The machine when one more datagram waits to leave. -/
def Machine.posting (machine : Machine) (datagram : Datagram) : Machine :=
  { machine with
    network := { machine.network with outbox := machine.network.outbox ++ [datagram] } }

theorem Machine.outbox_posting {machine : Machine} (h : machine.network.outbox = [])
    (datagram : Datagram) : (machine.posting datagram).network.outbox = [datagram] := by
  simp only [posting, h, List.nil_append]

/-- Nothing keeps a packet of this end from leaving for its peer. -/
structure Endpoint.IsFree (endpoint : Endpoint) (network : Network) : Prop where
  faults : network.faults = []
  family : endpoint.socket.ip.family = endpoint.peer.ip.family

theorem Endpoint.IsFree.posts {endpoint : Endpoint} {machine : Machine} {packet : Bytes}
    {course : Course} {outcome : Course × Machine} (h : endpoint.IsFree machine.network)
    (posts : endpoint.Posts machine packet course outcome)
    (hlength : packet.length ≤ maxDatagramSize) :
    outcome = (course, machine.posting (endpoint.datagram machine.now packet)) :=
  posts.of_clear h.faults h.family hlength

theorem length_ackPacket_le (number : Nat) : (ackPacket number).length ≤ maxDatagramSize :=
  show headerSize ≤ maxDatagramSize by decide

/-- An acknowledgment leaves. -/
theorem Endpoint.IsFree.run_acknowledgment {endpoint : Endpoint} {machine : Machine}
    (h : endpoint.IsFree machine.network) {session : Session}
    (hpeer : session.peer = endpoint.peer) (number : Nat) (progress : Progress) (stream : Stream)
    (since : Nat) :
    machine.run (Transfer.takeTurn endpoint.socket stream
        (session.sendToPeer (ackPacket number) (.done progress)) since) =
      (progress.course endpoint.socket since stream,
        machine.posting (endpoint.datagram machine.now (ackPacket number))) :=
  h.posts (Endpoint.posts_sendToPeer hpeer machine (ackPacket number) progress stream since)
    (length_ackPacket_le number)

/-- The transfer sends the file: `index` blocks are acknowledged, and the acknowledgment of one more
is awaited. -/
def Serving (endpoint : Endpoint) (handle : Handle) (wire : Bytes) (index : Nat)
    (files : FileSystem) (transfer : Transfer) : Prop :=
  ∃ reader source, transfer.stream = .reader reader ∧ reader.handle = handle ∧
    reader.Mirrors files source ∧
    Sending endpoint wire index { transfer with stream := .source source }

namespace Serving

variable {endpoint : Endpoint} {handle : Handle} {wire : Bytes} {index : Nat} {transfer : Transfer}
  {machine : Machine} {files : FileSystem}

theorem socket_eq (h : Serving endpoint handle wire index files transfer) :
    transfer.socket = endpoint.socket := by
  obtain ⟨reader, source, -, -, -, sending⟩ := h
  exact sending.owns.socket

/-- Other files do not matter. -/
theorem congr {after : FileSystem} (h : Serving endpoint handle wire index files transfer)
    (same : ∀ id, handle = .file id → after.file? id = files.file? id) :
    Serving endpoint handle wire index after transfer := by
  obtain ⟨reader, source, hstream, rfl, mirrors, sending⟩ := h
  exact ⟨reader, source, hstream, rfl, ⟨mirrors.reliable, mirrors.yields.congr same⟩, sending⟩

/-- What the source is known to do when it sends a block the reader does. -/
theorem of_mirrors {reader : FileReader} {source : Source} {turn : Turn Progress}
    {since deadline : Nat} (mirrors : reader.Mirrors machine.files source)
    (free : endpoint.IsFree machine.network)
    (sends : ∃ next, Sending endpoint wire index next ∧ next.exchange.attempts = 0 ∧
      next.exchange.deadline = deadline ∧
      endpoint.Posts machine (dataPacket wire index) (.running next)
        (machine.run (Transfer.takeTurn endpoint.socket (.source source) turn since))) :
    ∃ next, Serving endpoint reader.handle wire index machine.files next ∧
      next.exchange.deadline = deadline ∧
      machine.run (Transfer.takeTurn endpoint.socket (.reader reader) turn since) =
        (.running next,
          machine.posting (endpoint.datagram machine.now (dataPacket wire index))) := by
  obtain ⟨next, sending, -, hdeadline, posts⟩ := sends
  have hlength : (dataPacket wire index).length ≤ maxDatagramSize :=
    Nat.le_trans (length_dataPacket_le wire index) (by decide)
  have houtcome := free.posts posts hlength
  obtain ⟨course, reader', source', machine', hfiles, hhandle, mirrors', hcourse, hsource,
    hreader⟩ :=
    mirrors.run_takeTurn endpoint.socket turn since
  rw [hsource, Prod.mk.injEq] at houtcome
  obtain ⟨rfl, rfl⟩ := houtcome
  refine ⟨{ next with stream := .reader reader' },
    ⟨reader', source', rfl, hhandle, mirrors', ?_⟩, hdeadline, hreader⟩
  have hnext : next = { next with stream := .source source' } := by
    rw [← hcourse]
    rfl
  rw [hnext] at sending
  exact sending

/-- A file is sent from its first block on. -/
theorem run_start {content : Bytes} (offers : machine.files.Offers handle content)
    (free : endpoint.IsFree machine.network) (now since : Nat) :
    ∃ next, Serving endpoint handle (endpoint.mode.wire content) 0 machine.files next ∧
      next.exchange.deadline = now + endpoint.config.timeout ∧
      machine.run (Transfer.takeTurn endpoint.socket (.reader { handle })
          (endpoint.session.send none now) since) =
        (.running next, machine.posting
          (endpoint.datagram machine.now (dataPacket (endpoint.mode.wire content) 0))) := by
  have sends := Sending.run_start endpoint (Source.isReliable_ofBytes content) machine now since
  rw [Source.rest_ofBytes] at sends
  exact of_mirrors offers.mirrors free sends

/-- The reaction is that of the transfer with the source. -/
theorem run_react_eq {reader : FileReader} (hstream : transfer.stream = .reader reader)
    (hsocket : transfer.socket = endpoint.socket) (event : Event) (now since : Nat) :
    machine.run (transfer.react event now since) =
      machine.run (Transfer.takeTurn endpoint.socket (.reader reader)
        (transfer.session.react transfer.exchange (Transfer.received event) now) since) := by
  rw [Transfer.run_react, hstream, hsocket]

/-- The awaited acknowledgment has the next block sent. -/
theorem run_acknowledged (h : Serving endpoint handle wire index machine.files transfer)
    (free : endpoint.IsFree machine.network) (hmore : index + 1 < blockCount wire)
    (now since : Nat) :
    ∃ next, Serving endpoint handle wire (index + 1) machine.files next ∧
      next.exchange.deadline = now + endpoint.config.timeout ∧
      machine.run (transfer.react (.arrival endpoint.peer (ackPacket (index + 1))) now since) =
        (.running next,
          machine.posting (endpoint.datagram machine.now (dataPacket wire (index + 1)))) := by
  obtain ⟨reader, source, hstream, rfl, mirrors, sending⟩ := h
  have sends := sending.run_acknowledged hmore machine now since
  rw [Transfer.run_react, sending.owns.socket] at sends
  rw [run_react_eq hstream sending.owns.socket]
  exact of_mirrors mirrors free sends

/-- The acknowledgment of the last block completes the transfer. -/
theorem run_acknowledged_last (h : Serving endpoint handle wire index machine.files transfer)
    (hlast : index + 1 = blockCount wire) (now since : Nat) :
    ∃ session stream,
      machine.run (transfer.react (.arrival endpoint.peer (ackPacket (index + 1))) now since) =
        (.ended session stream (.ok ⟨blockCount wire, wire.length⟩), machine) := by
  obtain ⟨reader, source, hstream, rfl, mirrors, sending⟩ := h
  obtain ⟨session, -, hrun⟩ := sending.run_acknowledged_last hlast machine now since
  rw [Transfer.run_react, sending.owns.socket] at hrun
  rw [run_react_eq hstream sending.owns.socket]
  obtain ⟨course, reader', source', machine', -, -, -, -, hsource, hreader⟩ :=
    mirrors.run_takeTurn endpoint.socket
      (transfer.session.react transfer.exchange
        (Transfer.received (.arrival endpoint.peer (ackPacket (index + 1)))) now) since
  have houtcome := hsource.symm.trans hrun
  rw [Prod.mk.injEq] at houtcome
  obtain ⟨rfl, rfl⟩ := houtcome
  exact ⟨session, .reader reader', hreader⟩

end Serving

/-! ## Receiving a file -/

namespace Mode

/-- What the first blocks of the stream of a file settle of it. -/
def settled (mode : Mode) (content : Bytes) (index : Nat) : Bytes × Netascii.Decoder :=
  mode.read ((mode.wire content).take (blockSize * index))

theorem settled_zero (mode : Mode) (content : Bytes) : mode.settled content 0 = ([], {}) := by
  rw [settled, Nat.mul_zero, List.take_zero, read_nil]

/-- One more block. -/
theorem settled_succ (mode : Mode) (content : Bytes) (index : Nat) :
    mode.settled content (index + 1) =
      ((mode.settled content index).1 ++
          (mode.readMore (mode.settled content index).2 (chunk (mode.wire content) index)).1,
        (mode.readMore (mode.settled content index).2 (chunk (mode.wire content) index)).2) := by
  simp only [settled]
  rw [← take_append_chunk, read_append]

theorem settled_blockCount (mode : Mode) (content : Bytes) :
    mode.settled content (blockCount (mode.wire content)) = (content, {}) := by
  rw [settled, take_blockCount, read_wire]

theorem length_settled_le (mode : Mode) (content : Bytes) (index : Nat) :
    (mode.settled content index).1.length ≤ content.length :=
  (mode.read_take_prefix content (blockSize * index)).length_le

end Mode

/-- The session takes what comes from the peer of this end for its own peer's. -/
structure Endpoint.Admits (endpoint : Endpoint) (session : Session) : Prop where
  binds : session.admit? endpoint.peer =
    some { session with peer := endpoint.peer, bound := true }
  mode : session.mode = endpoint.mode
  config : session.config = endpoint.config

theorem Endpoint.admits_session (endpoint : Endpoint) : endpoint.Admits endpoint.session :=
  ⟨by simp only [Session.admit?, session, accepted, if_true], rfl, rfl⟩

namespace Session

variable {writer : FileWriter} {machine : Machine} {bytes chunk : Bytes} {more : Nat}

/-- A writer with room for a piece has the turn go on behind it. -/
theorem run_store_writer (session : Session)
    (grows : writer.Grows machine.files bytes (chunk.length + more)) (next : Turn Progress)
    (socket : SocketAddress) :
    ∃ after files, after.file = writer.file ∧ after.Grows files (bytes ++ chunk) more ∧
      (session.store chunk next).run (Stream.reply socket) (.writer writer, machine) =
        next.run (Stream.reply socket) (.writer after, { machine with files }) := by
  obtain ⟨after, files, hrun, hfile, grown⟩ := grows.write
  refine ⟨after, files, hfile, grown, ?_⟩
  simp only [store, Dialogue.run, Stream.reply_write_writer, hrun]

theorem run_flush_writer (session : Session) (grows : writer.Grows machine.files bytes more)
    (next : Turn Progress) (socket : SocketAddress) :
    ∃ files, FileWriter.Grows { writer with buffer := [] } files bytes more ∧
      (session.flush next).run (Stream.reply socket) (.writer writer, machine) =
        next.run (Stream.reply socket)
          (.writer { writer with buffer := [] }, { machine with files }) := by
  obtain ⟨files, hrun, emptied⟩ := grows.empty
  refine ⟨files, emptied, ?_⟩
  simp only [flush, Dialogue.run, Stream.reply_flush_writer, hrun]

/-- What is kept until the end of the file is stored with it. -/
theorem run_finish_writer (session : Session) (grows : writer.Grows machine.files bytes more)
    (next : Turn Progress) (socket : SocketAddress) :
    ∃ after files contents, files.file? writer.file = some { contents, isOpen := true } ∧
      contents.toBytes = bytes ∧ files.free.all (more ≤ ·) ∧
      (session.store [] (session.flush next)).run (Stream.reply socket) (.writer writer, machine) =
        next.run (Stream.reply socket) (.writer after, { machine with files }) := by
  have grows' : writer.Grows machine.files bytes (([] : Bytes).length + more) := by
    rw [List.length_nil, Nat.zero_add]
    exact grows
  obtain ⟨after, files, hfile, grown, hstore⟩ :=
    session.run_store_writer grows' (session.flush next) socket
  have grown' : after.Grows { machine with files : Machine }.files (bytes ++ []) more := grown
  obtain ⟨files', ⟨⟨contents, hcontents, hbytes⟩, room⟩, hflush⟩ :=
    session.run_flush_writer grown' next socket
  rw [List.append_nil, List.append_nil] at hbytes
  rw [List.length_nil, Nat.zero_add] at room
  exact ⟨{ after with buffer := [] }, files', contents, hfile ▸ hcontents, hbytes, room,
    hstore.trans hflush⟩

end Session

/-- The transfer receives the file: `index` blocks are stored, and one more is awaited. There is
room for the whole content and for `spare` bytes more. -/
structure Storing (endpoint : Endpoint) (id : FileId) (content : Bytes) (spare index : Nat)
    (files : FileSystem) (transfer : Transfer) : Prop where
  socket_eq : transfer.socket = endpoint.socket
  admits : endpoint.Admits transfer.session
  index_lt : index < blockCount (endpoint.mode.wire content)
  block : transfer.session.block = UInt16.ofNat (index + 1)
  summary : transfer.exchange.summary = ⟨index, blockSize * index⟩
  awaited : transfer.exchange.awaited = .data (endpoint.mode.settled content index).2
  stream : ∃ writer, transfer.stream = .writer writer ∧ writer.file = id ∧
    writer.Grows files (endpoint.mode.settled content index).1
      (content.length - (endpoint.mode.settled content index).1.length + spare)

namespace Storing

variable {endpoint : Endpoint} {id : FileId} {content : Bytes} {spare index : Nat}
  {transfer : Transfer} {machine : Machine} {files : FileSystem}

/-- A file with nothing in it awaits the first block. -/
theorem run_receive {session : Session} (admits : endpoint.Admits session)
    (hblock : session.block = 1)
    (grows : FileWriter.Grows { file := id } machine.files [] (content.length + spare))
    (opening : Bytes) (now since : Nat) :
    ∃ next, Storing endpoint id content spare 0 machine.files next ∧
      next.exchange.deadline = now + endpoint.config.timeout ∧
      Endpoint.Posts { endpoint with peer := session.peer } machine opening (.running next)
        (machine.run (Transfer.takeTurn endpoint.socket (.writer { file := id })
          (session.receive opening now) since)) := by
  let waiting : Session :=
    { session with stage := if session.bound then .transferring else .requestSent }
  let exchange : Exchange :=
    { outstanding := opening, deadline := session.deadlineFrom now, summary := {},
      awaited := .data {} }
  have hzero := endpoint.mode.settled_zero content
  have hbinds : waiting.admit? endpoint.peer =
      some { waiting with peer := endpoint.peer, bound := true } := by
    have hbinds := admits.binds
    unfold admit? at hbinds ⊢
    cases hbound : session.bound with
    | false =>
      simp only [hbound, Bool.false_eq_true, if_false, waiting] at hbinds ⊢
      split at hbinds
      · next hip => rw [if_pos hip]
      · cases hbinds
    | true =>
      simp only [hbound, if_true, waiting] at hbinds ⊢
      split at hbinds
      · next hpeer => rw [if_pos hpeer, hpeer]
      · cases hbinds
  refine ⟨⟨endpoint.socket, .writer { file := id }, waiting, exchange, since⟩,
    ⟨rfl, ⟨hbinds, admits.mode, admits.config⟩, Nat.succ_pos _, hblock, rfl, ?_, { file := id },
      rfl, rfl, ?_⟩, ?_, ?_⟩
  · rw [hzero]
  · rw [hzero]
    exact grows
  · simp only [exchange, deadlineFrom, admits.config]
  · exact Endpoint.posts_sendToPeer rfl machine opening (.waiting waiting exchange) _ since

/-- The session as it is when its peer is known. -/
def boundSession (endpoint : Endpoint) (transfer : Transfer) : Session :=
  { transfer.session with peer := endpoint.peer, bound := true }

/-- The reaction to the awaited block. -/
theorem run_react_eq (h : Storing endpoint id content spare index files transfer)
    (machine : Machine) (now since : Nat) :
    machine.run (transfer.react (.arrival endpoint.peer
        (dataPacket (endpoint.mode.wire content) index)) now since) =
      machine.run (Transfer.takeTurn endpoint.socket transfer.stream
        ((boundSession endpoint transfer).takePayload (chunk (endpoint.mode.wire content) index)
          (endpoint.mode.settled content index).2 ⟨index, blockSize * index⟩ now) since) := by
  have hle := length_chunk_le (endpoint.mode.wire content) index
  have hturn : transfer.session.react transfer.exchange
        (.arrival endpoint.peer (dataPacket (endpoint.mode.wire content) index)) now =
      (boundSession endpoint transfer).takePayload (chunk (endpoint.mode.wire content) index)
        (endpoint.mode.settled content index).2 ⟨index, blockSize * index⟩ now := by
    have hblock : UInt16.ofNat (index + 1) = (boundSession endpoint transfer).block :=
      h.block.symm
    calc
      _ = (boundSession endpoint transfer).read transfer.exchange
            (dataPacket (endpoint.mode.wire content) index) now := by
        simp only [react, arrive, h.admits.binds]
        rfl
      _ = (boundSession endpoint transfer).take transfer.exchange
            (.data (boundSession endpoint transfer).block
              (chunk (endpoint.mode.wire content) index)) now := by
        rw [dataPacket, read_encodeData hle, hblock]
      _ = _ := by rw [take_data_current h.awaited, h.summary]
  rw [Transfer.run_react, dataPacket, Transfer.received_encodeData hle, ← dataPacket, hturn,
    h.socket_eq]

/-- The payload of the awaited block is handed to the file. -/
theorem run_takePayload {session : Session} (hmode : session.mode = endpoint.mode)
    {writer : FileWriter} (grows : writer.Grows machine.files
      (endpoint.mode.settled content index).1
      (content.length - (endpoint.mode.settled content index).1.length + spare))
    (summary : Summary) (now : Nat) :
    let acknowledged := session.acknowledge (chunk (endpoint.mode.wire content) index).length
      (endpoint.mode.settled content (index + 1)).2 summary now
    ∃ after files, after.file = writer.file ∧
      after.Grows files (endpoint.mode.settled content (index + 1)).1
        (content.length - (endpoint.mode.settled content (index + 1)).1.length + spare) ∧
      (session.takePayload (chunk (endpoint.mode.wire content) index)
          (endpoint.mode.settled content index).2 summary now).run
          (Stream.reply endpoint.socket) (.writer writer, machine) =
        (if Packet.isLastPayload (chunk (endpoint.mode.wire content) index) then
          session.store (endpoint.mode.settled content (index + 1)).2.finish.1
            (session.flush acknowledged)
         else acknowledged).run (Stream.reply endpoint.socket)
          (.writer after, { machine with files }) := by
  have hsucc := endpoint.mode.settled_succ content index
  have hle := endpoint.mode.length_settled_le content (index + 1)
  generalize hmore : endpoint.mode.readMore (endpoint.mode.settled content index).2
    (chunk (endpoint.mode.wire content) index) = more at hsucc
  rw [hsucc, List.length_append] at hle
  have hsplit : content.length - (endpoint.mode.settled content index).1.length + spare =
      more.1.length + (content.length -
        ((endpoint.mode.settled content index).1 ++ more.1).length + spare) := by
    rw [List.length_append]
    omega
  rw [hsplit] at grows
  obtain ⟨after, files, hfile, grown, hrun⟩ := session.run_store_writer grows
    (if Packet.isLastPayload (chunk (endpoint.mode.wire content) index) then
      session.store more.2.finish.1 (session.flush
        (session.acknowledge (chunk (endpoint.mode.wire content) index).length more.2 summary now))
     else session.acknowledge (chunk (endpoint.mode.wire content) index).length more.2 summary now)
    endpoint.socket
  refine ⟨after, files, hfile, ?_, ?_⟩
  · rw [hsucc]
    exact grown
  · rw [hsucc, takePayload_eq, hmode, hmore]
    exact hrun

theorem boundSession_mode (h : Storing endpoint id content spare index files transfer) :
    (boundSession endpoint transfer).mode = endpoint.mode := h.admits.mode

/-- Nothing but the one file is touched. -/
theorem sameBut (h : Storing endpoint id content spare index machine.files transfer) {event : Event}
    {now since : Nat} {course : Course} {datagram : Datagram}
    (hrun : machine.run (transfer.react event now since) =
      (course, Machine.posting { machine with files } datagram)) :
    machine.files.SameBut files id := by
  obtain ⟨writer, hstream, rfl, -⟩ := h.stream
  have hfile : transfer.stream.file? = some writer.file := by
    rw [hstream]
    rfl
  have hsame : machine.files.SameBut (machine.run (transfer.react event now since)).2.files
      writer.file := by
    rw [Transfer.run_react]
    exact Transfer.sameBut_takeTurn hfile _ since machine
  rw [hrun] at hsame
  exact hsame

/-- When the block is stored the acknowledgment leaves. -/
theorem run_current_eq (h : Storing endpoint id content spare index machine.files transfer)
    (free : endpoint.IsFree machine.network) {writer after : FileWriter}
    (hstream : transfer.stream = .writer writer) {progress : Progress} {now : Nat}
    (hstored : ((boundSession endpoint transfer).takePayload
          (chunk (endpoint.mode.wire content) index) (endpoint.mode.settled content index).2
          ⟨index, blockSize * index⟩ now).run (Stream.reply endpoint.socket)
            (.writer writer, machine) =
        ((boundSession endpoint transfer).sendToPeer (ackPacket (index + 1)) (.done progress)).run
          (Stream.reply endpoint.socket) (.writer after, { machine with files }))
    (since : Nat) :
    machine.run (transfer.react (.arrival endpoint.peer
        (dataPacket (endpoint.mode.wire content) index)) now since) =
      (progress.course endpoint.socket since (.writer after),
        Machine.posting { machine with files }
          (endpoint.datagram machine.now (ackPacket (index + 1)))) := by
  have free' : endpoint.IsFree { machine with files : Machine }.network := free
  rw [h.run_react_eq, hstream, Transfer.run_takeTurn, hstored, ← Transfer.run_takeTurn]
  exact free'.run_acknowledgment rfl _ _ _ _

/-- A full block is stored and acknowledged. -/
theorem run_current (h : Storing endpoint id content spare index machine.files transfer)
    (free : endpoint.IsFree machine.network)
    (hmore : index + 1 < blockCount (endpoint.mode.wire content)) (now since : Nat) :
    ∃ next files, Storing endpoint id content spare (index + 1) files next ∧
      machine.files.SameBut files id ∧
      next.exchange.deadline = now + endpoint.config.timeout ∧
      machine.run (transfer.react (.arrival endpoint.peer
          (dataPacket (endpoint.mode.wire content) index)) now since) =
        (.running next, Machine.posting { machine with files }
          (endpoint.datagram machine.now (ackPacket (index + 1)))) := by
  obtain ⟨writer, hstream, hid, grows⟩ := h.stream
  obtain ⟨after, files, hfile, grown, hrun⟩ := run_takePayload h.boundSession_mode grows
    ⟨index, blockSize * index⟩ now
  have hlength := length_chunk_of_lt hmore
  let session : Session :=
    { boundSession endpoint transfer with
      block := (boundSession endpoint transfer).block + 1, stage := .transferring }
  let exchange : Exchange :=
    { outstanding := ackPacket (index + 1)
      deadline := (boundSession endpoint transfer).deadlineFrom now
      summary := ⟨index + 1, blockSize * (index + 1)⟩
      awaited := .data (endpoint.mode.settled content (index + 1)).2 }
  have hblock : (boundSession endpoint transfer).block = UInt16.ofNat (index + 1) := h.block
  have hacknowledge : (boundSession endpoint transfer).acknowledge
        (chunk (endpoint.mode.wire content) index).length
        (endpoint.mode.settled content (index + 1)).2 ⟨index, blockSize * index⟩ now =
      (boundSession endpoint transfer).sendToPeer (ackPacket (index + 1))
        (.done (.waiting session exchange)) := by
    simp only [acknowledge, hlength, Nat.lt_irrefl, if_false, ackPacket, ← hblock, exchange,
      session]
    rfl
  rw [isLastPayload_chunk, decide_eq_false (Nat.not_le.mpr hmore), if_neg Bool.false_ne_true,
    hacknowledge] at hrun
  have hturn := h.run_current_eq free hstream hrun since
  refine ⟨⟨endpoint.socket, .writer after, session, exchange, since⟩, files,
    ⟨rfl, ⟨?_, h.admits.mode, h.admits.config⟩, hmore, ?_, rfl, rfl, after, rfl,
      hfile.trans hid, grown⟩, h.sameBut hturn, ?_, hturn⟩
  · simp only [session, boundSession, admit?, if_true]
  · simp only [session, hblock, BlockNumber.ofNat_succ (index + 1)]
  · simp only [exchange, deadlineFrom]
    rw [← h.admits.config]
    rfl

/-- The last block is stored with everything before it, and acknowledged when that is done. -/
theorem run_current_last (h : Storing endpoint id content spare index machine.files transfer)
    (free : endpoint.IsFree machine.network)
    (hlast : index + 1 = blockCount (endpoint.mode.wire content)) (now since : Nat) :
    ∃ session stream files contents,
      files.file? id = some { contents, isOpen := true } ∧ contents.toBytes = content ∧
      files.free.all (spare ≤ ·) ∧ machine.files.SameBut files id ∧
      machine.run (transfer.react (.arrival endpoint.peer
          (dataPacket (endpoint.mode.wire content) index)) now since) =
        (.ended session stream
            (.ok ⟨blockCount (endpoint.mode.wire content), (endpoint.mode.wire content).length⟩),
          Machine.posting { machine with files }
            (endpoint.datagram machine.now (ackPacket (index + 1)))) := by
  obtain ⟨writer, hstream, hid, grows⟩ := h.stream
  obtain ⟨after, files, hfile, grown, hrun⟩ := run_takePayload h.boundSession_mode grows
    ⟨index, blockSize * index⟩ now
  have hwhole := endpoint.mode.settled_blockCount content
  rw [← hlast] at hwhole
  rw [hwhole, Nat.sub_self, Nat.zero_add] at grown
  rw [isLastPayload_chunk, decide_eq_true (Nat.le_of_eq hlast.symm), if_pos rfl, hwhole] at hrun
  let session : Session :=
    { boundSession endpoint transfer with
      block := (boundSession endpoint transfer).block + 1, stage := .completed }
  have hblock : (boundSession endpoint transfer).block = UInt16.ofNat (index + 1) := h.block
  have hacknowledge : (boundSession endpoint transfer).acknowledge
        (chunk (endpoint.mode.wire content) index).length {} ⟨index, blockSize * index⟩ now =
      (boundSession endpoint transfer).sendToPeer (ackPacket (index + 1)) (.done (.ended session
        (.ok ⟨index + 1, (endpoint.mode.wire content).length⟩))) := by
    have hshort : (chunk (endpoint.mode.wire content) index).length < blockSize :=
      length_chunk_lt_iff.mpr (Nat.le_of_eq hlast.symm)
    simp only [acknowledge, hshort, if_true, ackPacket, ← hblock, Summary.add,
      length_before_last hlast, session]
    rfl
  rw [hacknowledge] at hrun
  obtain ⟨after', files', contents, hcontents, hbytes, room, hfinish⟩ :=
    run_finish_writer (boundSession endpoint transfer)
      (show after.Grows { machine with files : Machine }.files content spare from grown)
      ((boundSession endpoint transfer).sendToPeer (ackPacket (index + 1)) (.done (.ended session
        (.ok ⟨index + 1, (endpoint.mode.wire content).length⟩)))) endpoint.socket
  have hturn := h.run_current_eq free hstream (hrun.trans hfinish) since
  rw [← hlast]
  exact ⟨session, .writer after', files', contents, hid ▸ hfile ▸ hcontents, hbytes,
    room, h.sameBut hturn, hturn⟩

end Storing

end Lockstep
