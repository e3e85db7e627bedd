import Lockstep.Proofs.Receiving
import Mathlib.Logic.Relation

/-!
# A sender and a receiver that face each other

Two transfers whose sessions are bound to each other, with a network between them that delivers
what was sent at any time, in any order and any number of times, or never. The clocks of the two
ends and the failures of their sockets are arbitrary. The one thing asked of the network is that a
datagram does not arrive when the end that it reaches has gone half the ring of block numbers
beyond it. Under this condition what is in the sink is always a beginning of what was in the
source, an end that completes finds the other one in order, and no end ever accuses the other one
of a violation.
-/

namespace Lockstep

open Session

/-- A datagram on its way, with its block counted without a bound. -/
structure Sent where
  number : Nat
  datagram : Datagram

/-- Two transfers, and what each of them has sent to its peer so far. Among what has left the two
machines are the notices to strangers too. -/
structure Pair where
  sender : Course
  receiver : Course
  forth : List Sent := []
  back : List Sent := []
  departed : List Datagram := []

namespace Course

/-- The bytes in the sink of the transfer. -/
def written (course : Course) : Bytes :=
  match course.stream with
  | .sink sink => sink.written.toBytes
  | _ => []

/-- The transfer has ended because the peer broke the rules. -/
def EndsInViolation (course : Course) : Prop :=
  ∃ session stream reason, course = .ended session stream (.error (.protocol reason))

end Course

namespace Endpoint

/-- Each end is bound to the address that the datagrams of the other one come from. -/
structure Faces (left right : Endpoint) : Prop where
  forth : left.socket.sourceFor left.peer = right.peer
  back : right.socket.sourceFor right.peer = left.peer
  mode : left.mode = right.mode

end Endpoint

namespace Pair

/-- What left a machine for `peer`, counted as block `number`. -/
def posted (machine : Machine) (peer : SocketAddress) (number : Nat) : List Sent :=
  (machine.network.outbox.filter (·.destination = peer)).map (Sent.mk number)

/-- The sender has come to `outcome`. A block that it sent is the one behind those that are
acknowledged. -/
def afterSender (pair : Pair) (peer : SocketAddress) (outcome : Course × Machine) : Pair :=
  { pair with
    sender := outcome.1
    forth := pair.forth ++ posted outcome.2 peer (outcome.1.blocks + 1)
    departed := pair.departed ++ outcome.2.network.outbox }

/-- The receiver has come to `outcome`. What it acknowledged is the last block that it stored. -/
def afterReceiver (pair : Pair) (peer : SocketAddress) (outcome : Course × Machine) : Pair :=
  { pair with
    receiver := outcome.1
    back := pair.back ++ posted outcome.2 peer outcome.1.blocks
    departed := pair.departed ++ outcome.2.network.outbox }

/-- What can happen to a transfer that waits. Anything that was sent to it may arrive, unless the
transfer is 32768 or more blocks beyond it. -/
inductive Possible (inbound : List Sent) (transfer : Transfer) : Event → Prop where
  | expiry : Possible inbound transfer .expiry
  | receiveError (error : SystemError) : Possible inbound transfer (.receiveError error)
  | stranger {source : SocketAddress} (foreign : source ≠ transfer.session.peer)
      (datagram : Bytes) : Possible inbound transfer (.arrival source datagram)
  | arrival {sent : Sent} (mem : sent ∈ inbound)
      (recent : transfer.exchange.summary.blocks + 1 < sent.number + 32768) :
      Possible inbound transfer (.arrival sent.datagram.source sent.datagram.payload)

/-- One of the two reacts to something, at any time and with any luck in sending. -/
inductive Step : Pair → Pair → Prop where
  | sender {pair : Pair} {transfer : Transfer} (running : pair.sender = .running transfer)
      {event : Event} (possible : Possible pair.back transfer event) {machine : Machine}
      (quiet : machine.network.outbox = []) (now since : Nat) :
      Step pair (pair.afterSender transfer.session.peer
        (machine.run (transfer.react event now since)))
  | receiver {pair : Pair} {transfer : Transfer} (running : pair.receiver = .running transfer)
      {event : Event} (possible : Possible pair.forth transfer event) {machine : Machine}
      (quiet : machine.network.outbox = []) (now since : Nat) :
      Step pair (pair.afterReceiver transfer.session.peer
        (machine.run (transfer.react event now since)))

/-- What the first turns of the two ends leave. -/
def ofOutcomes (left right : Endpoint) (sending receiving : Course × Machine) : Pair :=
  ((Pair.mk sending.1 receiving.1 [] [] []).afterSender left.peer sending).afterReceiver
    right.peer receiving

/-- One end has begun to send the source, the other one to receive into the sink. -/
inductive Starts (left right : Endpoint) (source : Source) (sink : Sink) : Pair → Prop where
  | begin {sendingMachine receivingMachine : Machine}
      (sendingQuiet : sendingMachine.network.outbox = [])
      (receivingQuiet : receivingMachine.network.outbox = [])
      (sendingNow receivingNow sendingSince receivingSince : Nat) :
      Starts left right source sink (ofOutcomes left right
        (sendingMachine.run (Activity.Run.start (.send none source) left.socket left.session
          sendingNow sendingSince))
        (receivingMachine.run (Activity.Run.start (.receive (Packet.encodeAck 0) sink)
          right.socket right.session receivingNow receivingSince)))

/-- None of the datagrams accuses anybody of an illegal operation. -/
def Lawful (datagrams : List Datagram) : Prop :=
  ∀ datagram ∈ datagrams, ∀ notice, Packet.decode datagram.payload = .ok (.error notice) →
    notice.code ≠ .illegalOperation

/-! ## The invariant -/

/-- Where the sender is: it waits for block `index + 1` to be acknowledged, or has ended. -/
inductive SenderAt (left : Endpoint) (wire : Bytes) (index : Nat) : Course → Prop where
  | waiting {transfer : Transfer} (sending : Sending left wire index transfer) :
      SenderAt left wire index (.running transfer)
  | completed {session : Session} {stream : Stream} {summary : Summary}
      (stage : session.stage = .completed) (all : index = blockCount wire) :
      SenderAt left wire index (.ended session stream (.ok summary))
  | failed {session : Session} {stream : Stream} {error : TransferError}
      (stage : session.stage = .failed) (lawful : ∀ reason, error ≠ .protocol reason) :
      SenderAt left wire index (.ended session stream (.error error))

/-- Where the receiver is: it has stored `index` blocks and waits for one more, or has ended. -/
inductive ReceiverAt (right : Endpoint) (content : Bytes) (index : Nat) : Course → Prop where
  | waiting {transfer : Transfer} (receiving : Receiving right content index transfer) :
      ReceiverAt right content index (.running transfer)
  | completed {session : Session} {sink : Sink} {summary : Summary}
      (stage : session.stage = .completed)
      (all : index = blockCount (right.mode.wire content))
      (stored : sink.written.toBytes = content) :
      ReceiverAt right content index (.ended session (.sink sink) (.ok summary))
  | failed {session : Session} {sink : Sink} {error : TransferError}
      (stage : session.stage = .failed)
      (index_lt : index < blockCount (right.mode.wire content))
      (stored : sink.written.toBytes <+: content) (lawful : ∀ reason, error ≠ .protocol reason) :
      ReceiverAt right content index (.ended session (.sink sink) (.error error))

/-- Every block on its way is one of the first `index + 1`. -/
def CarriesBlocks (left : Endpoint) (wire : Bytes) (index : Nat) (forth : List Sent) : Prop :=
  ∀ sent ∈ forth, ∃ before ≤ index, ∃ now,
    sent = ⟨before + 1, left.datagram now (dataPacket wire before)⟩

/-- Every acknowledgment on its way is of one of the first `index` blocks, or of none. -/
def CarriesAcks (right : Endpoint) (index : Nat) (back : List Sent) : Prop :=
  ∀ sent ∈ back, ∃ number ≤ index, ∃ now, sent = ⟨number, right.datagram now (ackPacket number)⟩

/-- What a turn of the sender leaves: the sender at some block, and nothing on the way that is
beyond it. -/
structure SenderReaches (left : Endpoint) (wire : Bytes) (index : Nat)
    (outcome : Course × Machine) : Prop where
  position : SenderAt left wire index outcome.1
  carries : CarriesBlocks left wire index (posted outcome.2 left.peer (outcome.1.blocks + 1))
  lawful : Lawful outcome.2.network.outbox

/-- What a turn of the receiver leaves. -/
structure ReceiverReaches (right : Endpoint) (content : Bytes) (index : Nat)
    (outcome : Course × Machine) : Prop where
  position : ReceiverAt right content index outcome.1
  carries : CarriesAcks right index (posted outcome.2 right.peer outcome.1.blocks)
  lawful : Lawful outcome.2.network.outbox

/-- The receiver is where the sender is, or one block ahead, and nothing on the way is ahead of
them. -/
structure Invariant (left right : Endpoint) (content : Bytes) (sent stored : Nat) (pair : Pair) :
    Prop where
  sender : SenderAt left (right.mode.wire content) sent pair.sender
  receiver : ReceiverAt right content stored pair.receiver
  le : sent ≤ stored
  le_succ : stored ≤ sent + 1
  forth : CarriesBlocks left (right.mode.wire content) sent pair.forth
  back : CarriesAcks right stored pair.back
  lawful : Lawful pair.departed

variable {left right : Endpoint} {content wire : Bytes} {index : Nat} {transfer : Transfer}
  {machine : Machine}

theorem posted_nil (peer : SocketAddress) (number : Nat) (h : machine.network.outbox = []) :
    posted machine peer number = [] := by
  rw [posted, h]
  rfl

theorem posted_singleton (endpoint : Endpoint) (number now : Nat) (packet : Bytes)
    (h : machine.network.outbox = [endpoint.datagram now packet]) :
    posted machine endpoint.peer number = [⟨number, endpoint.datagram now packet⟩] := by
  rw [posted, h]
  simp [Endpoint.datagram]

/-- What is sent to a stranger is not sent to the peer. -/
theorem posted_notified {endpoint : Endpoint} (quiet : machine.network.outbox = [])
    {source : SocketAddress} (hsource : source ≠ endpoint.peer) (number : Nat) :
    posted (endpoint.notified machine source) endpoint.peer number = [] := by
  unfold Endpoint.notified
  rcases machine.network.send_cases machine.now endpoint.socket source
      (Packet.error (Notice.ofCode .unknownTransferId)).encode with
    ⟨error, faults, hsend⟩ | hsend
  · rw [hsend]
    exact posted_nil _ _ quiet
  · rw [hsend, posted]
    simp [quiet, hsource]

/-! ## Datagrams that accuse nobody -/

theorem lawful_nil : Lawful [] := fun _ h ↦ absurd h List.not_mem_nil

theorem lawful_of_eq_nil {datagrams : List Datagram} (h : datagrams = []) : Lawful datagrams := by
  rw [h]
  exact lawful_nil

theorem Lawful.append {first second : List Datagram} (hfirst : Lawful first)
    (hsecond : Lawful second) : Lawful (first ++ second) := by
  intro datagram hmem
  rcases List.mem_append.mp hmem with hmem | hmem
  · exact hfirst datagram hmem
  · exact hsecond datagram hmem

theorem lawful_singleton {endpoint : Endpoint} {now : Nat} {packet : Bytes}
    (h : ∀ notice, Packet.decode packet = .ok (.error notice) → notice.code ≠ .illegalOperation) :
    Lawful [endpoint.datagram now packet] := by
  intro datagram hmem notice hdecode
  obtain rfl := List.mem_singleton.mp hmem
  exact h notice hdecode

theorem lawful_dataPacket (endpoint : Endpoint) (now : Nat) (wire : Bytes) (index : Nat) :
    Lawful [endpoint.datagram now (dataPacket wire index)] := by
  apply lawful_singleton
  intro notice hdecode
  rw [dataPacket, Packet.decode_encodeData (length_chunk_le wire index)] at hdecode
  cases hdecode

theorem lawful_ackPacket (endpoint : Endpoint) (now number : Nat) :
    Lawful [endpoint.datagram now (ackPacket number)] := by
  apply lawful_singleton
  intro notice hdecode
  rw [ackPacket, Packet.decode_encodeAck] at hdecode
  cases hdecode

/-- A stranger is told that it is one, which is not an accusation. -/
theorem lawful_notified (endpoint : Endpoint) (quiet : machine.network.outbox = [])
    (source : SocketAddress) : Lawful (endpoint.notified machine source).network.outbox := by
  unfold Endpoint.notified
  rcases machine.network.send_cases machine.now endpoint.socket source
      (Packet.error (Notice.ofCode .unknownTransferId)).encode with
    ⟨error, faults, hsend⟩ | hsend
  · rw [hsend]
    exact lawful_of_eq_nil quiet
  · rw [hsend]
    intro datagram hmem notice hdecode
    simp only [quiet, List.nil_append] at hmem
    obtain rfl := List.mem_singleton.mp hmem
    obtain ⟨text, htext⟩ := Packet.decode_encodeError .unknownTransferId
      (Notice.ofCode .unknownTransferId).message
    have hnotice := htext.symm.trans hdecode
    cases hnotice
    exact ErrorCode.noConfusion

/-! ## Datagrams on their way -/

theorem carriesBlocks_nil (left : Endpoint) (wire : Bytes) (index : Nat) :
    CarriesBlocks left wire index [] := fun _ h ↦ absurd h List.not_mem_nil

theorem carriesAcks_nil (right : Endpoint) (index : Nat) : CarriesAcks right index [] :=
  fun _ h ↦ absurd h List.not_mem_nil

theorem CarriesBlocks.mono {forth : List Sent} (h : CarriesBlocks left wire index forth)
    {later : Nat} (hle : index ≤ later) : CarriesBlocks left wire later forth := by
  intro sent hsent
  obtain ⟨before, hbefore, now, rfl⟩ := h sent hsent
  exact ⟨before, Nat.le_trans hbefore hle, now, rfl⟩

theorem CarriesAcks.mono {back : List Sent} (h : CarriesAcks right index back) {later : Nat}
    (hle : index ≤ later) : CarriesAcks right later back := by
  intro sent hsent
  obtain ⟨number, hnumber, now, rfl⟩ := h sent hsent
  exact ⟨number, Nat.le_trans hnumber hle, now, rfl⟩

theorem CarriesBlocks.append {first second : List Sent} (h : CarriesBlocks left wire index first)
    (hsecond : CarriesBlocks left wire index second) :
    CarriesBlocks left wire index (first ++ second) := by
  intro sent hsent
  rcases List.mem_append.mp hsent with hsent | hsent
  · exact h sent hsent
  · exact hsecond sent hsent

theorem CarriesAcks.append {first second : List Sent} (h : CarriesAcks right index first)
    (hsecond : CarriesAcks right index second) : CarriesAcks right index (first ++ second) := by
  intro sent hsent
  rcases List.mem_append.mp hsent with hsent | hsent
  · exact h sent hsent
  · exact hsecond sent hsent

/-! ## The sender -/

/-- A turn of the sender that sends nothing. -/
theorem SenderReaches.of_quiet {outcome : Course × Machine} (h : SenderAt left wire index outcome.1)
    (quiet : outcome.2.network.outbox = []) : SenderReaches left wire index outcome := by
  refine ⟨h, ?_, lawful_of_eq_nil quiet⟩
  rw [posted_nil _ _ quiet]
  exact carriesBlocks_nil _ _ _

theorem SenderAt.of_failed {session : Session} {stream : Stream} {error : SystemError}
    (stage : session.stage = .failed) :
    SenderAt left wire index (.ended session stream (.error (.socket error))) :=
  .failed stage fun _ ↦ TransferError.noConfusion

/-- A sender that has sent its block waits for it or has failed, and nothing else is on its way. -/
theorem SenderReaches.of_posts (h : Sending left wire index transfer)
    {outcome : Course × Machine}
    (hposts : left.Posts machine (dataPacket wire index) (.running transfer) outcome)
    (quiet : machine.network.outbox = []) : SenderReaches left wire index outcome := by
  rcases hposts.cases quiet with ⟨hcourse, houtbox⟩ | ⟨session, error, hstage, hcourse, houtbox⟩
  · refine ⟨hcourse ▸ .waiting h, ?_, houtbox ▸ lawful_dataPacket _ _ _ _⟩
    rw [hcourse, posted_singleton left _ _ _ houtbox]
    intro sent hsent
    rw [List.mem_singleton.mp hsent, Course.blocks, h.summary]
    exact ⟨index, Nat.le_refl _, _, rfl⟩
  · exact SenderReaches.of_quiet (hcourse ▸ .of_failed hstage) houtbox

/-- The sender moves on only to a block that follows one which the receiver has stored. -/
theorem SenderReaches.of_event (facing : left.Faces right) (h : Sending left wire index transfer)
    {stored : Nat} (hstored : stored ≤ index + 1) {back : List Sent}
    (hback : CarriesAcks right stored back) (hle : index ≤ stored) {event : Event}
    (possible : Possible back transfer event) (quiet : machine.network.outbox = [])
    (now since : Nat) :
    ∃ later, index ≤ later ∧ later ≤ stored ∧
      SenderReaches left wire later (machine.run (transfer.react event now since)) := by
  cases possible with
  | expiry =>
    refine ⟨index, Nat.le_refl _, hle, ?_⟩
    rcases Nat.lt_or_ge (transfer.exchange.attempts + 1) left.config.maxRetries with hlt | hge
    · have hposts := h.owns.run_expiry hlt machine now since
      rw [h.outstanding] at hposts
      exact .of_posts (h.retimed _ _ _) hposts quiet
    · obtain ⟨session, hstage, hrun⟩ := h.owns.run_expiry_last hge machine now since
      rw [hrun]
      exact .of_quiet (.failed hstage fun _ ↦ TransferError.noConfusion) quiet
  | receiveError error =>
    refine ⟨index, Nat.le_refl _, hle, ?_⟩
    rcases Endpoint.Owns.run_receiveError transfer error machine now since with
      hrun | ⟨session, hstage, hrun⟩
    · rw [hrun]
      exact .of_quiet (.waiting (h.retimed _ _ since)) quiet
    · rw [hrun]
      exact .of_quiet (.of_failed hstage) quiet
  | stranger foreign datagram =>
    refine ⟨index, Nat.le_refl _, hle, ?_⟩
    rw [h.owns.drives.peer] at foreign
    rw [h.owns.run_stranger foreign datagram machine now since]
    refine ⟨.waiting (h.retimed _ _ since), ?_, lawful_notified left quiet _⟩
    rw [show posted _ left.peer _ = [] from posted_notified quiet foreign _]
    exact carriesBlocks_nil _ _ _
  | arrival mem recent =>
    obtain ⟨number, hnumber, time, rfl⟩ := hback _ mem
    rw [h.summary] at recent
    simp only [Endpoint.datagram, facing.back]
    rcases Nat.lt_or_ge index number with hlt | hge
    · obtain rfl : number = index + 1 := by omega
      refine ⟨index + 1, Nat.le_succ _, hnumber, ?_⟩
      rcases Nat.lt_or_ge (index + 1) (blockCount wire) with hmore | hlast
      · obtain ⟨next, hnext, -, -, hposts⟩ := h.run_acknowledged hmore machine now since
        exact .of_posts hnext hposts quiet
      · have heq : index + 1 = blockCount wire := Nat.le_antisymm h.index_lt hlast
        obtain ⟨session, hstage, hrun⟩ := h.run_acknowledged_last heq machine now since
        rw [hrun]
        exact .of_quiet (.completed hstage heq) quiet
    · rw [h.run_acknowledged_stale hge recent machine now since]
      exact ⟨index, Nat.le_refl _, hle, .of_quiet (.waiting (h.retimed _ _ since)) quiet⟩

/-! ## The receiver -/

/-- A turn of the receiver that sends nothing. -/
theorem ReceiverReaches.of_quiet {outcome : Course × Machine}
    (h : ReceiverAt right content index outcome.1) (quiet : outcome.2.network.outbox = []) :
    ReceiverReaches right content index outcome := by
  refine ⟨h, ?_, lawful_of_eq_nil quiet⟩
  rw [posted_nil _ _ quiet]
  exact carriesAcks_nil _ _

/-- A failed receiver still holds what it had stored. -/
theorem ReceiverAt.of_failed (h : Receiving right content index transfer) {session : Session}
    (stage : session.stage = .failed) {error : TransferError}
    (lawful : ∀ reason, error ≠ .protocol reason) :
    ReceiverAt right content index (.ended session transfer.stream (.error error)) := by
  obtain ⟨sink, hstream, hprefix⟩ := h.written_prefix
  rw [hstream]
  exact .failed stage h.index_lt hprefix lawful

/-- A receiver that has sent its acknowledgment waits for more or has failed, and nothing else is
on its way. -/
theorem ReceiverReaches.of_posts (h : Receiving right content index transfer)
    {outcome : Course × Machine}
    (hposts : right.Posts machine (ackPacket index) (.running transfer) outcome)
    (quiet : machine.network.outbox = []) : ReceiverReaches right content index outcome := by
  rcases hposts.cases quiet with ⟨hcourse, houtbox⟩ | ⟨session, error, hstage, hcourse, houtbox⟩
  · refine ⟨hcourse ▸ .waiting h, ?_, houtbox ▸ lawful_ackPacket _ _ _⟩
    rw [hcourse, posted_singleton right _ _ _ houtbox]
    intro sent hsent
    rw [List.mem_singleton.mp hsent, Course.blocks, h.summary]
    exact ⟨index, Nat.le_refl _, _, rfl⟩
  · have hlawful : ∀ reason, TransferError.socket error ≠ .protocol reason :=
      fun _ ↦ TransferError.noConfusion
    have hfailed := ReceiverAt.of_failed h hstage hlawful
    exact ReceiverReaches.of_quiet (hcourse ▸ hfailed) houtbox

/-- The receiver that has stored everything is complete once its acknowledgment has left; if that
fails it has failed. -/
theorem ReceiverReaches.of_posts_last
    (hlast : index + 1 = blockCount (right.mode.wire content)) {session : Session} {sink : Sink}
    (hstage : session.stage = .completed) (hstored : sink.written.toBytes = content)
    {bytes : Nat} {outcome : Course × Machine}
    (hposts : right.Posts machine (ackPacket (index + 1))
      (.ended session (.sink sink) (.ok ⟨blockCount (right.mode.wire content), bytes⟩)) outcome)
    (quiet : machine.network.outbox = []) :
    ∃ later, index ≤ later ∧ later ≤ index + 1 ∧ ReceiverReaches right content later outcome := by
  rcases hposts.cases quiet with ⟨hcourse, houtbox⟩ | ⟨failed, error, hfailed, hcourse, houtbox⟩
  · refine ⟨index + 1, Nat.le_succ _, Nat.le_refl _, hcourse ▸ .completed hstage hlast hstored, ?_,
      houtbox ▸ lawful_ackPacket _ _ _⟩
    rw [hcourse, posted_singleton right _ _ _ houtbox]
    intro sent hsent
    rw [List.mem_singleton.mp hsent, Course.blocks, ← hlast]
    exact ⟨index + 1, Nat.le_refl _, _, rfl⟩
  · have hprefix : sink.written.toBytes <+: content := hstored ▸ List.prefix_refl _
    exact ⟨index, Nat.le_refl _, Nat.le_succ _, .of_quiet
      (hcourse ▸ .failed hfailed (by omega) hprefix fun _ ↦ TransferError.noConfusion) houtbox⟩

/-- The receiver moves on only to a block that the sender has sent. -/
theorem ReceiverReaches.of_event (facing : left.Faces right)
    (h : Receiving right content index transfer) {sent : Nat} (hsent : sent ≤ index)
    (hle : index ≤ sent + 1) {forth : List Sent}
    (hforth : CarriesBlocks left (right.mode.wire content) sent forth) {event : Event}
    (possible : Possible forth transfer event) (quiet : machine.network.outbox = [])
    (now since : Nat) :
    ∃ later, index ≤ later ∧ later ≤ sent + 1 ∧
      ReceiverReaches right content later (machine.run (transfer.react event now since)) := by
  cases possible with
  | expiry =>
    refine ⟨index, Nat.le_refl _, hle, ?_⟩
    rcases Nat.lt_or_ge (transfer.exchange.attempts + 1) right.config.maxRetries with hlt | hge
    · have hposts := h.owns.run_expiry hlt machine now since
      rw [h.outstanding] at hposts
      exact .of_posts (h.retimed _ _ _) hposts quiet
    · obtain ⟨session, hstage, hrun⟩ := h.owns.run_expiry_last hge machine now since
      rw [hrun]
      exact .of_quiet (ReceiverAt.of_failed h hstage fun _ ↦ TransferError.noConfusion) quiet
  | receiveError error =>
    refine ⟨index, Nat.le_refl _, hle, ?_⟩
    rcases Endpoint.Owns.run_receiveError transfer error machine now since with
      hrun | ⟨session, hstage, hrun⟩
    · rw [hrun]
      exact .of_quiet (.waiting (h.retimed _ _ since)) quiet
    · rw [hrun]
      exact .of_quiet (ReceiverAt.of_failed h hstage fun _ ↦ TransferError.noConfusion) quiet
  | stranger foreign datagram =>
    refine ⟨index, Nat.le_refl _, hle, ?_⟩
    rw [h.owns.drives.peer] at foreign
    rw [h.owns.run_stranger foreign datagram machine now since]
    refine ⟨.waiting (h.retimed _ _ since), ?_, lawful_notified right quiet _⟩
    rw [show posted _ right.peer _ = [] from posted_notified quiet foreign _]
    exact carriesAcks_nil _ _
  | arrival mem recent =>
    obtain ⟨before, hbefore, time, rfl⟩ := hforth _ mem
    rw [h.summary] at recent
    simp only [Endpoint.datagram, facing.forth]
    rcases Nat.lt_or_ge before index with hlt | hge
    · have hposts := h.run_stale (length_chunk_le (right.mode.wire content) before) hlt recent
        machine now since
      exact ⟨index, Nat.le_refl _, hle, .of_posts (h.retimed _ _ since) hposts quiet⟩
    · obtain rfl : before = index := by omega
      obtain rfl : sent = before := by omega
      rcases Nat.lt_or_ge (sent + 1) (blockCount (right.mode.wire content)) with hmore | hlast
      · obtain ⟨next, hnext, -, -, hposts⟩ := h.run_current hmore machine now since
        exact ⟨sent + 1, Nat.le_succ _, Nat.le_refl _, .of_posts hnext hposts quiet⟩
      · have heq := Nat.le_antisymm h.index_lt hlast
        obtain ⟨session, stored, hstage, hstored, hposts⟩ :=
          h.run_current_last heq machine now since
        exact ReceiverReaches.of_posts_last heq hstage hstored hposts quiet

/-! ## Runs -/

theorem invariant_step (facing : left.Faces right) {sent stored : Nat} {pair next : Pair}
    (h : Invariant left right content sent stored pair) (hstep : Step pair next) :
    ∃ sent stored, Invariant left right content sent stored next := by
  obtain ⟨hsender, hreceiver, hle, hsucc, hforth, hback, hlawful⟩ := h
  cases hstep with
  | sender running possible quiet now since =>
    rw [running] at hsender
    cases hsender with
    | waiting sending =>
      obtain ⟨later, hlater, hstored, hreaches⟩ :=
        SenderReaches.of_event facing sending hsucc hback hle possible quiet now since
      have hposted := hreaches.carries
      rw [← sending.owns.drives.peer] at hposted
      exact ⟨later, stored, hreaches.position, hreceiver, hstored,
        Nat.le_trans hsucc (Nat.succ_le_succ hlater), (hforth.mono hlater).append hposted, hback,
        hlawful.append hreaches.lawful⟩
  | receiver running possible quiet now since =>
    rw [running] at hreceiver
    cases hreceiver with
    | waiting receiving =>
      obtain ⟨later, hlater, hsent, hreaches⟩ :=
        ReceiverReaches.of_event facing receiving hle hsucc hforth possible quiet now since
      have hposted := hreaches.carries
      rw [← receiving.owns.drives.peer] at hposted
      exact ⟨sent, later, hsender, hreaches.position, Nat.le_trans hle hlater, hsent, hforth,
        (hback.mono hlater).append hposted, hlawful.append hreaches.lawful⟩

theorem invariant_start (facing : left.Faces right) {source : Source} {sink : Sink} {pair : Pair}
    (reliable : source.IsReliable) (empty : sink.written.toBytes = [])
    (room : sink.HasRoom source.rest.length) (hstart : Starts left right source sink pair) :
    Invariant left right source.rest 0 0 pair := by
  cases hstart with
  | begin sendingQuiet receivingQuiet sendingNow receivingNow sendingSince receivingSince =>
    obtain ⟨sender, hsending, -, -, hsent⟩ := Sending.run_start left reliable _ sendingNow
      sendingSince
    obtain ⟨receiver, hreceiving, -, -, hreceived⟩ := Receiving.run_start right empty room _
      receivingNow receivingSince
    have hsender := SenderReaches.of_posts hsending hsent sendingQuiet
    have hreceiver := ReceiverReaches.of_posts hreceiving hreceived receivingQuiet
    rw [facing.mode] at hsender
    exact ⟨hsender.position, hreceiver.position, Nat.le_refl _, Nat.zero_le _, hsender.carries,
      hreceiver.carries, hsender.lawful.append hreceiver.lawful⟩

theorem invariant_run (facing : left.Faces right) {sent stored : Nat} {first last : Pair}
    (h : Invariant left right content sent stored first)
    (hrun : Relation.ReflTransGen Step first last) :
    ∃ sent stored, Invariant left right content sent stored last := by
  induction hrun with
  | refl => exact ⟨sent, stored, h⟩
  | tail _ hstep ih =>
    obtain ⟨sent, stored, hbefore⟩ := ih
    exact invariant_step facing hbefore hstep

/-! ## Safety -/

theorem SenderAt.lawful {course : Course} (h : SenderAt left wire index course) :
    ¬ course.EndsInViolation := by
  rintro ⟨session, stream, reason, rfl⟩
  cases h with
  | failed stage lawful => exact lawful reason rfl

theorem ReceiverAt.lawful {course : Course} (h : ReceiverAt right content index course) :
    ¬ course.EndsInViolation := by
  rintro ⟨session, stream, reason, rfl⟩
  cases h with
  | failed stage index_lt stored lawful => exact lawful reason rfl

theorem ReceiverAt.written_prefix {course : Course} (h : ReceiverAt right content index course) :
    course.written <+: content := by
  cases h with
  | waiting receiving =>
    obtain ⟨sink, hstream, hprefix⟩ := receiving.written_prefix
    rw [Course.written, Course.stream, hstream]
    exact hprefix
  | completed stage all stored => exact stored ▸ List.prefix_refl _
  | failed stage index_lt stored lawful => exact stored

/-- Only a receiver that has stored every block is complete. -/
theorem ReceiverAt.completed_iff {course : Course} (h : ReceiverAt right content index course) :
    course.stage = .completed ↔ index = blockCount (right.mode.wire content) := by
  cases h with
  | waiting receiving =>
    simp only [Course.stage, receiving.owns.drives.stage, reduceCtorEq, false_iff]
    exact Nat.ne_of_lt receiving.index_lt
  | completed stage all stored => simp only [Course.stage, stage, all]
  | failed stage index_lt stored lawful =>
    simp only [Course.stage, stage, reduceCtorEq, false_iff]
    exact Nat.ne_of_lt index_lt

theorem ReceiverAt.index_le {course : Course} (h : ReceiverAt right content index course) :
    index ≤ blockCount (right.mode.wire content) := by
  cases h with
  | waiting receiving => exact Nat.le_of_lt receiving.index_lt
  | completed stage all stored => exact Nat.le_of_eq all
  | failed stage index_lt stored lawful => exact Nat.le_of_lt index_lt

theorem ReceiverAt.written_of_completed {course : Course}
    (h : ReceiverAt right content index course) (hcompleted : course.stage = .completed) :
    course.written = content := by
  cases h with
  | waiting receiving =>
    rw [Course.stage, receiving.owns.drives.stage] at hcompleted
    cases hcompleted
  | completed stage all stored => exact stored
  | failed stage index_lt stored lawful =>
    rw [Course.stage, stage] at hcompleted
    cases hcompleted

theorem SenderAt.all_of_completed {course : Course} (h : SenderAt left wire index course)
    (hcompleted : course.stage = .completed) : index = blockCount wire := by
  cases h with
  | waiting sending =>
    rw [Course.stage, sending.owns.drives.stage] at hcompleted
    cases hcompleted
  | completed stage all => exact all
  | failed stage lawful =>
    rw [Course.stage, stage] at hcompleted
    cases hcompleted

/-- What may be relied on at every moment of the exchange. -/
structure Safe (content : Bytes) (pair : Pair) : Prop where
  stored_prefix : pair.receiver.written <+: content
  stored_all : pair.receiver.stage = .completed → pair.receiver.written = content
  receiver_first : pair.sender.stage = .completed → pair.receiver.stage = .completed
  sender_lawful : ¬ pair.sender.EndsInViolation
  receiver_lawful : ¬ pair.receiver.EndsInViolation
  accuses_nobody : Lawful pair.departed
  /-- The numbers without a bound are those that the packets carry sixteen bits of. -/
  forth_numbered : ∀ sent ∈ pair.forth, ∃ payload,
    Packet.decode sent.datagram.payload = .ok (.data (UInt16.ofNat sent.number) payload)
  back_numbered : ∀ sent ∈ pair.back,
    Packet.decode sent.datagram.payload = .ok (.ack (UInt16.ofNat sent.number))

theorem CarriesBlocks.numbered {forth : List Sent} (h : CarriesBlocks left wire index forth) :
    ∀ sent ∈ forth, ∃ payload,
      Packet.decode sent.datagram.payload = .ok (.data (UInt16.ofNat sent.number) payload) := by
  intro sent hsent
  obtain ⟨before, -, now, rfl⟩ := h sent hsent
  exact ⟨chunk wire before, Packet.decode_encodeData (length_chunk_le wire before)⟩

theorem CarriesAcks.numbered {back : List Sent} (h : CarriesAcks right index back) :
    ∀ sent ∈ back, Packet.decode sent.datagram.payload = .ok (.ack (UInt16.ofNat sent.number)) := by
  intro sent hsent
  obtain ⟨number, -, now, rfl⟩ := h sent hsent
  exact Packet.decode_encodeAck _

theorem Invariant.safe {sent stored : Nat} {pair : Pair}
    (h : Invariant left right content sent stored pair) : Safe content pair := by
  refine ⟨h.receiver.written_prefix, h.receiver.written_of_completed, ?_, h.sender.lawful,
    h.receiver.lawful, h.lawful, h.forth.numbered, h.back.numbered⟩
  intro hcompleted
  have hsent := h.sender.all_of_completed hcompleted
  have hstored := h.receiver.index_le
  have hle := h.le
  exact h.receiver.completed_iff.mpr (by omega)

/-- Whatever the network does with datagrams that are not half the ring behind, whatever the
clocks show and whichever sends fail, the exchange of a source that yields all its bytes with a
sink that takes them is safe in every state that it can come to. -/
theorem safe_of_reachable (facing : left.Faces right) {source : Source} {sink : Sink}
    (reliable : source.IsReliable) (empty : sink.written.toBytes = [])
    (room : sink.HasRoom source.rest.length) {first last : Pair}
    (starts : Starts left right source sink first) (run : Relation.ReflTransGen Step first last) :
    Safe source.rest last := by
  have hstart := invariant_start facing reliable empty room starts
  obtain ⟨sent, stored, hlast⟩ := invariant_run facing hstart run
  exact hlast.safe

/-! ## One exchange -/

/-- Two ends on one host that face each other. -/
def localSender : Endpoint := ⟨⟨.localhost .four, 1069, 0⟩, ⟨.localhost .four, 2069, 0⟩, .octet, {}⟩

def localReceiver : Endpoint :=
  ⟨⟨.localhost .four, 2069, 0⟩, ⟨.localhost .four, 1069, 0⟩, .octet, {}⟩

/-- A source of one block. -/
def shortSource : Source := { data := ⟨#[104, 105]⟩ }

/-- The two ends after their first turns. -/
def begun : Pair :=
  ofOutcomes localSender localReceiver
    (({} : Machine).run (Activity.Run.start (.send none shortSource) localSender.socket
      localSender.session 0 0))
    (({} : Machine).run (Activity.Run.start (.receive (Packet.encodeAck 0) {})
      localReceiver.socket localReceiver.session 0 1))

/-- The receiver of a source with one block has taken it while its sender waits on. -/
theorem safe_after_arrival :
    ∃ pair, Step begun pair ∧ pair.receiver.stage = .completed ∧
      pair.sender.stage = .transferring ∧ Safe shortSource.rest pair := by
  have starts : Starts localSender localReceiver shortSource {} begun := .begin rfl rfl 0 0 0 1
  have mem : Sent.mk 1 (localSender.datagram 0 (dataPacket [104, 105] 0)) ∈ begun.forth :=
    List.mem_singleton_self _
  have quiet : ({} : Machine).network.outbox = [] := rfl
  have step := Step.receiver rfl (.arrival mem (by decide)) quiet 0 2
  have facing : localSender.Faces localReceiver := ⟨rfl, rfl, rfl⟩
  have reliable : shortSource.IsReliable := ⟨by decide, by decide, rfl⟩
  have hsafe := safe_of_reachable facing reliable rfl ⟨rfl, rfl⟩ starts (.single step)
  exact ⟨_, step, rfl, rfl, hsafe⟩

end Pair

end Lockstep
