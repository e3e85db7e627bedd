import Lockstep.Proofs.Pair

/-!
# A line that loses datagrams

A sender and a receiver at the two ends of a line that keeps the order of the datagrams and takes
no time for them, but may lose some. The clock moves to the next alarm when nothing is left to be
done at this moment. In which order the two ends are served within one moment is left open.
-/

namespace Lockstep

open Session

namespace Course

/-- When a transfer that waits will be alarmed. -/
def deadline? : Course → Option Nat
  | .running transfer => some transfer.exchange.deadline
  | .ended _ _ _ => none

/-- The number of alarms that are due, which is one or zero. -/
def alarms (clock : Nat) : Course → Nat
  | .running transfer => if transfer.exchange.deadline ≤ clock then 1 else 0
  | .ended _ _ _ => 0

theorem alarms_le_one (clock : Nat) (course : Course) : course.alarms clock ≤ 1 := by
  cases course with
  | running transfer =>
    rw [alarms]
    split <;> omega
  | ended session stream result => exact Nat.zero_le _

theorem alarms_of_due {clock : Nat} {transfer : Transfer}
    (due : transfer.exchange.deadline ≤ clock) : (running transfer).alarms clock = 1 :=
  if_pos due

theorem alarms_of_later {clock : Nat} {transfer : Transfer}
    (later : clock < transfer.exchange.deadline) : (running transfer).alarms clock = 0 :=
  if_neg (Nat.not_le.mpr later)

end Course

/-- Nothing has left the machine yet, and nothing will keep a datagram from leaving. -/
structure Machine.IsClear (machine : Machine) (clock : Nat) : Prop where
  now : machine.now = clock
  faults : machine.network.faults = []
  outbox : machine.network.outbox = []

structure Line where
  clock : Nat
  sender : Course
  receiver : Course
  /-- What is on its way to the receiver, the oldest first. -/
  forth : List Sent := []
  back : List Sent := []
  /-- How many datagrams were lost. -/
  lost : Nat := 0

namespace Line

/-- The sender has come to `outcome`, and what it sent is on its way. -/
def afterSender (line : Line) (peer : SocketAddress) (outcome : Course × Machine) : Line :=
  { line with
    sender := outcome.1
    forth := line.forth ++ Pair.posted outcome.2 peer (outcome.1.blocks + 1) }

def afterReceiver (line : Line) (peer : SocketAddress) (outcome : Course × Machine) : Line :=
  { line with
    receiver := outcome.1
    back := line.back ++ Pair.posted outcome.2 peer outcome.1.blocks }

/-- One of the two waits for an alarm at this time. -/
def Awaits (line : Line) (time : Nat) : Prop :=
  line.sender.deadline? = some time ∨ line.receiver.deadline? = some time

instance (line : Line) : DecidablePred line.Awaits := fun time ↦
  inferInstanceAs (Decidable (line.sender.deadline? = some time ∨
    line.receiver.deadline? = some time))

/-- What can happen on a line that loses no more than `losses` datagrams, and not the
acknowledgment of block `final`. -/
inductive Step (losses final : Nat) : Line → Line → Prop where
  | senderAlarm {line : Line} {transfer : Transfer} (running : line.sender = .running transfer)
      (due : transfer.exchange.deadline ≤ line.clock) {machine : Machine}
      (clear : machine.IsClear line.clock) (since : Nat) :
      Step losses final line (line.afterSender transfer.session.peer
        (machine.run (transfer.react .expiry line.clock since)))
  | receiverAlarm {line : Line} {transfer : Transfer}
      (running : line.receiver = .running transfer)
      (due : transfer.exchange.deadline ≤ line.clock) {machine : Machine}
      (clear : machine.IsClear line.clock) (since : Nat) :
      Step losses final line (line.afterReceiver transfer.session.peer
        (machine.run (transfer.react .expiry line.clock since)))
  | toReceiver {line : Line} {transfer : Transfer} (running : line.receiver = .running transfer)
      {sent : Sent} {others : List Sent} (next : line.forth = sent :: others) {machine : Machine}
      (clear : machine.IsClear line.clock) (since : Nat) :
      Step losses final line ({ line with forth := others }.afterReceiver transfer.session.peer
        (machine.run (transfer.react (.arrival sent.datagram.source sent.datagram.payload)
          line.clock since)))
  | toSender {line : Line} {transfer : Transfer} (running : line.sender = .running transfer)
      {sent : Sent} {others : List Sent} (next : line.back = sent :: others) {machine : Machine}
      (clear : machine.IsClear line.clock) (since : Nat) :
      Step losses final line ({ line with back := others }.afterSender transfer.session.peer
        (machine.run (transfer.react (.arrival sent.datagram.source sent.datagram.payload)
          line.clock since)))
  /-- Nobody is there any more to take the datagram. -/
  | pastReceiver {line : Line} (ended : line.receiver.deadline? = none) {sent : Sent}
      {others : List Sent} (next : line.forth = sent :: others) :
      Step losses final line { line with forth := others }
  | pastSender {line : Line} (ended : line.sender.deadline? = none) {sent : Sent}
      {others : List Sent} (next : line.back = sent :: others) :
      Step losses final line { line with back := others }
  | loseBlock {line : Line} {sent : Sent} {others : List Sent}
      (next : line.forth = sent :: others) (few : line.lost < losses) :
      Step losses final line { line with forth := others, lost := line.lost + 1 }
  | loseAck {line : Line} {sent : Sent} {others : List Sent} (next : line.back = sent :: others)
      (few : line.lost < losses) (earlier : sent.number ≠ final) :
      Step losses final line { line with back := others, lost := line.lost + 1 }
  | tick {line : Line} (forth : line.forth = []) (back : line.back = []) {time : Nat}
      (later : line.clock < time) (awaited : line.Awaits time)
      (first : ∀ other, line.Awaits other → time ≤ other) :
      Step losses final line { line with clock := time }

/-- The first turns of the two ends, at the same moment. -/
inductive Starts (left right : Endpoint) (source : Source) (sink : Sink) : Line → Prop where
  | begin {clock : Nat} {sendingMachine receivingMachine : Machine}
      (sendingClear : sendingMachine.IsClear clock)
      (receivingClear : receivingMachine.IsClear clock) (sendingSince receivingSince : Nat) :
      Starts left right source sink
        (((Line.mk clock (sendingMachine.run (Activity.Run.start (.send none source) left.socket
              left.session clock sendingSince)).1
            (receivingMachine.run (Activity.Run.start (.receive (Packet.encodeAck 0) sink)
              right.socket right.session clock receivingSince)).1 [] [] 0).afterSender left.peer
          (sendingMachine.run (Activity.Run.start (.send none source) left.socket left.session
            clock sendingSince))).afterReceiver right.peer
          (receivingMachine.run (Activity.Run.start (.receive (Packet.encodeAck 0) sink)
            right.socket right.session clock receivingSince)))

/-- Both transfers are complete, they have moved the same blocks and bytes, and the sink holds
`content`. -/
def Delivered (content : Bytes) (line : Line) : Prop :=
  ∃ (sending receiving : Session) (stream : Stream) (sink : Sink) (summary : Summary),
    line.sender = .ended sending stream (.ok summary) ∧ sending.stage = .completed ∧
      line.receiver = .ended receiving (.sink sink) (.ok summary) ∧
      receiving.stage = .completed ∧ sink.written.toBytes = content

end Line

/-- The two ends of a line: they face each other, they can reach each other, and they are as
patient as each other. -/
structure Endpoint.Joined (left right : Endpoint) (timeout retries : Nat) : Prop
    extends left.Faces right where
  leftFamily : left.socket.ip.family = left.peer.ip.family
  rightFamily : right.socket.ip.family = right.peer.ip.family
  leftTimeout : left.config.timeout = timeout
  rightTimeout : right.config.timeout = timeout
  leftRetries : left.config.maxRetries = retries
  rightRetries : right.config.maxRetries = retries
  positive : 0 < timeout

namespace Line

variable {left right : Endpoint} {content wire : Bytes} {index timeout retries clock ticks : Nat}
  {transfer : Transfer} {machine : Machine} {line : Line}

/-! ## What leaves the ends -/

/-- Block number `index + 1` as it leaves the sender. -/
def block (left : Endpoint) (wire : Bytes) (clock index : Nat) : Sent :=
  ⟨index + 1, left.datagram clock (dataPacket wire index)⟩

def ack (right : Endpoint) (clock number : Nat) : Sent :=
  ⟨number, right.datagram clock (ackPacket number)⟩

theorem posted_of_posts {endpoint : Endpoint} {packet : Bytes} {course : Course}
    {outcome : Course × Machine} (h : endpoint.Posts machine packet course outcome)
    (clear : machine.IsClear clock) (family : endpoint.socket.ip.family = endpoint.peer.ip.family)
    (short : packet.length ≤ maxPacketSize) (number : Nat) :
    outcome.1 = course ∧
      Pair.posted outcome.2 endpoint.peer number = [⟨number, endpoint.datagram clock packet⟩] := by
  have hlength : packet.length ≤ maxDatagramSize := Nat.le_trans short (by decide)
  have houtcome := h.of_clear clear.faults family hlength
  rw [houtcome, clear.outbox, List.nil_append, clear.now]
  exact ⟨rfl, Pair.posted_singleton endpoint number clock packet rfl⟩

/-- A sender that has sent its block waits, and the block is on its way. -/
theorem afterSender_of_posts (joined : left.Joined right timeout retries)
    (h : Sending left wire index transfer) {outcome : Course × Machine}
    (hposts : left.Posts machine (dataPacket wire index) (.running transfer) outcome)
    (clear : machine.IsClear clock) (line : Line) :
    line.afterSender left.peer outcome =
      { line with
        sender := .running transfer
        forth := line.forth ++ [block left wire clock index] } := by
  obtain ⟨hcourse, hposted⟩ := posted_of_posts hposts clear joined.leftFamily
    (length_dataPacket_le wire index) (outcome.1.blocks + 1)
  have hblocks : (Course.running transfer).blocks = index := by rw [Course.blocks, h.summary]
  rw [afterSender, hposted, hcourse, hblocks]
  rfl

theorem afterReceiver_of_posts (joined : left.Joined right timeout retries) {course : Course}
    (hblocks : course.blocks = index) {outcome : Course × Machine}
    (hposts : right.Posts machine (ackPacket index) course outcome)
    (clear : machine.IsClear clock) (line : Line) :
    line.afterReceiver right.peer outcome =
      { line with
        receiver := course
        back := line.back ++ [ack right clock index] } := by
  have hlength : (ackPacket index).length ≤ maxPacketSize := by
    rw [ackPacket, Packet.length_encodeAck]
    decide
  obtain ⟨hcourse, hposted⟩ := posted_of_posts hposts clear joined.rightFamily hlength
    outcome.1.blocks
  rw [afterReceiver, hposted, hcourse, hblocks]
  rfl

theorem afterSender_of_quiet (line : Line) (peer : SocketAddress) (course : Course)
    (clear : machine.IsClear clock) :
    line.afterSender peer (course, machine) = { line with sender := course } := by
  rw [afterSender, Pair.posted_nil _ _ clear.outbox, List.append_nil]

/-! ## Queues -/

/-- The numbers in the queue lie between two bounds and do not descend. -/
structure Ascends (low high : Nat) (queue : List Sent) : Prop where
  low : ∀ sent ∈ queue, low ≤ sent.number
  high : ∀ sent ∈ queue, sent.number ≤ high
  sorted : queue.Pairwise (·.number ≤ ·.number)

theorem Ascends.nil (low high : Nat) : Ascends low high [] :=
  ⟨fun _ h ↦ absurd h List.not_mem_nil, fun _ h ↦ absurd h List.not_mem_nil, .nil⟩

theorem Ascends.mono {low high : Nat} {queue : List Sent} (h : Ascends low high queue)
    {high' : Nat} (hhigh : high ≤ high') : Ascends low high' queue :=
  ⟨h.low, fun sent hsent ↦ Nat.le_trans (h.high sent hsent) hhigh, h.sorted⟩

/-- Behind the head there is nothing that precedes it. -/
theorem Ascends.tail {low high : Nat} {sent : Sent} {others : List Sent}
    (h : Ascends low high (sent :: others)) : Ascends sent.number high others := by
  obtain ⟨hhead, hsorted⟩ := List.pairwise_cons.mp h.sorted
  exact ⟨hhead, fun other hother ↦ h.high other (List.mem_cons_of_mem _ hother), hsorted⟩

theorem Ascends.rest {low high : Nat} {sent : Sent} {others : List Sent}
    (h : Ascends low high (sent :: others)) : Ascends low high others :=
  ⟨fun other hother ↦ h.low other (List.mem_cons_of_mem _ hother),
    fun other hother ↦ h.high other (List.mem_cons_of_mem _ hother), h.sorted.tail⟩

theorem Ascends.push {low high : Nat} {queue : List Sent} (h : Ascends low high queue)
    (hle : low ≤ high) {sent : Sent} (hnumber : sent.number = high) :
    Ascends low high (queue ++ [sent]) := by
  refine ⟨?_, ?_, List.pairwise_append.mpr ⟨h.sorted, List.pairwise_singleton _ _, ?_⟩⟩
  · intro other hother
    rcases List.mem_append.mp hother with hother | hother
    · exact h.low other hother
    · rw [List.mem_singleton.mp hother, hnumber]
      exact hle
  · intro other hother
    rcases List.mem_append.mp hother with hother | hother
    · exact h.high other hother
    · rw [List.mem_singleton.mp hother]
      exact Nat.le_of_eq hnumber
  · intro other hother last hlast
    rw [List.mem_singleton.mp hlast, hnumber]
    exact h.high other hother

/-! ## Clocks -/

/-- The transfer is due now and was alarmed fewer times than the clock has moved, or it will be due
a timeout later. -/
structure Timed (timeout clock ticks : Nat) (transfer : Transfer) : Prop where
  attempts_le : transfer.exchange.attempts ≤ ticks
  deadline : transfer.exchange.deadline = clock ∧ transfer.exchange.attempts < ticks ∨
    transfer.exchange.deadline = clock + timeout

theorem Timed.fresh (hattempts : transfer.exchange.attempts = 0)
    (hdeadline : transfer.exchange.deadline = clock + timeout) (ticks : Nat) :
    Timed timeout clock ticks transfer :=
  ⟨by omega, .inr hdeadline⟩

theorem Timed.lt_ticks (h : Timed timeout clock ticks transfer) (positive : 0 < timeout)
    (due : transfer.exchange.deadline ≤ clock) : transfer.exchange.attempts < ticks := by
  rcases h.deadline with ⟨-, hlt⟩ | hlater
  · exact hlt
  · omega

/-- An alarm uses up one of the attempts that the clock allows. -/
theorem Timed.alarm (h : Timed timeout clock ticks transfer) (positive : 0 < timeout)
    (due : transfer.exchange.deadline ≤ clock) (since : Nat) :
    Timed timeout clock ticks
      (transfer.retimed (transfer.exchange.attempts + 1) (clock + timeout) since) :=
  ⟨h.lt_ticks positive due, .inr rfl⟩

theorem Timed.since (h : Timed timeout clock ticks transfer) (since : Nat) :
    Timed timeout clock ticks { transfer with since } :=
  ⟨h.attempts_le, h.deadline⟩

/-- The clock moves on by one timeout, and everybody who waits is due. -/
theorem Timed.tick (h : Timed timeout clock ticks transfer)
    (later : clock < transfer.exchange.deadline) :
    transfer.exchange.deadline = clock + timeout ∧
      Timed timeout (clock + timeout) (ticks + 1) transfer := by
  rcases h.deadline with ⟨hnow, -⟩ | hlater
  · omega
  · exact ⟨hlater, Nat.le_succ_of_le h.attempts_le, .inl ⟨hlater, Nat.lt_succ_of_le h.attempts_le⟩⟩

end Line

end Lockstep
