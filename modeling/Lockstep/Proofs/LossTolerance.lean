import Lockstep.Proofs.Line
import Mathlib.Data.Nat.Find

/-!
# Tolerance of losses

A line that loses fewer datagrams than the two ends have attempts lets a transfer complete, unless
it loses the last acknowledgment, for which nobody would ask again. Every alarm is paid for by a
loss: as long as nothing is lost, what the transfer needs next is on its way or about to be sent,
and no time passes. So the clock moves at most as often as something is lost, both ends are alarmed
at the same moments, and neither of them runs out of attempts.
-/

namespace Lockstep.Line

open Session

/-! ## The invariant -/

/-- Where the sender is, and how it stands with the clock. -/
inductive SenderIs (left : Endpoint) (wire : Bytes) (timeout clock ticks index : Nat) :
    Course → Prop where
  | waiting {transfer : Transfer} (sending : Sending left wire index transfer)
      (timed : Timed timeout clock ticks transfer) :
      SenderIs left wire timeout clock ticks index (.running transfer)
  | completed {session : Session} {stream : Stream} (stage : session.stage = .completed)
      (all : index = blockCount wire) :
      SenderIs left wire timeout clock ticks index
        (.ended session stream (.ok ⟨blockCount wire, wire.length⟩))

inductive ReceiverIs (right : Endpoint) (content : Bytes) (timeout clock ticks index : Nat) :
    Course → Prop where
  | waiting {transfer : Transfer} (receiving : Receiving right content index transfer)
      (timed : Timed timeout clock ticks transfer) :
      ReceiverIs right content timeout clock ticks index (.running transfer)
  | completed {session : Session} {sink : Sink} (stage : session.stage = .completed)
      (all : index = blockCount (right.mode.wire content))
      (stored : sink.written.toBytes = content) :
      ReceiverIs right content timeout clock ticks index (.ended session (.sink sink)
        (.ok ⟨blockCount (right.mode.wire content), (right.mode.wire content).length⟩))

/-- What the transfer needs next is on its way, or somebody is about to send it. -/
structure Live (count sent stored : Nat) (line : Line) : Prop where
  block : stored = sent → sent < count →
    line.sender.alarms line.clock = 1 ∨ ∃ item ∈ line.forth, item.number = sent + 1
  ack : stored = sent + 1 →
    line.receiver.alarms line.clock = 1 ∨ ∃ item ∈ line.back, item.number = stored

/-- The clock has moved `ticks` times, `sent` blocks are acknowledged and `stored` ones stored. All
numbers on the way lie between the positions of the two ends. -/
structure Invariant (left right : Endpoint) (content : Bytes) (timeout losses ticks sent stored : Nat)
    (line : Line) : Prop where
  sender : SenderIs left (right.mode.wire content) timeout line.clock ticks sent line.sender
  receiver : ReceiverIs right content timeout line.clock ticks stored line.receiver
  le : sent ≤ stored
  le_succ : stored ≤ sent + 1
  carriesBlocks : Pair.CarriesBlocks left (right.mode.wire content) sent line.forth
  carriesAcks : Pair.CarriesAcks right stored line.back
  forth : Ascends stored (sent + 1) line.forth
  back : Ascends sent stored line.back
  ticks_le : ticks ≤ line.lost
  lost_le : line.lost ≤ losses
  live : line.lost = ticks → Live (blockCount (right.mode.wire content)) sent stored line
  final : stored = blockCount (right.mode.wire content) →
    sent = stored ∨ ∃ item ∈ line.back, item.number = stored

/-- A bound of what can still happen: the clock may move, the sender may move on, alarms are due,
and datagrams are on their way. -/
def weight (count losses ticks sent : Nat) (line : Line) : Nat :=
  7 * (losses - ticks) + 2 * (count - sent) +
    3 * (line.sender.alarms line.clock + line.receiver.alarms line.clock) +
    2 * line.forth.length + line.back.length

/-- The line is in order, and less than `bound` is left to happen. -/
def Proceeds (left right : Endpoint) (content : Bytes) (timeout losses bound : Nat) (line : Line) :
    Prop :=
  ∃ ticks sent stored, Invariant left right content timeout losses ticks sent stored line ∧
    line.weight (blockCount (right.mode.wire content)) losses ticks sent < bound

variable {left right : Endpoint} {content wire : Bytes}
  {index timeout losses retries clock ticks sent stored : Nat} {transfer : Transfer}
  {machine : Machine} {line : Line}

theorem ReceiverIs.index_le {course : Course}
    (h : ReceiverIs right content timeout clock ticks index course) :
    index ≤ blockCount (right.mode.wire content) := by
  cases h with
  | waiting receiving timed => exact Nat.le_of_lt receiving.index_lt
  | completed stage all stored => exact Nat.le_of_eq all

/-- A sender that nobody can alarm has completed. -/
theorem SenderIs.of_ended {course : Course}
    (h : SenderIs left wire timeout clock ticks index course) (ended : course.deadline? = none) :
    index = blockCount wire ∧ ∃ session stream, session.stage = .completed ∧
      course = .ended session stream (.ok ⟨blockCount wire, wire.length⟩) := by
  cases h with
  | waiting sending timed => cases ended
  | completed stage all => exact ⟨all, _, _, stage, rfl⟩

theorem ReceiverIs.of_ended {course : Course}
    (h : ReceiverIs right content timeout clock ticks index course)
    (ended : course.deadline? = none) :
    index = blockCount (right.mode.wire content) ∧ ∃ session sink, session.stage = .completed ∧
      course = .ended session (.sink sink)
        (.ok ⟨blockCount (right.mode.wire content), (right.mode.wire content).length⟩) ∧
      sink.written.toBytes = content := by
  cases h with
  | waiting receiving timed => cases ended
  | completed stage all stored => exact ⟨all, _, _, stage, rfl, stored⟩

theorem carriesBlocks_rest {item : Sent} {others : List Sent}
    (h : Pair.CarriesBlocks left wire index (item :: others)) :
    Pair.CarriesBlocks left wire index others :=
  fun other hother ↦ h other (List.mem_cons_of_mem _ hother)

theorem carriesAcks_rest {item : Sent} {others : List Sent}
    (h : Pair.CarriesAcks right index (item :: others)) : Pair.CarriesAcks right index others :=
  fun other hother ↦ h other (List.mem_cons_of_mem _ hother)

theorem carriesBlocks_block (left : Endpoint) (wire : Bytes) (clock index : Nat) :
    Pair.CarriesBlocks left wire index [block left wire clock index] := by
  intro item hitem
  exact ⟨index, Nat.le_refl _, clock, List.mem_singleton.mp hitem⟩

theorem carriesAcks_ack (right : Endpoint) (clock index : Nat) :
    Pair.CarriesAcks right index [ack right clock index] := by
  intro item hitem
  exact ⟨index, Nat.le_refl _, clock, List.mem_singleton.mp hitem⟩

/-- A datagram that is not the head of the queue stays in it when the head is taken. -/
theorem exists_rest {item : Sent} {others : List Sent} {number : Nat}
    (h : ∃ sent ∈ item :: others, sent.number = number) (hne : item.number ≠ number) :
    ∃ sent ∈ others, sent.number = number := by
  obtain ⟨sent, hmem, hnumber⟩ := h
  rcases List.mem_cons.mp hmem with rfl | hmem
  · exact absurd hnumber hne
  · exact ⟨sent, hmem, hnumber⟩

/-- The newest datagram is in the queue. -/
theorem exists_last (queue : List Sent) (item : Sent) :
    ∃ sent ∈ queue ++ [item], sent.number = item.number :=
  ⟨item, List.mem_append_right _ (List.mem_singleton_self _), rfl⟩

/-! ## Alarms -/

theorem proceeds_senderAlarm (joined : left.Joined right timeout retries) (hlosses : losses < retries)
    (h : Invariant left right content timeout losses ticks sent stored line)
    (running : line.sender = .running transfer) (due : transfer.exchange.deadline ≤ line.clock)
    (clear : machine.IsClear line.clock) (since : Nat) :
    Proceeds left right content timeout losses
      (line.weight (blockCount (right.mode.wire content)) losses ticks sent)
      (line.afterSender transfer.session.peer
        (machine.run (transfer.react .expiry line.clock since))) := by
  have hsender := h.sender
  rw [running] at hsender
  cases hsender with
  | waiting sending timed =>
    have hbudget : transfer.exchange.attempts + 1 < left.config.maxRetries := by
      have hattempts := timed.lt_ticks joined.positive due
      have hticks := h.ticks_le
      have hlost := h.lost_le
      rw [joined.leftRetries]
      omega
    have hposts := sending.owns.run_expiry hbudget machine line.clock since
    rw [sending.outstanding, joined.leftTimeout] at hposts
    rw [sending.owns.drives.peer,
      afterSender_of_posts joined (sending.retimed _ _ since) hposts clear line]
    refine ⟨ticks, sent, stored, ?_, ?_⟩
    · exact {
        sender := .waiting (sending.retimed _ _ since) (timed.alarm joined.positive due since)
        receiver := h.receiver
        le := h.le
        le_succ := h.le_succ
        carriesBlocks := h.carriesBlocks.append (carriesBlocks_block left _ line.clock sent)
        carriesAcks := h.carriesAcks
        forth := h.forth.push h.le_succ rfl
        back := h.back
        ticks_le := h.ticks_le
        lost_le := h.lost_le
        live := fun hlost ↦ ⟨fun _ _ ↦ .inr (exists_last _ _), (h.live hlost).ack⟩
        final := h.final }
    · have hbefore := Course.alarms_of_due due
      have hafter : (Course.running (transfer.retimed (transfer.exchange.attempts + 1)
          (line.clock + timeout) since)).alarms line.clock = 0 :=
        Course.alarms_of_later (Nat.lt_add_of_pos_right joined.positive)
      simp only [weight, running, hbefore, hafter, List.length_append, List.length_singleton]
      omega

theorem proceeds_receiverAlarm (joined : left.Joined right timeout retries)
    (hlosses : losses < retries)
    (h : Invariant left right content timeout losses ticks sent stored line)
    (running : line.receiver = .running transfer) (due : transfer.exchange.deadline ≤ line.clock)
    (clear : machine.IsClear line.clock) (since : Nat) :
    Proceeds left right content timeout losses
      (line.weight (blockCount (right.mode.wire content)) losses ticks sent)
      (line.afterReceiver transfer.session.peer
        (machine.run (transfer.react .expiry line.clock since))) := by
  have hreceiver := h.receiver
  rw [running] at hreceiver
  cases hreceiver with
  | waiting receiving timed =>
    have hbudget : transfer.exchange.attempts + 1 < right.config.maxRetries := by
      have hattempts := timed.lt_ticks joined.positive due
      have hticks := h.ticks_le
      have hlost := h.lost_le
      rw [joined.rightRetries]
      omega
    have hposts := receiving.owns.run_expiry hbudget machine line.clock since
    rw [receiving.outstanding, joined.rightTimeout] at hposts
    have hblocks : (Course.running (transfer.retimed (transfer.exchange.attempts + 1)
        (line.clock + timeout) since)).blocks = stored := by
      change transfer.exchange.summary.blocks = stored
      rw [receiving.summary]
    rw [receiving.owns.drives.peer, afterReceiver_of_posts joined hblocks hposts clear line]
    refine ⟨ticks, sent, stored, ?_, ?_⟩
    · exact {
        sender := h.sender
        receiver := .waiting (receiving.retimed _ _ since) (timed.alarm joined.positive due since)
        le := h.le
        le_succ := h.le_succ
        carriesBlocks := h.carriesBlocks
        carriesAcks := h.carriesAcks.append (carriesAcks_ack right line.clock stored)
        forth := h.forth
        back := h.back.push h.le rfl
        ticks_le := h.ticks_le
        lost_le := h.lost_le
        live := fun hlost ↦ ⟨(h.live hlost).block, fun _ ↦ .inr (exists_last _ _)⟩
        final := fun hfinal ↦ absurd hfinal (Nat.ne_of_lt receiving.index_lt) }
    · have hbefore := Course.alarms_of_due due
      have hafter : (Course.running (transfer.retimed (transfer.exchange.attempts + 1)
          (line.clock + timeout) since)).alarms line.clock = 0 :=
        Course.alarms_of_later (Nat.lt_add_of_pos_right joined.positive)
      simp only [weight, running, hbefore, hafter, List.length_append, List.length_singleton]
      omega

/-! ## Arrivals at the receiver -/

/-- The receiver is sent a block that it has already. -/
theorem proceeds_staleBlock (joined : left.Joined right timeout retries)
    (h : Invariant left right content timeout losses ticks sent stored line)
    (running : line.receiver = .running transfer) {item : Sent} {others : List Sent}
    (next : line.forth = item :: others) (old : item.number = stored)
    (clear : machine.IsClear line.clock) (since : Nat) :
    Proceeds left right content timeout losses
      (line.weight (blockCount (right.mode.wire content)) losses ticks sent)
      ({ line with forth := others }.afterReceiver transfer.session.peer
        (machine.run (transfer.react (.arrival item.datagram.source item.datagram.payload)
          line.clock since))) := by
  have hreceiver := h.receiver
  have hcarries := h.carriesBlocks
  have hforth := h.forth
  rw [running] at hreceiver
  rw [next] at hcarries hforth
  cases hreceiver with
  | waiting receiving timed =>
    obtain ⟨before, hbefore, time, rfl⟩ := hcarries _ List.mem_cons_self
    change before + 1 = stored at old
    have hposts := receiving.run_stale (length_chunk_le (right.mode.wire content) before)
      (Nat.le_of_eq old) (by omega) machine line.clock since
    have hblocks : (Course.running { transfer with since }).blocks = stored := by
      change transfer.exchange.summary.blocks = stored
      rw [receiving.summary]
    rw [← dataPacket] at hposts
    simp only [Endpoint.datagram, joined.forth]
    rw [receiving.owns.drives.peer, afterReceiver_of_posts joined hblocks hposts clear]
    refine ⟨ticks, sent, stored, ?_, ?_⟩
    · exact {
        sender := h.sender
        receiver := .waiting (receiving.retimed _ _ since) (timed.since since)
        le := h.le
        le_succ := h.le_succ
        carriesBlocks := carriesBlocks_rest hcarries
        carriesAcks := h.carriesAcks.append (carriesAcks_ack right line.clock stored)
        forth := hforth.rest
        back := h.back.push h.le rfl
        ticks_le := h.ticks_le
        lost_le := h.lost_le
        live := by
          intro hlost
          refine ⟨?_, fun _ ↦ .inr (exists_last _ _)⟩
          intro heq hlt
          rcases (h.live hlost).block heq hlt with hdue | hblock
          · exact .inl hdue
          · rw [next] at hblock
            exact .inr (exists_rest hblock (by simp only; omega))
        final := fun hfinal ↦ absurd hfinal (Nat.ne_of_lt receiving.index_lt) }
    · have hsame : (Course.running { transfer with since }).alarms line.clock =
        (Course.running transfer).alarms line.clock := rfl
      simp only [weight, running, hsame, next, List.length_append, List.length_cons,
        List.length_nil]
      omega

/-- The receiver is sent the block that it waits for. -/
theorem proceeds_newBlock (joined : left.Joined right timeout retries)
    (h : Invariant left right content timeout losses ticks sent stored line)
    (running : line.receiver = .running transfer) {item : Sent} {others : List Sent}
    (next : line.forth = item :: others) (new : item.number = stored + 1)
    (clear : machine.IsClear line.clock) (since : Nat) :
    Proceeds left right content timeout losses
      (line.weight (blockCount (right.mode.wire content)) losses ticks sent)
      ({ line with forth := others }.afterReceiver transfer.session.peer
        (machine.run (transfer.react (.arrival item.datagram.source item.datagram.payload)
          line.clock since))) := by
  have hreceiver := h.receiver
  have hcarries := h.carriesBlocks
  have hforth := h.forth
  have halarms := Course.alarms_le_one line.clock line.receiver
  rw [running] at hreceiver
  rw [next] at hcarries hforth
  cases hreceiver with
  | waiting receiving timed =>
    have heq : stored = sent := by
      have hhigh := hforth.high _ List.mem_cons_self
      have hle := h.le
      omega
    obtain ⟨before, hbefore, time, rfl⟩ := hcarries _ List.mem_cons_self
    obtain rfl : before = stored := Nat.succ.inj new
    have hcourse : ∃ course, ReceiverIs right content timeout line.clock ticks (before + 1) course ∧
        course.blocks = before + 1 ∧ course.alarms line.clock = 0 ∧
        right.Posts machine (ackPacket (before + 1)) course (machine.run (transfer.react
          (.arrival right.peer (dataPacket (right.mode.wire content) before)) line.clock
          since)) := by
      rcases Nat.lt_or_ge (before + 1) (blockCount (right.mode.wire content)) with hmore | hlast
      · obtain ⟨later, hlater, hattempts, hdeadline, hposts⟩ :=
          receiving.run_current hmore machine line.clock since
        rw [joined.rightTimeout] at hdeadline
        refine ⟨.running later, .waiting hlater (.fresh hattempts hdeadline ticks), ?_, ?_, hposts⟩
        · rw [Course.blocks, hlater.summary]
        · apply Course.alarms_of_later
          rw [hdeadline]
          exact Nat.lt_add_of_pos_right joined.positive
      · have hall := Nat.le_antisymm receiving.index_lt hlast
        obtain ⟨session, sink, hstage, hstored, hposts⟩ :=
          receiving.run_current_last hall machine line.clock since
        exact ⟨_, .completed hstage hall hstored, hall.symm, rfl, hposts⟩
    obtain ⟨course, hreceiver, hblocks, hquiet, hposts⟩ := hcourse
    simp only [Endpoint.datagram, joined.forth]
    rw [receiving.owns.drives.peer, afterReceiver_of_posts joined hblocks hposts clear]
    refine ⟨ticks, sent, before + 1, ?_, ?_⟩
    · exact {
        sender := h.sender
        receiver := hreceiver
        le := Nat.le_succ_of_le h.le
        le_succ := Nat.succ_le_succ (Nat.le_of_eq heq)
        carriesBlocks := carriesBlocks_rest hcarries
        carriesAcks := (h.carriesAcks.mono (Nat.le_succ _)).append
          (carriesAcks_ack right line.clock (before + 1))
        forth := hforth.tail
        back := (h.back.mono (Nat.le_succ _)).push (Nat.le_succ_of_le h.le) rfl
        ticks_le := h.ticks_le
        lost_le := h.lost_le
        live := fun _ ↦ ⟨fun hsame ↦ by omega, fun _ ↦ .inr (exists_last _ _)⟩
        final := fun _ ↦ .inr (exists_last _ _) }
    · simp only [weight, hquiet, next, List.length_append, List.length_cons, List.length_nil]
      omega

/-! ## Arrivals at the sender -/

/-- The sender is told about a block that it knew to be stored. -/
theorem proceeds_staleAck (joined : left.Joined right timeout retries)
    (h : Invariant left right content timeout losses ticks sent stored line)
    (running : line.sender = .running transfer) {item : Sent} {others : List Sent}
    (next : line.back = item :: others) (old : item.number = sent)
    (clear : machine.IsClear line.clock) (since : Nat) :
    Proceeds left right content timeout losses
      (line.weight (blockCount (right.mode.wire content)) losses ticks sent)
      ({ line with back := others }.afterSender transfer.session.peer
        (machine.run (transfer.react (.arrival item.datagram.source item.datagram.payload)
          line.clock since))) := by
  have hsender := h.sender
  have hcarries := h.carriesAcks
  have hback := h.back
  rw [running] at hsender
  rw [next] at hcarries hback
  cases hsender with
  | waiting sending timed =>
    obtain ⟨number, hnumber, time, rfl⟩ := hcarries _ List.mem_cons_self
    change number = sent at old
    have hrun := sending.run_acknowledged_stale (Nat.le_of_eq old) (by omega) machine line.clock
      since
    simp only [Endpoint.datagram, joined.back]
    rw [hrun, afterSender_of_quiet _ _ _ clear]
    refine ⟨ticks, sent, stored, ?_, ?_⟩
    · exact {
        sender := .waiting (sending.retimed _ _ since) (timed.since since)
        receiver := h.receiver
        le := h.le
        le_succ := h.le_succ
        carriesBlocks := h.carriesBlocks
        carriesAcks := carriesAcks_rest hcarries
        forth := h.forth
        back := hback.rest
        ticks_le := h.ticks_le
        lost_le := h.lost_le
        live := by
          intro hlost
          refine ⟨?_, ?_⟩
          · intro heq hlt
            have hblock := (h.live hlost).block heq hlt
            rw [running] at hblock
            exact hblock
          · intro hahead
            rcases (h.live hlost).ack hahead with hdue | hack
            · exact .inl hdue
            · rw [next] at hack
              exact .inr (exists_rest hack (by simp only; omega))
        final := by
          intro hfinal
          rcases h.final hfinal with heq | hack
          · exact .inl heq
          · rw [next] at hack
            by_cases heq : sent = stored
            · exact .inl heq
            · exact .inr (exists_rest hack (by simp only; omega)) }
    · have hsame : (Course.running { transfer with since }).alarms line.clock =
        (Course.running transfer).alarms line.clock := rfl
      simp only [weight, running, hsame, next, List.length_cons]
      omega

/-- An acknowledgment that the sender waits for is that of the last block that is stored. -/
theorem Invariant.newest_ack
    (h : Invariant left right content timeout losses ticks sent stored line) {item : Sent}
    {others : List Sent} (next : line.back = item :: others) (new : item.number = sent + 1) :
    stored = sent + 1 ∧ ∃ time, item = ack right time (sent + 1) := by
  have hhigh := h.back.high item (next ▸ List.mem_cons_self)
  have hsucc := h.le_succ
  refine ⟨by omega, ?_⟩
  obtain ⟨number, hnumber, time, rfl⟩ := h.carriesAcks item (next ▸ List.mem_cons_self)
  change number = sent + 1 at new
  subst new
  exact ⟨time, rfl⟩

/-- The sender is told that its block is stored, and sends the next one. -/
theorem proceeds_newAck (joined : left.Joined right timeout retries)
    (h : Invariant left right content timeout losses ticks sent stored line)
    (running : line.sender = .running transfer) {item : Sent} {others : List Sent}
    (next : line.back = item :: others) (new : item.number = sent + 1)
    (hmore : sent + 1 < blockCount (right.mode.wire content))
    (clear : machine.IsClear line.clock) (since : Nat) :
    Proceeds left right content timeout losses
      (line.weight (blockCount (right.mode.wire content)) losses ticks sent)
      ({ line with back := others }.afterSender transfer.session.peer
        (machine.run (transfer.react (.arrival item.datagram.source item.datagram.payload)
          line.clock since))) := by
  obtain ⟨heq, time, rfl⟩ := h.newest_ack next new
  have hsender := h.sender
  have hcarries := h.carriesAcks
  have hback := h.back
  rw [running] at hsender
  rw [next] at hcarries hback
  cases hsender with
  | waiting sending timed =>
    obtain ⟨later, hlater, hattempts, hdeadline, hposts⟩ :=
      sending.run_acknowledged hmore machine line.clock since
    rw [joined.leftTimeout] at hdeadline
    have hquiet : (Course.running later).alarms line.clock = 0 := by
      apply Course.alarms_of_later
      rw [hdeadline]
      exact Nat.lt_add_of_pos_right joined.positive
    simp only [ack, Endpoint.datagram, joined.back]
    rw [sending.owns.drives.peer, afterSender_of_posts joined hlater hposts clear]
    refine ⟨ticks, sent + 1, stored, ?_, ?_⟩
    · exact {
        sender := .waiting hlater (.fresh hattempts hdeadline ticks)
        receiver := h.receiver
        le := Nat.le_of_eq heq.symm
        le_succ := Nat.le_succ_of_le h.le_succ
        carriesBlocks := (h.carriesBlocks.mono (Nat.le_succ _)).append
          (carriesBlocks_block left _ line.clock (sent + 1))
        carriesAcks := carriesAcks_rest hcarries
        forth := (h.forth.mono (Nat.le_succ _)).push (by omega) rfl
        back := hback.tail
        ticks_le := h.ticks_le
        lost_le := h.lost_le
        live := fun _ ↦ ⟨fun _ _ ↦ .inr (exists_last _ _), fun hahead ↦ by omega⟩
        final := fun _ ↦ .inl heq.symm }
    · simp only [weight, hquiet, next, List.length_append, List.length_cons, List.length_nil]
      omega

/-- The sender is told that the last block is stored. -/
theorem proceeds_lastAck (joined : left.Joined right timeout retries)
    (h : Invariant left right content timeout losses ticks sent stored line)
    (running : line.sender = .running transfer) {item : Sent} {others : List Sent}
    (next : line.back = item :: others) (new : item.number = sent + 1)
    (hall : sent + 1 = blockCount (right.mode.wire content))
    (clear : machine.IsClear line.clock) (since : Nat) :
    Proceeds left right content timeout losses
      (line.weight (blockCount (right.mode.wire content)) losses ticks sent)
      ({ line with back := others }.afterSender transfer.session.peer
        (machine.run (transfer.react (.arrival item.datagram.source item.datagram.payload)
          line.clock since))) := by
  obtain ⟨heq, time, rfl⟩ := h.newest_ack next new
  have hsender := h.sender
  have hcarries := h.carriesAcks
  have hback := h.back
  rw [running] at hsender
  rw [next] at hcarries hback
  cases hsender with
  | waiting sending timed =>
    obtain ⟨session, hstage, hrun⟩ :=
      sending.run_acknowledged_last hall machine line.clock since
    simp only [ack, Endpoint.datagram, joined.back]
    rw [hrun, afterSender_of_quiet _ _ _ clear]
    refine ⟨ticks, sent + 1, stored, ?_, ?_⟩
    · exact {
        sender := .completed hstage hall
        receiver := h.receiver
        le := Nat.le_of_eq heq.symm
        le_succ := Nat.le_succ_of_le h.le_succ
        carriesBlocks := h.carriesBlocks.mono (Nat.le_succ _)
        carriesAcks := carriesAcks_rest hcarries
        forth := h.forth.mono (Nat.le_succ _)
        back := hback.tail
        ticks_le := h.ticks_le
        lost_le := h.lost_le
        live := fun _ ↦ ⟨fun _ hless ↦ by omega, fun hahead ↦ by omega⟩
        final := fun _ ↦ .inl heq.symm }
    · simp only [weight, Course.alarms, next, List.length_cons]
      omega

/-! ## Datagrams that reach nobody -/

theorem proceeds_pastReceiver
    (h : Invariant left right content timeout losses ticks sent stored line)
    (ended : line.receiver.deadline? = none) {item : Sent} {others : List Sent}
    (next : line.forth = item :: others) :
    Proceeds left right content timeout losses
      (line.weight (blockCount (right.mode.wire content)) losses ticks sent)
      { line with forth := others } := by
  obtain ⟨hall, -⟩ := h.receiver.of_ended ended
  have hcarries := h.carriesBlocks
  have hforth := h.forth
  rw [next] at hcarries hforth
  refine ⟨ticks, sent, stored, ?_, ?_⟩
  · exact { h with
      carriesBlocks := carriesBlocks_rest hcarries
      forth := hforth.rest
      live := fun hlost ↦ ⟨fun heq hlt ↦ by omega, (h.live hlost).ack⟩ }
  · simp only [weight, next, List.length_cons]
    omega

theorem proceeds_pastSender
    (h : Invariant left right content timeout losses ticks sent stored line)
    (ended : line.sender.deadline? = none) {item : Sent} {others : List Sent}
    (next : line.back = item :: others) :
    Proceeds left right content timeout losses
      (line.weight (blockCount (right.mode.wire content)) losses ticks sent)
      { line with back := others } := by
  obtain ⟨hall, -⟩ := h.sender.of_ended ended
  have hstored := h.receiver.index_le
  have hle := h.le
  have hcarries := h.carriesAcks
  have hback := h.back
  rw [next] at hcarries hback
  refine ⟨ticks, sent, stored, ?_, ?_⟩
  · exact { h with
      carriesAcks := carriesAcks_rest hcarries
      back := hback.rest
      live := fun hlost ↦ ⟨(h.live hlost).block, fun hahead ↦ by omega⟩
      final := fun hfinal ↦ .inl (by omega) }
  · simp only [weight, next, List.length_cons]
    omega

/-- Nothing is claimed about what the transfer needs next in a moment in which something is
lost. -/
theorem proceeds_loseBlock
    (h : Invariant left right content timeout losses ticks sent stored line) {item : Sent}
    {others : List Sent} (next : line.forth = item :: others) (few : line.lost < losses) :
    Proceeds left right content timeout losses
      (line.weight (blockCount (right.mode.wire content)) losses ticks sent)
      { line with forth := others, lost := line.lost + 1 } := by
  have hticks := h.ticks_le
  have hcarries := h.carriesBlocks
  have hforth := h.forth
  rw [next] at hcarries hforth
  refine ⟨ticks, sent, stored, ?_, ?_⟩
  · exact { h with
      carriesBlocks := carriesBlocks_rest hcarries
      forth := hforth.rest
      ticks_le := Nat.le_succ_of_le hticks
      lost_le := few
      live := fun hlost ↦ by simp only at hlost; omega }
  · simp only [weight, next, List.length_cons]
    omega

theorem proceeds_loseAck
    (h : Invariant left right content timeout losses ticks sent stored line) {item : Sent}
    {others : List Sent} (next : line.back = item :: others) (few : line.lost < losses)
    (earlier : item.number ≠ blockCount (right.mode.wire content)) :
    Proceeds left right content timeout losses
      (line.weight (blockCount (right.mode.wire content)) losses ticks sent)
      { line with back := others, lost := line.lost + 1 } := by
  have hticks := h.ticks_le
  have hcarries := h.carriesAcks
  have hback := h.back
  rw [next] at hcarries hback
  refine ⟨ticks, sent, stored, ?_, ?_⟩
  · exact { h with
      carriesAcks := carriesAcks_rest hcarries
      back := hback.rest
      ticks_le := Nat.le_succ_of_le hticks
      lost_le := few
      live := fun hlost ↦ by simp only at hlost; omega
      final := by
        intro hfinal
        rcases h.final hfinal with heq | hack
        · exact .inl heq
        · rw [next] at hack
          exact .inr (exists_rest hack (hfinal ▸ earlier)) }
  · simp only [weight, next, List.length_cons]
    omega

/-! ## The clock -/

/-- What is awaited next by a course that is not due now: the next moment of the clock, as long as
there are blocks left. -/
structure Ticks (timeout clock index count : Nat) (course : Course) : Prop where
  quiet : course.alarms clock = 0
  next : ∀ time, course.deadline? = some time → time = clock + timeout ∧ index < count
  due : index < count → course.alarms (clock + timeout) = 1

theorem ticks_of_deadline {count : Nat} (later : clock < transfer.exchange.deadline)
    (hdeadline : transfer.exchange.deadline = clock + timeout) (hless : index < count) :
    Ticks timeout clock index count (.running transfer) where
  quiet := Course.alarms_of_later later
  next time htime := by
    cases htime
    exact ⟨hdeadline, hless⟩
  due _ := Course.alarms_of_due (Nat.le_of_eq hdeadline)

theorem ticks_of_ended {count : Nat} (all : index = count) (session : Session) (stream : Stream)
    (result : Except TransferError Summary) :
    Ticks timeout clock index count (.ended session stream result) where
  quiet := rfl
  next time htime := by cases htime
  due hless := absurd all (Nat.ne_of_lt hless)

/-- A sender that is not due now will be due a timeout later, and nothing else about it changes. -/
theorem SenderIs.tick {course : Course}
    (h : SenderIs left wire timeout clock ticks index course)
    (later : ∀ time, course.deadline? = some time → clock < time) :
    SenderIs left wire timeout (clock + timeout) (ticks + 1) index course ∧
      Ticks timeout clock index (blockCount wire) course := by
  cases h with
  | waiting sending timed =>
    have hlater := later _ rfl
    obtain ⟨hdeadline, htimed⟩ := timed.tick hlater
    exact ⟨.waiting sending htimed, ticks_of_deadline hlater hdeadline sending.index_lt⟩
  | completed stage all => exact ⟨.completed stage all, ticks_of_ended all _ _ _⟩

theorem ReceiverIs.tick {course : Course}
    (h : ReceiverIs right content timeout clock ticks index course)
    (later : ∀ time, course.deadline? = some time → clock < time) :
    ReceiverIs right content timeout (clock + timeout) (ticks + 1) index course ∧
      Ticks timeout clock index (blockCount (right.mode.wire content)) course := by
  cases h with
  | waiting receiving timed =>
    have hlater := later _ rfl
    obtain ⟨hdeadline, htimed⟩ := timed.tick hlater
    exact ⟨.waiting receiving htimed, ticks_of_deadline hlater hdeadline receiving.index_lt⟩
  | completed stage all stored =>
    exact ⟨.completed stage all stored, ticks_of_ended all _ _ _⟩

/-- If nothing was lost at this moment, the clock cannot move on: the next block or its
acknowledgment would have to be on its way, or due to be sent. -/
theorem Invariant.ticks_lt (h : Invariant left right content timeout losses ticks sent stored line)
    (forth : line.forth = []) (back : line.back = []) (hsender : line.sender.alarms line.clock = 0)
    (hreceiver : line.receiver.alarms line.clock = 0)
    (hless : sent < blockCount (right.mode.wire content)) : ticks < line.lost := by
  have hticks := h.ticks_le
  have hle := h.le
  have hsucc := h.le_succ
  rcases Nat.lt_or_ge ticks line.lost with hlt | hge
  · exact hlt
  · have hlive := h.live (Nat.le_antisymm hge hticks)
    have hcases : stored = sent ∨ stored = sent + 1 := by omega
    rcases hcases with heq | hahead
    · rcases hlive.block heq hless with hdue | ⟨item, hitem, -⟩
      · omega
      · rw [forth] at hitem
        exact absurd hitem List.not_mem_nil
    · rcases hlive.ack hahead with hdue | ⟨item, hitem, -⟩
      · omega
      · rw [back] at hitem
        exact absurd hitem List.not_mem_nil

theorem proceeds_tick (h : Invariant left right content timeout losses ticks sent stored line)
    (forth : line.forth = []) (back : line.back = []) {time : Nat} (later : line.clock < time)
    (awaited : line.Awaits time) (first : ∀ other, line.Awaits other → time ≤ other) :
    Proceeds left right content timeout losses
      (line.weight (blockCount (right.mode.wire content)) losses ticks sent)
      { line with clock := time } := by
  obtain ⟨hsender, senderTicks⟩ := h.sender.tick fun other hother ↦
    Nat.lt_of_lt_of_le later (first other (.inl hother))
  obtain ⟨hreceiver, receiverTicks⟩ := h.receiver.tick fun other hother ↦
    Nat.lt_of_lt_of_le later (first other (.inr hother))
  have hle := h.le
  obtain ⟨rfl, hless⟩ : time = line.clock + timeout ∧
      sent < blockCount (right.mode.wire content) := by
    rcases awaited with hawaited | hawaited
    · exact senderTicks.next time hawaited
    · obtain ⟨htime, hlt⟩ := receiverTicks.next time hawaited
      exact ⟨htime, Nat.lt_of_le_of_lt hle hlt⟩
  have hunfinished : stored < blockCount (right.mode.wire content) ∨ stored = sent := by
    rcases Nat.lt_or_eq_of_le h.receiver.index_le with hlt | hall
    · exact .inl hlt
    · rcases h.final hall with heq | ⟨item, hitem, -⟩
      · exact .inr heq.symm
      · rw [back] at hitem
        exact absurd hitem List.not_mem_nil
  have hlost := h.ticks_lt forth back senderTicks.quiet receiverTicks.quiet hless
  have hsum := h.lost_le
  refine ⟨ticks + 1, sent, stored, ?_, ?_⟩
  · exact { h with
      sender := hsender
      receiver := hreceiver
      ticks_le := hlost
      live := fun _ ↦ ⟨fun _ _ ↦ .inl (senderTicks.due hless), fun hahead ↦
        .inl (receiverTicks.due (hunfinished.resolve_right (by omega)))⟩ }
  · have hsenderOne := Course.alarms_le_one (line.clock + timeout) line.sender
    have hreceiverOne := Course.alarms_le_one (line.clock + timeout) line.receiver
    simp only [weight, senderTicks.quiet, receiverTicks.quiet]
    omega

/-! ## Runs -/

/-- Whatever happens next, the line stays in order and less is left to happen. -/
theorem proceeds_step (joined : left.Joined right timeout retries) (hlosses : losses < retries)
    (h : Invariant left right content timeout losses ticks sent stored line) {later : Line}
    (step : Step losses (blockCount (right.mode.wire content)) line later) :
    Proceeds left right content timeout losses
      (line.weight (blockCount (right.mode.wire content)) losses ticks sent) later := by
  cases step with
  | senderAlarm running due clear since =>
    exact proceeds_senderAlarm joined hlosses h running due clear since
  | receiverAlarm running due clear since =>
    exact proceeds_receiverAlarm joined hlosses h running due clear since
  | toReceiver running next clear since =>
    have hmem := next ▸ List.mem_cons_self
    have hlow := h.forth.low _ hmem
    have hhigh := h.forth.high _ hmem
    have hle := h.le
    rcases Nat.lt_or_eq_of_le hlow with hlt | heq
    · exact proceeds_newBlock joined h running next (by omega) clear since
    · exact proceeds_staleBlock joined h running next heq.symm clear since
  | @toSender transfer running item others next machine clear since =>
    have hmem := next ▸ List.mem_cons_self
    have hlow := h.back.low _ hmem
    have hhigh := h.back.high _ hmem
    have hsucc := h.le_succ
    rcases Nat.lt_or_eq_of_le hlow with hlt | heq
    · have new : item.number = sent + 1 := by omega
      have hbound := h.receiver.index_le
      rcases Nat.lt_or_ge (sent + 1) (blockCount (right.mode.wire content)) with hmore | hlast
      · exact proceeds_newAck joined h running next new hmore clear since
      · have hall : sent + 1 = blockCount (right.mode.wire content) := by omega
        exact proceeds_lastAck joined h running next new hall clear since
    · exact proceeds_staleAck joined h running next heq.symm clear since
  | pastReceiver ended next => exact proceeds_pastReceiver h ended next
  | pastSender ended next => exact proceeds_pastSender h ended next
  | loseBlock next few => exact proceeds_loseBlock h next few
  | loseAck next few earlier => exact proceeds_loseAck h next few earlier
  | tick forth back later awaited first => exact proceeds_tick h forth back later awaited first

/-- Nothing can go on forever on the line. -/
theorem acc_of_invariant (joined : left.Joined right timeout retries) (hlosses : losses < retries)
    (h : Invariant left right content timeout losses ticks sent stored line) :
    Acc (fun later line ↦ Step losses (blockCount (right.mode.wire content)) line later) line := by
  generalize hbound : line.weight (blockCount (right.mode.wire content)) losses ticks sent = bound
  induction bound using Nat.strongRecOn generalizing line ticks sent stored with
  | ind bound ih =>
    refine .intro line fun later step ↦ ?_
    obtain ⟨ticks', sent', stored', hlater, hweight⟩ := proceeds_step joined hlosses h step
    exact ih _ (hbound ▸ hweight) hlater rfl

theorem invariant_reachable (joined : left.Joined right timeout retries) (hlosses : losses < retries)
    (h : Invariant left right content timeout losses ticks sent stored line) {last : Line}
    (run : Relation.ReflTransGen (Step losses (blockCount (right.mode.wire content))) line last) :
    ∃ ticks sent stored, Invariant left right content timeout losses ticks sent stored last := by
  induction run with
  | refl => exact ⟨ticks, sent, stored, h⟩
  | tail _ step ih =>
    obtain ⟨ticks', sent', stored', hbefore⟩ := ih
    obtain ⟨ticks'', sent'', stored'', hafter, -⟩ := proceeds_step joined hlosses hbefore step
    exact ⟨ticks'', sent'', stored'', hafter⟩

/-- At the start the first block is on its way, and nothing was lost. -/
theorem invariant_starts (joined : left.Joined right timeout retries) {source : Source}
    {sink : Sink} (reliable : source.IsReliable) (empty : sink.written.toBytes = [])
    (room : sink.HasRoom source.rest.length) (losses : Nat)
    (starts : Starts left right source sink line) :
    Invariant left right source.rest timeout losses 0 0 0 line := by
  cases starts with
  | @begin clock _ _ sendingClear receivingClear sendingSince receivingSince =>
    obtain ⟨sender, hsending, hsenderFresh, hsenderDeadline, hsent⟩ :=
      Sending.run_start left reliable _ clock sendingSince
    obtain ⟨receiver, hreceiving, hreceiverFresh, hreceiverDeadline, hreceived⟩ :=
      Receiving.run_start right empty room _ clock receivingSince
    have hblocks : (Course.running receiver).blocks = 0 := by
      rw [Course.blocks, hreceiving.summary]
    rw [joined.leftTimeout] at hsenderDeadline
    rw [joined.rightTimeout] at hreceiverDeadline
    rw [afterSender_of_posts joined hsending hsent sendingClear,
      afterReceiver_of_posts joined hblocks hreceived receivingClear]
    rw [joined.mode] at hsending ⊢
    exact {
      sender := .waiting hsending (.fresh hsenderFresh hsenderDeadline 0)
      receiver := .waiting hreceiving (.fresh hreceiverFresh hreceiverDeadline 0)
      le := Nat.le_refl _
      le_succ := Nat.zero_le _
      carriesBlocks := carriesBlocks_block left _ clock 0
      carriesAcks := carriesAcks_ack right clock 0
      forth := (Ascends.nil 0 1).push (Nat.zero_le _) rfl
      back := (Ascends.nil 0 0).push (Nat.le_refl _) rfl
      ticks_le := Nat.le_refl _
      lost_le := Nat.zero_le _
      live := fun _ ↦ ⟨fun _ _ ↦ .inr (exists_last [] _), fun hahead ↦ by omega⟩
      final := fun _ ↦ .inl rfl }

/-- A course that waits has a datagram to take, or an alarm to wait for. -/
theorem exists_running {course : Course} (waits : course.deadline? ≠ none) :
    ∃ transfer, course = .running transfer := by
  cases course with
  | running transfer => exact ⟨transfer, rfl⟩
  | ended session stream result => exact absurd rfl waits

/-- A machine with nothing but a clock. -/
theorem isClear_clock (clock : Nat) : ({ now := clock } : Machine).IsClear clock := ⟨rfl, rfl, rfl⟩

theorem forth_of_stuck {losses final : Nat} (stuck : ∀ later, ¬ Step losses final line later) :
    line.forth = [] := by
  cases hforth : line.forth with
  | nil => rfl
  | cons item others =>
    by_cases ended : line.receiver.deadline? = none
    · exact absurd (.pastReceiver ended hforth) (stuck _)
    · obtain ⟨transfer, running⟩ := exists_running ended
      exact absurd (.toReceiver running hforth (isClear_clock _) 0) (stuck _)

theorem back_of_stuck {losses final : Nat} (stuck : ∀ later, ¬ Step losses final line later) :
    line.back = [] := by
  cases hback : line.back with
  | nil => rfl
  | cons item others =>
    by_cases ended : line.sender.deadline? = none
    · exact absurd (.pastSender ended hback) (stuck _)
    · obtain ⟨transfer, running⟩ := exists_running ended
      exact absurd (.toSender running hback (isClear_clock _) 0) (stuck _)

/-- A course that is not due waits for a later moment. -/
theorem lt_deadline {course : Course}
    (idle : ∀ transfer, course = .running transfer → ¬ transfer.exchange.deadline ≤ clock)
    (time : Nat) (htime : course.deadline? = some time) : clock < time := by
  cases course with
  | running transfer =>
    cases htime
    exact Nat.lt_of_not_le (idle transfer rfl)
  | ended session stream result => cases htime

/-- On a line on which nothing can happen any more nobody waits. -/
theorem not_awaits_of_stuck {losses final : Nat}
    (stuck : ∀ later, ¬ Step losses final line later) (time : Nat) : ¬ line.Awaits time := by
  intro awaited
  have hsender : ∀ time, line.sender.deadline? = some time → line.clock < time :=
    lt_deadline fun _ running hdue ↦
      stuck _ (.senderAlarm running hdue (isClear_clock _) 0)
  have hreceiver : ∀ time, line.receiver.deadline? = some time → line.clock < time :=
    lt_deadline fun _ running hdue ↦
      stuck _ (.receiverAlarm running hdue (isClear_clock _) 0)
  have hexists : ∃ time, line.Awaits time := ⟨time, awaited⟩
  have hfirst := Nat.find_spec hexists
  have hleast : ∀ other, line.Awaits other → Nat.find hexists ≤ other :=
    fun other hother ↦ Nat.find_min' hexists hother
  have hlater : line.clock < Nat.find hexists := hfirst.elim (hsender _) (hreceiver _)
  exact stuck _ (.tick (forth_of_stuck stuck) (back_of_stuck stuck) hlater hfirst hleast)

theorem deadline?_of_not_awaits {course : Course} (h : ∀ time, course.deadline? ≠ some time) :
    course.deadline? = none := by
  cases hdeadline : course.deadline? with
  | none => rfl
  | some time => exact absurd hdeadline (h time)

theorem delivered_of_stuck (h : Invariant left right content timeout losses ticks sent stored line)
    {final : Nat} (stuck : ∀ later, ¬ Step losses final line later) : Delivered content line := by
  have hidle := not_awaits_of_stuck stuck
  have hsender := deadline?_of_not_awaits fun time htime ↦ hidle time (.inl htime)
  have hreceiver := deadline?_of_not_awaits fun time htime ↦ hidle time (.inr htime)
  obtain ⟨-, sending, stream, hsending, hsent⟩ := h.sender.of_ended hsender
  obtain ⟨-, receiving, sink, hreceiving, hreceived, hstored⟩ := h.receiver.of_ended hreceiver
  exact ⟨sending, receiving, stream, sink, _, hsent, hsending, hreceived, hreceiving, hstored⟩

/-- A line that loses fewer datagrams than the two ends have attempts, and not the last
acknowledgment, comes to a rest in every case, and when it does everything is delivered. -/
theorem delivered_at_rest (joined : left.Joined right timeout retries) {source : Source}
    {sink : Sink} (reliable : source.IsReliable) (empty : sink.written.toBytes = [])
    (room : sink.HasRoom source.rest.length) {losses : Nat} (few : losses < retries) {first : Line}
    (starts : Starts left right source sink first) :
    Acc (fun later line ↦ Step losses (blockCount (left.mode.wire source.rest)) line later) first ∧
      ∀ last, Relation.ReflTransGen (Step losses (blockCount (left.mode.wire source.rest))) first
          last →
        (∀ later, ¬ Step losses (blockCount (left.mode.wire source.rest)) last later) →
        Delivered source.rest last := by
  have hfirst := invariant_starts joined reliable empty room losses starts
  rw [joined.mode]
  refine ⟨acc_of_invariant joined few hfirst, ?_⟩
  intro last run stuck
  obtain ⟨ticks, sent, stored, hlast⟩ := invariant_reachable joined few hfirst run
  exact delivered_of_stuck hlast stuck

/-- The two local ends after their first turns. -/
def begun : Line :=
  { clock := 0
    sender := Pair.begun.sender
    receiver := Pair.begun.receiver
    forth := Pair.begun.forth
    back := Pair.begun.back }

/-- Nine losses are not too many for two ends with ten attempts each. -/
theorem delivered_at_rest_locally :
    Pair.localSender.Joined Pair.localReceiver 1500 10 ∧
      Starts Pair.localSender Pair.localReceiver Pair.shortSource {} begun ∧
      Acc (fun later line ↦ Step 9 1 line later) begun ∧
      ∀ last, Relation.ReflTransGen (Step 9 1) begun last →
        (∀ later, ¬ Step 9 1 last later) → Delivered Pair.shortSource.rest last := by
  have joined : Pair.localSender.Joined Pair.localReceiver 1500 10 :=
    ⟨⟨rfl, rfl, rfl⟩, rfl, rfl, rfl, rfl, rfl, rfl, by decide⟩
  have starts : Starts Pair.localSender Pair.localReceiver Pair.shortSource {} begun :=
    .begin (isClear_clock 0) (isClear_clock 0) 0 1
  have reliable : Pair.shortSource.IsReliable := ⟨by decide, by decide, rfl⟩
  have few : 9 < 10 := by decide
  exact ⟨joined, starts, delivered_at_rest joined reliable rfl ⟨rfl, rfl⟩ few starts⟩

end Lockstep.Line
