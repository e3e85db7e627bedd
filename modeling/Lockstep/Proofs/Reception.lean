import Lockstep.Proofs.Blocks
import Lockstep.Proofs.Histories
import Lockstep.Proofs.Intake

/-!
# Histories of receivers

What a session has received when it waits, and when it has completed: the blocks that it accepted
are counted on from the one it began with, its stream has taken what they decode to, but for a
carriage return whose meaning is still open, and nothing is acknowledged that the stream has not
taken. This holds whoever sends what, and however often the session had to repeat itself.
-/

namespace Lockstep

/-! ## The open carriage return -/

namespace Netascii.Decoder

/-- The last byte decides whether a carriage return is held back. -/
theorem heldReturn_feed (decoder : Decoder) (bytes : Bytes) :
    (decoder.feed bytes).2.heldReturn =
      (bytes.getLast?.map (· == carriageReturn)).getD decoder.heldReturn := by
  induction bytes generalizing decoder with
  | nil => rfl
  | cons byte rest ih =>
    have hstep : (decoder.step byte).2.heldReturn = (byte == carriageReturn) := by
      by_cases hreturn : byte = carriageReturn
      · subst hreturn
        cases hheld : decoder.heldReturn <;> simp [step, hheld, lineFeed, carriageReturn]
      · rw [beq_eq_false_iff_ne.mpr hreturn]
        unfold step
        rw [if_neg hreturn, if_neg hreturn]
        repeat' split
        all_goals rfl
    change ((decoder.step byte).2.feed rest).2.heldReturn = _
    rw [ih, hstep, List.getLast?_cons]
    cases rest.getLast? <;> rfl

end Netascii.Decoder

namespace Mode

open Netascii

/-- What the reader holds back after the beginning of a stream. -/
def held (mode : Mode) (stream : Bytes) : Bytes :=
  match mode with
  | .octet => []
  | .netascii => if stream.getLast? = some carriageReturn then [carriageReturn] else []

theorem finish_read (mode : Mode) (stream : Bytes) :
    (mode.read stream).2.finish.1 = mode.held stream := by
  cases mode with
  | octet => rfl
  | netascii =>
    have hheld := Decoder.heldReturn_feed {} stream
    unfold read Decoder.finish held
    dsimp only
    rw [hheld]
    cases stream.getLast? <;> simp

theorem read_append_held (mode : Mode) (stream : Bytes) :
    (mode.read stream).1 ++ mode.held stream = mode.decode stream := by
  rw [decode_eq, finish_read]

end Mode

namespace Session

/-! ## What was said -/

/-- What the stream has taken. -/
def stored (talk : Talk) : Bytes :=
  talk.flatMap fun
    | ⟨.write chunk, .ok _⟩ => chunk
    | _ => []

/-- The packets that were sent, each with what the stream had taken by then. -/
def posts (taken : Bytes) : Talk → List (Bytes × Bytes)
  | [] => []
  | ⟨.send _ packet, _⟩ :: rest => (taken, packet) :: posts taken rest
  | ⟨.write chunk, .ok _⟩ :: rest => posts (taken ++ chunk) rest
  | _ :: rest => posts taken rest

/-- The stream took everything that it was given. -/
def Untroubled (talk : Talk) : Prop :=
  ∀ chunk error, (⟨.write chunk, .error error⟩ : Sigma Answer) ∉ talk

end Session

/-! ## Sinks -/

namespace Sink

/-- The sink answers what is asked of it in the talk, and comes to be another one thereby. Nothing
else that is asked concerns it. -/
inductive Hears : Sink → Session.Talk → Sink → Prop
  | silent (sink : Sink) : Hears sink [] sink
  | sent {sink after : Sink} {talk : Session.Talk} (destination : SocketAddress) (packet : Bytes)
      (answer : Except SystemError Unit) (rest : Hears sink talk after) :
      Hears sink (⟨.send destination packet, answer⟩ :: talk) after
  | wrote {sink after : Sink} {talk : Session.Talk} (chunk : Bytes)
      (rest : Hears (sink.write chunk).2 talk after) :
      Hears sink (⟨.write chunk, (sink.write chunk).1⟩ :: talk) after
  | flushed {sink after : Sink} {talk : Session.Talk} (rest : Hears sink.flush.2 talk after) :
      Hears sink (⟨.flush, sink.flush.1⟩ :: talk) after
  | filled {sink after : Sink} {talk : Session.Talk} (count : Nat)
      (answer : Except SystemError Bytes) (rest : Hears sink talk after) :
      Hears sink (⟨.fill count, answer⟩ :: talk) after
  | drained {sink after : Sink} {talk : Session.Talk} (answer : Except SystemError Bytes)
      (rest : Hears sink talk after) : Hears sink (⟨.drain, answer⟩ :: talk) after

/-- A sink that took everything holds it. -/
theorem Hears.written {before after : Sink} {talk : Session.Talk} (h : before.Hears talk after)
    (untroubled : Session.Untroubled talk) :
    after.written.toBytes = before.written.toBytes ++ Session.stored talk := by
  induction h with
  | silent sink => exact (List.append_nil _).symm
  | @wrote sink after talk chunk rest ih =>
    have hrest := ih fun chunk error hmem ↦ untroubled chunk error (List.mem_cons_of_mem _ hmem)
    cases hanswer : (sink.write chunk).1 with
    | error error =>
      rw [hanswer] at untroubled
      exact absurd List.mem_cons_self (untroubled chunk error)
    | ok _ =>
      have hcount : ¬ sink.accepted chunk.length < chunk.length := by
        intro hless
        unfold Sink.write at hanswer
        dsimp only at hanswer
        rw [if_pos hless] at hanswer
        cases hanswer
      have hwritten : (sink.write chunk).2.written.toBytes = sink.written.toBytes ++ chunk := by
        unfold Sink.write
        dsimp only
        rw [Contents.toBytes_append, List.take_of_length_le (Nat.le_of_not_lt hcount)]
      rw [hrest, hwritten, List.append_assoc]
      rfl
  | sent _ _ _ _ ih | flushed _ ih | filled _ _ _ ih | drained _ _ ih =>
    exact ih fun chunk error hmem ↦ untroubled chunk error (List.mem_cons_of_mem _ hmem)

theorem Hears.append {before between after : Sink} {first second : Session.Talk}
    (h : before.Hears first between) (h' : between.Hears second after) :
    before.Hears (first ++ second) after := by
  induction h with
  | silent sink => exact h'
  | sent destination packet answer rest ih => exact .sent destination packet answer (ih h')
  | wrote chunk rest ih => exact .wrote chunk (ih h')
  | flushed rest ih => exact .flushed (ih h')
  | filled count answer rest ih => exact .filled count answer (ih h')
  | drained answer rest ih => exact .drained answer (ih h')

/-- What is said with a sink in a turn is heard by it. -/
theorem hears_transcript {Result : Type} (sink : Sink) (machine : Machine) (socket : SocketAddress)
    (turn : Session.Turn Result) :
    ∃ after, (turn.run (Stream.reply socket) (.sink sink, machine)).2.1 = .sink after ∧
      sink.Hears (turn.transcript (Stream.reply socket) (.sink sink, machine)) after := by
  induction turn generalizing sink machine with
  | done result => exact ⟨sink, rfl, .silent sink⟩
  | ask question next ih =>
    cases question with
    | send destination packet =>
      obtain ⟨after, hrun, hrest⟩ := ih _ sink _
      exact ⟨after, hrun, .sent destination packet _ hrest⟩
    | write chunk =>
      obtain ⟨after, hrun, hrest⟩ := ih _ (sink.write chunk).2 machine
      exact ⟨after, hrun, .wrote chunk hrest⟩
    | flush =>
      obtain ⟨after, hrun, hrest⟩ := ih _ sink.flush.2 machine
      exact ⟨after, hrun, .flushed hrest⟩
    | fill count =>
      obtain ⟨after, hrun, hrest⟩ := ih (.ok []) sink machine
      exact ⟨after, hrun, .filled count _ hrest⟩
    | drain =>
      obtain ⟨after, hrun, hrest⟩ := ih (.ok []) sink machine
      exact ⟨after, hrun, .drained _ hrest⟩

end Sink

namespace Session

/-- A session that is led with a sink is heard by it. -/
theorem Chronicle.hears_lead (socket : SocketAddress) (turn : Turn Progress) (sink : Sink)
    (machine : Machine) (incidents : List Incident) :
    ∃ after, (lead socket turn (.sink sink) machine incidents).stream = .sink after ∧
      sink.Hears (saying (lead socket turn (.sink sink) machine incidents).first
        (lead socket turn (.sink sink) machine incidents).record) after := by
  refine lead_of_extend (P := fun chronicle ↦ ∃ after, chronicle.stream = .sink after ∧
    sink.Hears (saying chronicle.first chronicle.record) after) ?_ ?_
  · obtain ⟨after, hrun, hears⟩ := sink.hears_transcript machine socket turn
    refine ⟨after, hrun, ?_⟩
    rw [saying_started]
    exact hears
  · rintro incident - chronicle session exchange ⟨between, hstream, before⟩ -
    obtain ⟨after, hrun, hears⟩ := between.hears_transcript incident.machine socket
      (session.react exchange incident.event incident.now)
    rw [← hstream] at hrun hears
    refine ⟨after, hrun, ?_⟩
    rw [saying_extend]
    exact before.append hears

variable {talk : Talk} {taken : Bytes}

theorem stored_append (first second : Talk) :
    stored (first ++ second) = stored first ++ stored second :=
  List.flatMap_append

theorem Quiet.stored_eq (h : Quiet talk) : stored talk = [] := by
  refine List.flatMap_eq_nil_iff.mpr ?_
  rintro ⟨question, answer⟩ hmem
  obtain ⟨destination, packet, rfl, -⟩ := h _ hmem
  rfl

theorem Quiet.posts (h : Quiet talk) {entry : Bytes × Bytes} (hmem : entry ∈ posts taken talk) :
    IsNotice entry.2 := by
  induction talk with
  | nil => exact absurd hmem List.not_mem_nil
  | cons said rest ih =>
    obtain ⟨question, answer⟩ := said
    obtain ⟨destination, packet, rfl, notice⟩ := h _ List.mem_cons_self
    rcases List.mem_cons.mp hmem with rfl | hlater
    · exact notice
    · exact ih (fun said hsaid ↦ h said (List.mem_cons_of_mem _ hsaid)) hlater

theorem Quiet.untroubled (h : Quiet talk) : Untroubled talk := by
  intro chunk error hmem
  obtain ⟨destination, packet, hsend, -⟩ := h _ hmem
  cases hsend

theorem Untroubled.append {first second : Talk} (h : Untroubled first) (h' : Untroubled second) :
    Untroubled (first ++ second) := by
  intro chunk error hmem
  rcases List.mem_append.mp hmem with hfirst | hsecond
  · exact h chunk error hfirst
  · exact h' chunk error hsecond

/-! ## What a reaction comes to -/

variable {session : Session} {exchange : Exchange} {event : Event} {now : Nat}
  {progress : Progress} {payload : Bytes} {decoder : Netascii.Decoder} {summary : Summary}

/-- The surroundings did not do what was asked of them. -/
def Refused : Sigma Answer → Prop
  | ⟨.send _ _, .error _⟩ | ⟨.write _, .error _⟩ | ⟨.flush, .error _⟩ => True
  | _ => False

/-- What becomes of a block that is accepted, when the decoder has settled `settled`. -/
inductive Stores (session : Session) (payload : Bytes) (settled : Bytes × Netascii.Decoder)
    (summary : Summary) (now : Nat) : Talk → Progress → Prop
  | full (length_eq : payload.length = blockSize) :
      Stores session payload settled summary now
        [⟨.write settled.1, .ok ()⟩,
          ⟨.send session.peer (Packet.encodeAck session.block), .ok ()⟩]
        (.waiting { session with block := session.block + 1, stage := .transferring }
          { outstanding := Packet.encodeAck session.block, deadline := session.deadlineFrom now,
            summary := summary.add payload.length, awaited := .data settled.2 })
  | last (short : payload.length < blockSize) :
      Stores session payload settled summary now
        [⟨.write settled.1, .ok ()⟩, ⟨.write settled.2.finish.1, .ok ()⟩, ⟨.flush, .ok ()⟩,
          ⟨.send session.peer (Packet.encodeAck session.block), .ok ()⟩]
        (.ended { session with block := session.block + 1, stage := .completed }
          (.ok (summary.add payload.length)))
  | failed {talk : Talk} {last : Session} {error : TransferError}
      (sends : ∀ {taken : Bytes}, ∀ entry ∈ posts taken talk, IsNotice entry.2 ∨
        entry.2 = Packet.encodeAck session.block ∧
          (entry.1 = taken ++ settled.1 ∨ entry.1 = taken ++ settled.1 ++ settled.2.finish.1))
      (refused : ∃ said ∈ talk, Refused said) :
      Stores session payload settled summary now talk (.ended last (.error error))

theorem leads_acknowledge_iff {length : Nat} :
    (session.acknowledge length decoder summary now).Leads talk progress ↔
      talk = [⟨.send session.peer (Packet.encodeAck session.block), .ok ()⟩] ∧
        progress = (if length < blockSize then
          .ended { session with block := session.block + 1, stage := .completed }
            (.ok (summary.add length))
        else .waiting { session with block := session.block + 1, stage := .transferring }
          { outstanding := Packet.encodeAck session.block, deadline := session.deadlineFrom now,
            summary := summary.add length, awaited := .data decoder }) ∨
      ∃ error, talk = [⟨.send session.peer (Packet.encodeAck session.block), .error error⟩] ∧
        progress = .ended { session with stage := .failed } (.error (.socket error)) := by
  unfold acknowledge
  rw [leads_sendToPeer_iff]
  refine or_congr ?_ Iff.rfl
  split
  · constructor
    · rintro ⟨rest, rfl, h⟩
      obtain ⟨rfl, rfl⟩ := leads_complete_iff.mp h
      exact ⟨rfl, rfl⟩
    · rintro ⟨rfl, rfl⟩
      exact ⟨[], rfl, leads_complete_iff.mpr ⟨rfl, rfl⟩⟩
  · constructor
    · rintro ⟨rest, rfl, h⟩
      obtain ⟨rfl, rfl⟩ := leads_await_iff.mp h
      exact ⟨rfl, rfl⟩
    · rintro ⟨rfl, rfl⟩
      exact ⟨[], rfl, leads_await_iff.mpr ⟨rfl, rfl⟩⟩

/-- A stream that refuses ends the session. -/
theorem stores_of_abandon {settled : Bytes × Netascii.Decoder} (before : Talk) {rest : Talk}
    {said : Sigma Answer} {use : SystemError.Use} {error : SystemError}
    (silent : ∀ {taken}, ∃ taken', posts taken (before ++ said :: rest) = posts taken' rest)
    (refused : Refused said) (leads : (session.abandon use error).Leads rest progress) :
    Stores session payload settled summary now (before ++ said :: rest) progress := by
  obtain ⟨quiet, last, error, rfl⟩ := fails_of_abandon leads
  refine .failed ?_ ⟨said, List.mem_append_right _ List.mem_cons_self, refused⟩
  intro taken entry hmem
  obtain ⟨taken', hposts⟩ := @silent taken
  rw [hposts] at hmem
  exact .inl (quiet.posts hmem)

theorem stores_of_leads (hlength : payload.length ≤ blockSize)
    (leads : (session.takePayload payload decoder summary now).Leads talk progress) :
    Stores session payload (session.mode.readMore decoder payload) summary now talk progress := by
  rw [takePayload_eq] at leads
  generalize session.mode.readMore decoder payload = settled at leads ⊢
  dsimp only at leads
  rcases leads_store_iff.mp leads with ⟨_, rfl, hnext⟩ | ⟨error, _, rfl, habandon⟩
  · split at hnext
    · next hlast =>
      have short : payload.length < blockSize := of_decide_eq_true hlast
      rcases leads_store_iff.mp hnext with ⟨_, rfl, hflush⟩ | ⟨error, _, rfl, habandon⟩
      · rcases leads_flush_iff.mp hflush with ⟨_, rfl, hack⟩ | ⟨error, _, rfl, habandon⟩
        · rcases leads_acknowledge_iff.mp hack with ⟨rfl, rfl⟩ | ⟨error, rfl, rfl⟩
          · rw [if_pos short]
            exact .last short
          · refine .failed ?_ ⟨_, List.mem_append_right [_, _, _] List.mem_cons_self, trivial⟩
            intro taken entry hmem
            cases List.mem_singleton.mp hmem
            exact .inr ⟨rfl, .inr rfl⟩
        · exact stores_of_abandon [_, _] ⟨_, rfl⟩ trivial habandon
      · exact stores_of_abandon [_] ⟨_, rfl⟩ trivial habandon
    · next hlast =>
      have hfull : ¬ payload.length < blockSize := fun hless ↦ hlast (decide_eq_true hless)
      rcases leads_acknowledge_iff.mp hnext with ⟨rfl, rfl⟩ | ⟨error, rfl, rfl⟩
      · rw [if_neg hfull]
        exact .full (Nat.le_antisymm hlength (Nat.le_of_not_lt hfull))
      · refine .failed ?_ ⟨_, List.mem_append_right [_] List.mem_cons_self, trivial⟩
        intro taken entry hmem
        cases List.mem_singleton.mp hmem
        exact .inr ⟨rfl, .inl rfl⟩
  · exact stores_of_abandon [] ⟨_, rfl⟩ trivial habandon

/-- What a session that awaits a block does about an event. -/
inductive Responds (session : Session) (exchange : Exchange) (decoder : Netascii.Decoder)
    (event : Event) (now : Nat) : Talk → Progress → Prop
  | passed {talk : Talk} {served : Session} (task : served.SameTask session)
      (refused : session.accepted? exchange event = none) (quiet : Quiet talk) :
      Responds session exchange decoder event now talk (.waiting served exchange)
  | repeated {served : Session} {attempts deadline : Nat} (task : served.SameTask session)
      (refused : session.accepted? exchange event = none) :
      Responds session exchange decoder event now
        [⟨.send served.peer exchange.outstanding, .ok ()⟩]
        (.waiting served { exchange with attempts, deadline })
  | failed {talk : Talk} {last : Session} {error : TransferError}
      (refused : session.accepted? exchange event = none)
      (sends : ∀ {taken : Bytes}, ∀ entry ∈ posts taken talk,
        IsNotice entry.2 ∨ entry = (taken, exchange.outstanding)) :
      Responds session exchange decoder event now talk (.ended last (.error error))
  | accepted {talk : Talk} {progress : Progress} {served : Session} {payload : Bytes}
      (task : served.SameTask session)
      (taken : session.accepted? exchange event = some payload)
      (stores : Stores served payload (session.mode.readMore decoder payload) exchange.summary now
        talk progress) :
      Responds session exchange decoder event now talk progress

/-- A block is accepted if it comes from the peer and is the one that is due. -/
theorem accepted?_eq_some_iff (awaited : exchange.awaited = .data decoder) :
    session.accepted? exchange event = some payload ↔
      ∃ source datagram, event = .arrival source datagram ∧ ¬ session.IsStranger source ∧
        Packet.decode datagram = .ok (.data session.block payload) := by
  cases event with
  | arrival source datagram =>
    unfold accepted?
    rw [awaited]
    dsimp only
    by_cases stranger : session.IsStranger source
    · rw [admit?_of_stranger stranger]
      constructor
      · intro h
        split at h
        · cases (if_neg fun hboth ↦ Bool.false_ne_true hboth.1).symm.trans h
        · cases h
      · rintro ⟨_, _, ⟨⟩, peer, -⟩
        exact absurd stranger peer
    · rw [admit?_of_peer stranger]
      constructor
      · intro h
        split at h
        · next block payload' _ hdecode =>
          split at h
          · next hboth =>
            cases h
            exact ⟨source, datagram, rfl, stranger, hboth.2 ▸ hdecode⟩
          · cases h
        · cases h
      · rintro ⟨_, _, ⟨⟩, -, hdecode⟩
        rw [hdecode]
        exact if_pos ⟨rfl, rfl⟩
  | receiveError error => exact ⟨nofun, fun ⟨_, _, h, _⟩ ↦ nomatch h⟩
  | expiry => exact ⟨nofun, fun ⟨_, _, h, _⟩ ↦ nomatch h⟩

theorem responds_of_fails (refused : session.accepted? exchange event = none)
    (fails : Fails talk progress) :
    Responds session exchange decoder event now talk progress := by
  obtain ⟨quiet, last, error, rfl⟩ := fails
  exact .failed refused fun entry hmem ↦ .inl (quiet.posts hmem)

theorem responds_of_resend {served : Session} {attempts deadline : Nat}
    (task : served.SameTask session) (refused : session.accepted? exchange event = none)
    (leads : (served.sendToPeer exchange.outstanding
      (served.await { exchange with attempts, deadline })).Leads talk progress) :
    Responds session exchange decoder event now talk progress := by
  rcases leads_sendToPeer_iff.mp leads with ⟨rest, rfl, hawait⟩ | ⟨error, rfl, rfl⟩
  · obtain ⟨rfl, rfl⟩ := leads_await_iff.mp hawait
    exact .repeated task refused
  · refine .failed refused ?_
    intro taken entry hmem
    cases List.mem_singleton.mp hmem
    exact .inr rfl

/-- An event that brings no block brings no block that is accepted. -/
theorem accepted?_of_unread (awaited : exchange.awaited = .data decoder)
    (unread : session.Unread event) : session.accepted? exchange event = none := by
  refine Option.eq_none_iff_forall_ne_some.mpr ?_
  intro payload taken
  obtain ⟨_, _, harrival, peer, hdecode⟩ := (accepted?_eq_some_iff awaited).mp taken
  obtain ⟨_, hnotice⟩ := unread harrival peer hdecode
  cases hnotice

/-- A packet of the peer. -/
theorem responds_of_take {source : SocketAddress} {datagram : Bytes} {packet : Packet}
    (awaited : exchange.awaited = .data decoder) (arrived : event = .arrival source datagram)
    (peer : ¬ session.IsStranger source) (decoded : Packet.decode datagram = .ok packet)
    (leads : ((session.boundTo source).take exchange packet now).Leads talk progress) :
    Responds session exchange decoder event now talk progress := by
  have task : (session.boundTo source).SameTask session := ⟨rfl, rfl⟩
  have hnone : (∀ payload, packet ≠ .data session.block payload) →
      session.accepted? exchange event = none := by
    intro hother
    refine Option.eq_none_iff_forall_ne_some.mpr ?_
    intro payload taken
    obtain ⟨_, _, harrival, -, hdecode⟩ := (accepted?_eq_some_iff awaited).mp taken
    cases arrived.symm.trans harrival
    cases decoded.symm.trans hdecode
    exact hother payload rfl
  unfold take at leads
  rw [awaited] at leads
  dsimp only at leads
  unfold takeData at leads
  cases packet with
  | data block payload =>
    dsimp only at leads
    split at leads
    · next hblock =>
      obtain rfl : block = session.block := hblock
      refine .accepted task ?_ (stores_of_leads (Packet.length_le_of_decode decoded) leads)
      exact (accepted?_eq_some_iff awaited).mpr ⟨source, datagram, arrived, peer, decoded⟩
    · next hblock =>
      have refused := hnone fun payload' hdue ↦ hblock (Packet.data.inj hdue).1
      split at leads
      · exact responds_of_resend task refused leads
      · exact responds_of_fails refused (fails_of_reject leads)
  | _ => exact responds_of_fails (hnone nofun) (fails_of_reject leads)

theorem responds_of_leads (awaited : exchange.awaited = .data decoder)
    (leads : (session.react exchange event now).Leads talk progress) :
    Responds session exchange decoder event now talk progress := by
  cases attends_of_leads leads with
  | passed task unread quiet => exact .passed task (accepted?_of_unread awaited unread) quiet
  | failed unread fails => exact responds_of_fails (accepted?_of_unread awaited unread) fails
  | repeated expired resends =>
    subst expired
    exact responds_of_resend ⟨rfl, rfl⟩ rfl resends
  | took arrived peer decoded takes => exact responds_of_take awaited arrived peer decoded takes

/-! ## Histories -/

/-- The payload of the block that was accepted in the reaction. -/
def Reaction.accepted? (reaction : Reaction) : Option Bytes :=
  reaction.session.accepted? reaction.exchange reaction.event

/-- The payloads of the blocks that were accepted. -/
def payloads (record : List Reaction) : List Bytes :=
  record.filterMap Reaction.accepted?

/-- What a receiver that began with block `block` has sent last, after `count` blocks. -/
def lastSent (block : BlockNumber) (opening : Bytes) : Nat → Bytes
  | 0 => opening
  | count + 1 => Packet.encodeAck (block + UInt16.ofNat count)

/-- What a session that began to receive has received so far. -/
structure Received (session : Session) (opening : Bytes) (first : Talk) (record : List Reaction)
    (progress : Progress) : Prop where
  /-- It began with the opening. -/
  opened : ∃ answer, first = [⟨.send session.peer opening, answer⟩]
  /-- Every block that is accepted comes from the peer and is the next one. -/
  numbered : ∀ {earlier later : List Reaction} {reaction : Reaction} {payload : Bytes},
    record = earlier ++ reaction :: later → reaction.accepted? = some payload →
      ∃ source datagram, reaction.event = .arrival source datagram ∧
        ¬ reaction.session.IsStranger source ∧ Packet.decode datagram =
          .ok (.data (session.block + UInt16.ofNat (payloads earlier).length) payload)
  /-- All blocks are full, except for the latest one. -/
  full : ∀ payload ∈ (payloads record).dropLast, payload.length = blockSize
  /-- Whenever it waits, the stream has taken what the blocks settle, and none was the last one. -/
  waiting : ∀ {current : Session} {exchange : Exchange}, progress = .waiting current exchange →
    current.block = session.block + UInt16.ofNat (payloads record).length ∧
      stored (saying first record) ++ session.mode.held (payloads record).flatten =
        session.mode.decode (payloads record).flatten ∧
      ∀ payload ∈ payloads record, payload.length = blockSize
  /-- If it completes, the stream has taken everything. -/
  completed : ∀ {last : Session} {summary : Summary}, progress = .ended last (.ok summary) →
    last.block = session.block + UInt16.ofNat (payloads record).length ∧
      stored (saying first record) = session.mode.decode (payloads record).flatten ∧
      summary = ⟨(payloads record).length, (payloads record).flatten.length⟩
  /-- A sink that is written to, and does not make the session fail, holds what was taken. -/
  sink : (∀ last error, progress ≠ .ended last (.error error)) →
    ∀ {before after : Sink}, before.Hears (saying first record) after →
      after.written.toBytes = before.written.toBytes ++ stored (saying first record)
  /-- It completes when a short block was written, stored and acknowledged. -/
  completes_iff : (∃ last summary, progress = .ended last (.ok summary)) ↔
    ∃ reaction ∈ record, ∃ payload settled released peer, reaction.accepted? = some payload ∧
      payload.length < blockSize ∧ reaction.talk =
        [⟨.write settled, .ok ()⟩, ⟨.write released, .ok ()⟩, ⟨.flush, .ok ()⟩,
          ⟨.send peer (Packet.encodeAck reaction.session.block), .ok ()⟩]
  /-- Except for notices, what it sends in a reaction is the acknowledgment of the latest block,
  or the opening if there is none, and what the blocks up to there settle was taken before. -/
  acknowledged : ∀ {earlier later : List Reaction} {reaction : Reaction},
    record = earlier ++ reaction :: later → ∀ {taken packet : Bytes},
      (taken, packet) ∈ posts (stored (saying first earlier)) reaction.talk → IsNotice packet ∨
        packet = lastSent session.block opening (payloads (earlier ++ [reaction])).length ∧
          (taken = session.mode.decode (payloads (earlier ++ [reaction])).flatten ∨
            taken ++ session.mode.held (payloads (earlier ++ [reaction])).flatten =
              session.mode.decode (payloads (earlier ++ [reaction])).flatten)
  /-- An old block only has the latest packet sent again. -/
  stale : ∀ {earlier later : List Reaction} {reaction : Reaction},
    record = earlier ++ reaction :: later → ∀ {source : SocketAddress} {datagram payload : Bytes}
      {block : BlockNumber}, reaction.event = .arrival source datagram →
      ¬ reaction.session.IsStranger source → Packet.decode datagram = .ok (.data block payload) →
      block.isStale (session.block + UInt16.ofNat (payloads earlier).length) →
        ∃ answer, reaction.talk = [⟨.send source
          (lastSent session.block opening (payloads earlier).length), answer⟩]

/-- A session that waits for the block behind `blocks`, after all that was said. -/
structure Waits (session : Session) (opening : Bytes) (talk : Talk) (blocks : List Bytes)
    (current : Session) (exchange : Exchange) : Prop where
  mode_eq : current.mode = session.mode
  block_eq : current.block = session.block + UInt16.ofNat blocks.length
  outstanding_eq : exchange.outstanding = lastSent session.block opening blocks.length
  awaited_eq : exchange.awaited = .data (session.mode.read blocks.flatten).2
  summary_eq : exchange.summary = ⟨blocks.length, blocks.flatten.length⟩
  stored_eq : stored talk = (session.mode.read blocks.flatten).1
  full : ∀ payload ∈ blocks, payload.length = blockSize
  untroubled : Untroubled talk

/-- A session that has completed with the last one of the blocks. -/
structure Completed (session : Session) (talk : Talk) (blocks : List Bytes) (last : Session)
    (summary : Summary) : Prop where
  block_eq : last.block = session.block + UInt16.ofNat blocks.length
  summary_eq : summary = ⟨blocks.length, blocks.flatten.length⟩
  stored_eq : stored talk = session.mode.decode blocks.flatten
  untroubled : Untroubled talk

section

variable {opening : Bytes} {blocks : List Bytes} {current next : Session} {exchange' : Exchange}
  {said : Talk}

theorem payloads_snoc (earlier : List Reaction) (reaction : Reaction) :
    payloads (earlier ++ [reaction]) = payloads earlier ++ reaction.accepted?.toList := by
  unfold payloads
  rw [List.filterMap_append]
  cases h : reaction.accepted? with
  | none => rw [List.filterMap_cons_none h, List.filterMap_nil, Option.toList_none]
  | some payload => rw [List.filterMap_cons_some h, List.filterMap_nil, Option.toList_some]

theorem add_payload (blocks : List Bytes) (payload : Bytes) :
    (⟨blocks.length, blocks.flatten.length⟩ : Summary).add payload.length =
      ⟨(blocks ++ [payload]).length, (blocks ++ [payload]).flatten.length⟩ := by
  rw [List.length_append, List.flatten_append, List.length_append, List.flatten_singleton]
  rfl

/-- The opening is sent, and nothing was received yet. -/
theorem waits_of_receive (leads : (session.receive opening now).Leads talk progress) :
    (∃ answer, talk = [⟨.send session.peer opening, answer⟩]) ∧
      ((∃ last error, progress = .ended last (.error error)) ∨
        ∃ current exchange, progress = .waiting current exchange ∧
          Waits session opening talk [] current exchange) := by
  rcases leads_sendToPeer_iff.mp leads with ⟨rest, rfl, hawait⟩ | ⟨error, rfl, rfl⟩
  · obtain ⟨rfl, rfl⟩ := leads_await_iff.mp hawait
    refine ⟨⟨_, rfl⟩, .inr ⟨_, _, rfl, rfl, (UInt16.add_zero _).symm, rfl, ?_, rfl, ?_,
      fun payload hmem ↦ absurd hmem List.not_mem_nil, ?_⟩⟩
    · rw [List.flatten_nil, Mode.read_nil]
    · rw [List.flatten_nil, Mode.read_nil]
      rfl
    · intro chunk error hmem
      cases List.mem_singleton.mp hmem
  · exact ⟨⟨_, rfl⟩, .inl ⟨_, _, rfl⟩⟩

/-- What a block settles behind the others. -/
theorem Waits.read_flatten (waits : Waits session opening talk blocks current exchange)
    (payload : Bytes) :
    session.mode.read (blocks ++ [payload]).flatten =
      (stored talk ++ (current.mode.readMore (session.mode.read blocks.flatten).2 payload).1,
        (current.mode.readMore (session.mode.read blocks.flatten).2 payload).2) := by
  rw [List.flatten_append, List.flatten_singleton, Mode.read_append, waits.stored_eq,
    waits.mode_eq]

/-- A reaction after which the session waits again. -/
theorem Waits.again (waits : Waits session opening talk blocks current exchange)
    (leads : (current.react exchange event now).Leads said (.waiting next exchange')) :
    Waits session opening (talk ++ said) (blocks ++ (current.accepted? exchange event).toList)
      next exchange' := by
  have kept (task : next.SameTask current) (refused : current.accepted? exchange event = none)
      (hstored : stored said = []) (huntroubled : Untroubled said) {attempts deadline : Nat}
      (hexchange : exchange' = { exchange with attempts, deadline }) :
      Waits session opening (talk ++ said) (blocks ++ (current.accepted? exchange event).toList)
        next exchange' := by
    rw [refused, Option.toList_none, List.append_nil, hexchange]
    exact {
      mode_eq := task.mode_eq.trans waits.mode_eq
      block_eq := task.block_eq.trans waits.block_eq
      outstanding_eq := waits.outstanding_eq
      awaited_eq := waits.awaited_eq
      summary_eq := waits.summary_eq
      stored_eq := by rw [stored_append, hstored, List.append_nil, waits.stored_eq]
      full := waits.full
      untroubled := waits.untroubled.append huntroubled }
  cases responds_of_leads waits.awaited_eq leads with
  | passed task refused quiet => exact kept task refused quiet.stored_eq quiet.untroubled rfl
  | repeated task refused =>
    refine kept task refused rfl ?_ rfl
    intro chunk error hmem
    cases List.mem_singleton.mp hmem
  | @accepted _ _ served payload task taken stores =>
    have hread := waits.read_flatten payload
    generalize hsettled : current.mode.readMore (session.mode.read blocks.flatten).2 payload =
      settled at hread stores
    cases stores with
    | full length_eq =>
      have hblock : served.block = session.block + UInt16.ofNat blocks.length :=
        task.block_eq.trans waits.block_eq
      rw [taken, Option.toList_some]
      exact {
        mode_eq := task.mode_eq.trans waits.mode_eq
        block_eq := by
          rw [List.length_append, List.length_singleton, ← BlockNumber.add_ofNat_succ, ← hblock]
        outstanding_eq := by
          rw [List.length_append, List.length_singleton, lastSent, ← hblock]
        awaited_eq := by rw [hread]
        summary_eq := by rw [waits.summary_eq, add_payload]
        stored_eq := by
          rw [hread, stored_append]
          exact congrArg (stored talk ++ ·) (List.append_nil _)
        full := by
          intro payload' hmem
          rcases List.mem_append.mp hmem with hearlier | hnow
          · exact waits.full payload' hearlier
          · rw [List.mem_singleton.mp hnow]
            exact length_eq
        untroubled := by
          refine waits.untroubled.append ?_
          intro chunk error hmem
          simp at hmem }

/-- A reaction in which the session completes. -/
theorem Waits.completes (waits : Waits session opening talk blocks current exchange)
    {last : Session}
    (leads : (current.react exchange event now).Leads said (.ended last (.ok summary))) :
    Completed session (talk ++ said) (blocks ++ (current.accepted? exchange event).toList) last
        summary ∧
      ∃ payload settled released peer, current.accepted? exchange event = some payload ∧
        payload.length < blockSize ∧ said =
          [⟨.write settled, .ok ()⟩, ⟨.write released, .ok ()⟩, ⟨.flush, .ok ()⟩,
            ⟨.send peer (Packet.encodeAck current.block), .ok ()⟩] := by
  cases responds_of_leads waits.awaited_eq leads with
  | @accepted _ _ served payload task taken stores =>
    have hread := waits.read_flatten payload
    generalize hsettled : current.mode.readMore (session.mode.read blocks.flatten).2 payload =
      settled at hread stores
    cases stores with
    | last short =>
      have hblock : served.block = session.block + UInt16.ofNat blocks.length :=
        task.block_eq.trans waits.block_eq
      rw [taken, Option.toList_some]
      refine ⟨?_, payload, _, _, _, rfl, short, by rw [← task.block_eq]⟩
      exact {
        block_eq := by
          rw [List.length_append, List.length_singleton, ← BlockNumber.add_ofNat_succ, ← hblock]
        summary_eq := by rw [waits.summary_eq, add_payload]
        stored_eq := by
          rw [Mode.decode_eq, hread, stored_append, List.append_assoc]
          refine congrArg (stored talk ++ ·) ?_
          exact congrArg (settled.1 ++ ·) (List.append_nil _)
        untroubled := by
          refine waits.untroubled.append ?_
          intro chunk error hmem
          simp at hmem }

variable {first : Talk} {record earlier later : List Reaction} {reaction : Reaction}

/-- Whenever the session waits, it waits for the block behind those that were accepted. -/
theorem Runs.waits
    (run : Runs (session.receive opening now) first record (.waiting current exchange)) :
    Waits session opening (saying first record) (payloads record) current exchange := by
  generalize hprogress : Progress.waiting current exchange = progress at run
  induction run generalizing current exchange with
  | begun leads =>
    rcases (waits_of_receive leads).2 with ⟨last, error, rfl⟩ | ⟨current', exchange', rfl, waits⟩
    · cases hprogress
    · cases hprogress
      rw [saying, List.flatMap_nil, List.append_nil]
      exact waits
  | reacted run event now leads ih =>
    subst hprogress
    rw [saying_snoc, payloads_snoc]
    exact (ih rfl).again leads

/-- If the session has completed, it did so in its last reaction. -/
theorem Runs.completed {last : Session}
    (run : Runs (session.receive opening now) first record (.ended last (.ok summary))) :
    Completed session (saying first record) (payloads record) last summary ∧
      ∃ reaction ∈ record, ∃ payload settled released peer, reaction.accepted? = some payload ∧
        payload.length < blockSize ∧ reaction.talk =
          [⟨.write settled, .ok ()⟩, ⟨.write released, .ok ()⟩, ⟨.flush, .ok ()⟩,
            ⟨.send peer (Packet.encodeAck reaction.session.block), .ok ()⟩] := by
  cases run with
  | begun leads =>
    rcases (waits_of_receive leads).2 with ⟨_, _, hended⟩ | ⟨_, _, hwaiting, -⟩
    · cases hended
    · cases hwaiting
  | reacted run event now leads =>
    obtain ⟨completed, hlast⟩ := run.waits.completes leads
    rw [saying_snoc, payloads_snoc]
    exact ⟨completed, _, List.mem_append_right _ (List.mem_singleton_self _), hlast⟩

/-- A short block that was stored and acknowledged ends the session. -/
theorem Runs.completed_of_stored (run : Runs (session.receive opening now) first record progress)
    (hmem : reaction ∈ record) {settled released packet : Bytes} {peer : SocketAddress}
    (taken : reaction.accepted? = some payload)
    (htalk : reaction.talk = [⟨.write settled, .ok ()⟩, ⟨.write released, .ok ()⟩,
      ⟨.flush, .ok ()⟩, ⟨.send peer packet, .ok ()⟩]) :
    ∃ last summary, progress = .ended last (.ok summary) := by
  obtain ⟨earlier, later, rfl⟩ := List.append_of_mem hmem
  have hended : ∃ last summary, reaction.progress = .ended last (.ok summary) := by
    obtain ⟨reached, leads⟩ := run.split
    have responds := responds_of_leads reached.waits.awaited_eq leads
    generalize reaction.progress = progress at responds
    generalize reaction.talk = said at responds htalk
    cases responds with
    | passed task refused => cases refused.symm.trans taken
    | repeated task refused => cases refused.symm.trans taken
    | failed refused => cases refused.symm.trans taken
    | accepted task taken' stores =>
      cases taken'.symm.trans taken
      rw [htalk] at stores
      cases stores with
      | last => exact ⟨_, _, rfl⟩
      | failed sends refused =>
        obtain ⟨said, hsaid, refuses⟩ := refused
        simp only [List.mem_cons, List.not_mem_nil, or_false] at hsaid
        rcases hsaid with rfl | rfl | rfl | rfl <;> exact refuses.elim
  obtain ⟨last, summary, hended⟩ := hended
  obtain rfl := run.eq_nil_of_ended hended
  exact ⟨last, summary, run.progress_of_snoc.symm.trans hended⟩

/-- What is sent in a reaction is backed by what was taken before. -/
theorem Waits.posts (waits : Waits session opening talk blocks current exchange)
    (leads : (current.react exchange event now).Leads said progress) {packet : Bytes}
    (hmem : (taken, packet) ∈ posts (stored talk) said) :
    IsNotice packet ∨
      packet = lastSent session.block opening
          (blocks ++ (current.accepted? exchange event).toList).length ∧
        (taken = session.mode.decode (blocks ++ (current.accepted? exchange event).toList).flatten ∨
          taken ++ session.mode.held
              (blocks ++ (current.accepted? exchange event).toList).flatten =
            session.mode.decode (blocks ++ (current.accepted? exchange event).toList).flatten) := by
  have backed : stored talk ++ session.mode.held blocks.flatten =
      session.mode.decode blocks.flatten := by
    rw [waits.stored_eq, Mode.read_append_held]
  have kept (refused : current.accepted? exchange event = none)
      (hentry : (taken, packet) = (stored talk, exchange.outstanding)) :
      packet = lastSent session.block opening
          (blocks ++ (current.accepted? exchange event).toList).length ∧
        taken ++ session.mode.held
            (blocks ++ (current.accepted? exchange event).toList).flatten =
          session.mode.decode (blocks ++ (current.accepted? exchange event).toList).flatten := by
    cases hentry
    rw [refused, Option.toList_none, List.append_nil]
    exact ⟨waits.outstanding_eq, backed⟩
  cases responds_of_leads waits.awaited_eq leads with
  | passed task refused quiet => exact .inl (quiet.posts hmem)
  | repeated task refused =>
    have := kept refused (List.mem_singleton.mp hmem)
    exact .inr ⟨this.1, .inr this.2⟩
  | failed refused sends =>
    rcases sends _ hmem with notice | hentry
    · exact .inl notice
    · have := kept refused hentry
      exact .inr ⟨this.1, .inr this.2⟩
  | @accepted _ _ served payload task taken' stores =>
    have hread := waits.read_flatten payload
    generalize hsettled : current.mode.readMore (session.mode.read blocks.flatten).2 payload =
      settled at hread stores
    have hblock : served.block = session.block + UInt16.ofNat blocks.length :=
      task.block_eq.trans waits.block_eq
    have hpacket : Packet.encodeAck served.block =
        lastSent session.block opening (blocks ++ [payload]).length := by
      rw [List.length_append, List.length_singleton, lastSent, ← hblock]
    have hbacked : stored talk ++ settled.1 ++ session.mode.held (blocks ++ [payload]).flatten =
        session.mode.decode (blocks ++ [payload]).flatten := by
      rw [← Mode.read_append_held, hread]
    have hwhole : stored talk ++ settled.1 ++ settled.2.finish.1 =
        session.mode.decode (blocks ++ [payload]).flatten := by
      rw [Mode.decode_eq, hread]
    rw [taken', Option.toList_some]
    cases stores with
    | full length_eq =>
      cases List.mem_singleton.mp hmem
      exact .inr ⟨hpacket, .inr hbacked⟩
    | last short =>
      cases List.mem_singleton.mp hmem
      exact .inr ⟨hpacket, .inl hwhole⟩
    | failed sends refused =>
      rcases sends _ hmem with notice | ⟨rfl, rfl | rfl⟩
      · exact .inl notice
      · exact .inr ⟨hpacket, .inr hbacked⟩
      · exact .inr ⟨hpacket, .inl hwhole⟩

/-- An old block has the packet repeated that was sent last. -/
theorem Waits.stale (waits : Waits session opening talk blocks current exchange)
    {source : SocketAddress} {datagram : Bytes} {block : BlockNumber}
    (peer : ¬ current.IsStranger source) (hdecode : Packet.decode datagram = .ok (.data block payload))
    (hstale : block.isStale (session.block + UInt16.ofNat blocks.length))
    (leads : (current.react exchange (.arrival source datagram) now).Leads said progress) :
    ∃ answer, said = [⟨.send source (lastSent session.block opening blocks.length), answer⟩] := by
  rw [← waits.block_eq] at hstale
  have hne : block ≠ (current.boundTo source).block := by
    rintro rfl
    simp [BlockNumber.isStale, boundTo] at hstale
  have hturn : current.react exchange (.arrival source datagram) now =
      (current.boundTo source).sendToPeer exchange.outstanding
        ((current.boundTo source).await exchange) := by
    rw [arrive_of_peer peer, read, hdecode]
    exact take_data_stale waits.awaited_eq hne hstale payload
  rw [hturn, waits.outstanding_eq] at leads
  rcases leads_sendToPeer_iff.mp leads with ⟨rest, rfl, hawait⟩ | ⟨error, rfl, -⟩
  · obtain ⟨rfl, -⟩ := leads_await_iff.mp hawait
    exact ⟨_, rfl⟩
  · exact ⟨_, rfl⟩

/-- Blocks before the latest one are full. -/
theorem Runs.full (run : Runs (session.receive opening now) first record progress) :
    ∀ payload ∈ (payloads record).dropLast, payload.length = blockSize := by
  rcases List.eq_nil_or_concat record with rfl | ⟨front, last, rfl⟩
  · exact fun payload hmem ↦ absurd hmem List.not_mem_nil
  · rw [List.concat_eq_append] at run ⊢
    have hfull := run.split.1.waits.full
    rw [payloads_snoc]
    cases last.accepted? with
    | none =>
      rw [Option.toList_none, List.append_nil]
      exact fun payload hmem ↦ hfull payload (List.dropLast_subset _ hmem)
    | some payload =>
      rw [Option.toList_some, List.dropLast_concat]
      exact hfull

/-- Whatever arrives and however its surroundings answer, a session receives like this. -/
theorem received_of_runs (run : Runs (session.receive opening now) first record progress) :
    Received session opening first record progress := by
  obtain ⟨begun, hfirst⟩ := run.first_leads
  exact {
    opened := (waits_of_receive hfirst).1
    numbered := by
      rintro earlier later reaction payload rfl taken
      obtain ⟨reached, -⟩ := run.split
      rw [← reached.waits.block_eq]
      exact (accepted?_eq_some_iff reached.waits.awaited_eq).mp taken
    full := run.full
    waiting := by
      rintro current exchange rfl
      have waits := run.waits
      refine ⟨waits.block_eq, ?_, waits.full⟩
      rw [waits.stored_eq, Mode.read_append_held]
    completed := by
      rintro last summary rfl
      have completed := run.completed.1
      exact ⟨completed.block_eq, completed.stored_eq, completed.summary_eq⟩
    sink := by
      intro sound before after hears
      apply hears.written
      cases progress with
      | waiting current exchange => exact run.waits.untroubled
      | ended last result =>
        cases result with
        | ok summary => exact run.completed.1.untroubled
        | error error => exact absurd rfl (sound last error)
    completes_iff := by
      constructor
      · rintro ⟨last, summary, rfl⟩
        exact run.completed.2
      · rintro ⟨reaction, hmem, payload, settled, released, peer, taken, -, htalk⟩
        exact run.completed_of_stored hmem taken htalk
    acknowledged := by
      rintro earlier later reaction rfl taken packet hmem
      obtain ⟨reached, leads⟩ := run.split
      rw [payloads_snoc]
      exact reached.waits.posts leads hmem
    stale := by
      rintro earlier later reaction rfl source datagram payload block hevent peer hdecode hstale
      obtain ⟨reached, leads⟩ := run.split
      rw [hevent] at leads
      exact reached.waits.stale peer hdecode hstale leads }

/-! ## One reception -/

/-- A session that receives text from a peer on the same host. -/
def localReader : Session :=
  Session.accepted ⟨.localhost .four, 1069, 0⟩ .netascii {}

/-- A full block that ends with the first half of a line end. -/
def localBlock : Bytes :=
  List.replicate 511 97 ++ [13]

/-- The acknowledgment of the first block is lost, so that the block comes twice. -/
def localArrivals : List Incident :=
  [{ event := .arrival localReader.peer (Packet.encodeData 1 localBlock), now := 1000 },
    { event := .expiry, now := 2500 },
    { event := .arrival localReader.peer (Packet.encodeData 1 localBlock), now := 2600 },
    { event := .arrival localReader.peer (Packet.encodeData 2 [10, 98]), now := 3000 }]

def localReception : Chronicle :=
  .lead ⟨.localhost .four, 2069, 0⟩ (localReader.receive (Packet.encodeAck 0) 0) (.sink {}) {}
    localArrivals

theorem received_two_blocks :
    Runs (localReader.receive (Packet.encodeAck 0) 0) localReception.first localReception.record
        localReception.progress ∧
      payloads localReception.record = [localBlock, [10, 98]] ∧
      localReception.record.map (·.talk.length) = [2, 1, 1, 4] ∧
      (∃ after : Sink, localReception.stream = .sink after ∧
        Sink.Hears {} (saying localReception.first localReception.record) after) ∧
      Received localReader (Packet.encodeAck 0) localReception.first localReception.record
        localReception.progress := by
  have run : Runs (localReader.receive (Packet.encodeAck 0) 0) localReception.first
      localReception.record localReception.progress := Chronicle.runs_lead _ _ _ _ _
  exact ⟨run, by decide +kernel, by decide +kernel, Chronicle.hears_lead _ _ _ _ _,
    received_of_runs run⟩

end

end Session

end Lockstep
