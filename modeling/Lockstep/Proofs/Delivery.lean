import Lockstep.Proofs.Blocks
import Lockstep.Proofs.Sources
import Mathlib.Data.List.Infix

/-!
# Histories of senders

What a session has sent when it waits, and when it has ended: the blocks of the stream one after the
other, each as often as need be and each for the first time when the one before it was acknowledged.
The source may yield its bytes in pieces of any size. It may also fail at any time, which ends the
session; until then nothing that was sent depends on the pieces.
-/

namespace Lockstep

namespace Session

/-! ## What leaves -/

/-- The packets leave one after the other, each as often as need be. All else that is sent is
notices. -/
inductive Conveys : List Bytes → Talk → Prop
  | begun : Conveys [] []
  | unsent {packets : List Bytes} {talk : Talk} {said : Sigma Answer}
      (before : Conveys packets talk)
      (unsent : ∀ destination packet, said.1 ≠ .send destination packet) :
      Conveys packets (talk ++ [said])
  | notice {packets : List Bytes} {talk : Talk} {destination : SocketAddress} {packet : Bytes}
      (before : Conveys packets talk) (notice : IsNotice packet)
      (answer : Except SystemError Unit) :
      Conveys packets (talk ++ [⟨.send destination packet, answer⟩])
  | first {packets : List Bytes} {talk : Talk} (before : Conveys packets talk)
      (destination : SocketAddress) (packet : Bytes) (answer : Except SystemError Unit) :
      Conveys (packets ++ [packet]) (talk ++ [⟨.send destination packet, answer⟩])
  | again {packets : List Bytes} {talk : Talk} {packet : Bytes}
      (before : Conveys (packets ++ [packet]) talk) (destination : SocketAddress)
      (answer : Except SystemError Unit) :
      Conveys (packets ++ [packet]) (talk ++ [⟨.send destination packet, answer⟩])

variable {packets : List Bytes} {talk said : Talk}

theorem Conveys.append {others : List Bytes} (h : Conveys packets talk) (h' : Conveys others said) :
    Conveys (packets ++ others) (talk ++ said) := by
  induction h' with
  | begun =>
    rw [List.append_nil, List.append_nil]
    exact h
  | unsent before unsent ih =>
    rw [← List.append_assoc]
    exact ih.unsent unsent
  | notice before notice answer ih =>
    rw [← List.append_assoc]
    exact ih.notice notice answer
  | first before destination packet answer ih =>
    rw [← List.append_assoc, ← List.append_assoc]
    exact ih.first destination packet answer
  | again before destination answer ih =>
    rw [← List.append_assoc] at ih ⊢
    rw [← List.append_assoc]
    exact ih.again destination answer

theorem Quiet.conveys (h : Quiet said) : Conveys [] said := by
  induction said using List.reverseRecOn with
  | nil => exact .begun
  | append_singleton front last ih =>
    obtain ⟨question, answer⟩ := last
    obtain ⟨destination, packet, rfl, notice⟩ := h _ (List.mem_append_right _ List.mem_cons_self)
    exact (ih fun said hmem ↦ h said (List.mem_append_left _ hmem)).notice notice answer

theorem Conveys.mem (h : Conveys packets talk) {destination : SocketAddress} {packet : Bytes}
    {answer : Except SystemError Unit}
    (hmem : (⟨.send destination packet, answer⟩ : Sigma Answer) ∈ talk) :
    IsNotice packet ∨ packet ∈ packets := by
  induction h with
  | begun => exact absurd hmem List.not_mem_nil
  | unsent before unsent ih =>
    rcases List.mem_append.mp hmem with hearlier | hnow
    · exact ih hearlier
    · cases List.mem_singleton.mp hnow
      exact absurd rfl (unsent destination packet)
  | notice before notice answer ih =>
    rcases List.mem_append.mp hmem with hearlier | hnow
    · exact ih hearlier
    · cases List.mem_singleton.mp hnow
      exact .inl notice
  | first before destination packet answer ih =>
    rcases List.mem_append.mp hmem with hearlier | hnow
    · exact (ih hearlier).imp_right (List.mem_append_left _)
    · cases List.mem_singleton.mp hnow
      exact .inr (List.mem_append_right _ List.mem_cons_self)
  | again before destination answer ih =>
    rcases List.mem_append.mp hmem with hearlier | hnow
    · exact ih hearlier
    · cases List.mem_singleton.mp hnow
      exact .inr (List.mem_append_right _ List.mem_cons_self)

/-! ## Blocks -/

namespace Supply

/-- The bytes are yet to be taken from the supply, behind which a source has `left` left. -/
def Leaves (supply : Supply) (left bytes : Bytes) : Prop :=
  match supply with
  | .stream => left = bytes
  | .text rest => rest = bytes

end Supply

variable {session : Session} {exchange : Exchange} {event : Event} {now : Nat}
  {progress : Progress} {wire bytes left : Bytes} {index : Nat} {supply : Supply}

/-- A session waits for the acknowledgment of a block of the stream. -/
structure Offers (session : Session) (wire : Bytes) (index : Nat) (left : Bytes)
    (exchange : Exchange) : Prop where
  outstanding_eq : exchange.outstanding = Packet.encodeData session.block (chunk wire index)
  summary_eq : exchange.summary = ⟨index, blockSize * index⟩
  awaited_eq : ∃ supply, exchange.awaited = .ack (chunk wire index).length supply ∧
    supply.Leaves left (wire.drop (blockSize * (index + 1)))

/-- What a turn comes to that is to send a block: the block was sent, or the session has failed. -/
inductive Submits (session : Session) (wire : Bytes) (index : Nat) (left : Bytes) :
    Talk → Progress → Prop
  | failed {talk : Talk} {last : Session} {error : TransferError} (packets : List Bytes)
      (sent : packets <+: [Packet.encodeData session.block (chunk wire index)])
      (conveys : Conveys packets talk) :
      Submits session wire index left talk (.ended last (.error error))
  | waiting {talk : Talk} {exchange : Exchange}
      (conveys : Conveys [Packet.encodeData session.block (chunk wire index)] talk)
      (offers : Offers session wire index left exchange) :
      Submits session wire index left talk (.waiting session exchange)

/-- Nothing was sent before. -/
theorem Submits.cons (h : Submits session wire index left talk progress) {said : Sigma Answer}
    (unsent : ∀ destination packet, said.1 ≠ .send destination packet) :
    Submits session wire index left (said :: talk) progress := by
  have conveys : Conveys [] [said] := Conveys.begun.unsent unsent
  cases h with
  | failed packets sent conveys' => exact .failed packets sent (conveys.append conveys')
  | waiting conveys' offers => exact .waiting (conveys.append conveys') offers

theorem submits_of_fails (fails : Fails talk progress) :
    Submits session wire index left talk progress := by
  obtain ⟨quiet, last, error, rfl⟩ := fails
  exact .failed [] List.nil_prefix quiet.conveys

theorem submits_of_sendPayload
    (leaves : supply.Leaves bytes (wire.drop (blockSize * (index + 1))))
    (reads : Reads bytes talk left)
    (leads : (session.sendPayload (chunk wire index) supply ⟨index, blockSize * index⟩ now).Leads
      talk progress) : Submits session wire index left talk progress := by
  have conveys (answer : Except SystemError Unit) :
      Conveys [Packet.encodeData session.block (chunk wire index)]
        [⟨.send session.peer (Packet.encodeData session.block (chunk wire index)), answer⟩] :=
    Conveys.begun.first _ _ answer
  rcases leads_sendToPeer_iff.mp leads with ⟨_, rfl, hawait⟩ | ⟨error, rfl, rfl⟩
  · obtain ⟨rfl, rfl⟩ := leads_await_iff.mp hawait
    have hleft : bytes = left := by
      cases reads with
      | sent _ _ _ rest => cases rest; rfl
    exact .waiting (conveys _) ⟨rfl, rfl, supply, rfl, hleft ▸ leaves⟩
  · exact .failed _ (List.prefix_refl _) (conveys _)

/-- The block that is due is taken from the supply. -/
theorem submits_of_sendBlock (leaves : supply.Leaves bytes (wire.drop (blockSize * index)))
    (reads : Reads bytes talk left)
    (leads : (session.sendBlock supply ⟨index, blockSize * index⟩ now).Leads talk progress) :
    Submits session wire index left talk progress := by
  have hdrop : (wire.drop (blockSize * index)).drop blockSize =
      wire.drop (blockSize * (index + 1)) := by
    rw [List.drop_drop, Nat.mul_succ]
  cases supply with
  | text rest =>
    obtain rfl : rest = wire.drop (blockSize * index) := leaves
    have hleaves : (Supply.text ((wire.drop (blockSize * index)).drop blockSize)).Leaves bytes
        (wire.drop (blockSize * (index + 1))) := hdrop
    exact submits_of_sendPayload hleaves reads leads
  | stream =>
    obtain rfl : bytes = wire.drop (blockSize * index) := leaves
    obtain ⟨answer, rest, rfl, hanswer⟩ := Dialogue.leads_ask_iff.mp leads
    cases reads with
    | filled fills hrest =>
      cases answer with
      | error error => exact (submits_of_fails (fails_of_abandon hanswer)).cons nofun
      | ok payload =>
        obtain ⟨rfl, rfl⟩ := fills.eq_take
        have hleaves : Supply.stream.Leaves ((wire.drop (blockSize * index)).drop blockSize)
            (wire.drop (blockSize * (index + 1))) := hdrop
        exact (submits_of_sendPayload hleaves hrest hanswer).cons nofun

/-- The first block is sent. -/
theorem submits_of_beginSending {content : Bytes} (reads : Reads content talk left)
    (leads : (session.beginSending now).Leads talk progress) :
    Submits { session with stage := .transferring } (session.mode.wire content) 0 left talk
      progress := by
  unfold beginSending at leads
  dsimp only at leads
  split at leads
  · next hmode =>
    have hwire : session.mode.wire content = content := by
      rw [hmode]
      rfl
    rw [hwire]
    have hleaves : Supply.stream.Leaves content (content.drop (blockSize * 0)) := rfl
    exact submits_of_sendBlock hleaves reads leads
  · next hmode =>
    have hwire : session.mode.wire content = Netascii.encode content := by
      rw [hmode]
      rfl
    rw [hwire]
    obtain ⟨answer, rest, rfl, hanswer⟩ := Dialogue.leads_ask_iff.mp leads
    cases reads with
    | drained drains hrest =>
      cases answer with
      | error error => exact (submits_of_fails (fails_of_abandon hanswer)).cons nofun
      | ok raw =>
        obtain ⟨rfl, rfl⟩ := drains.eq
        have hleaves : (Supply.text (Netascii.encode raw)).Leaves []
            ((Netascii.encode raw).drop (blockSize * 0)) := rfl
        exact (submits_of_sendBlock hleaves hrest hanswer).cons nofun

/-! ## Acknowledgments -/

/-- The number of the acknowledgment that is awaited. -/
def expected? (session : Session) (exchange : Exchange) : Option BlockNumber :=
  match exchange.awaited with
  | .data _ => none
  | .acceptance => some 0
  | .ack _ _ => some session.block

/-- The number of the awaited acknowledgment, if the event brings it from the peer. -/
def acknowledgment? (session : Session) (exchange : Exchange) (event : Event) :
    Option BlockNumber :=
  match event with
  | .arrival source datagram =>
    match Packet.decode datagram with
    | .ok (.ack number) =>
      if ¬ session.IsStranger source ∧ session.expected? exchange = some number then some number
      else none
    | _ => none
  | .receiveError _ | .expiry => none

theorem acknowledgment?_eq_some_iff {number : BlockNumber} :
    session.acknowledgment? exchange event = some number ↔
      ∃ source datagram, event = .arrival source datagram ∧ ¬ session.IsStranger source ∧
        Packet.decode datagram = .ok (.ack number) ∧ session.expected? exchange = some number := by
  cases event with
  | arrival source datagram =>
    unfold acknowledgment?
    dsimp only
    constructor
    · intro h
      split at h
      · next number' hdecode =>
        split at h
        · next hboth =>
          cases h
          exact ⟨source, datagram, rfl, hboth.1, hdecode, hboth.2⟩
        · cases h
      · cases h
    · rintro ⟨_, _, ⟨⟩, peer, hdecode, hexpected⟩
      rw [hdecode]
      exact if_pos ⟨peer, hexpected⟩
  | receiveError error => exact ⟨nofun, fun ⟨_, _, h, _⟩ ↦ nomatch h⟩
  | expiry => exact ⟨nofun, fun ⟨_, _, h, _⟩ ↦ nomatch h⟩

/-- What follows the awaited acknowledgment. -/
def proceed (session : Session) (exchange : Exchange) (now : Nat) : Turn Progress :=
  match exchange.awaited with
  | .data _ => session.await exchange
  | .acceptance => session.beginSending now
  | .ack length supply => session.advance length supply exchange.summary now

theorem take_eq_takeAck {number : BlockNumber}
    (expected : session.expected? exchange = some number) (packet : Packet) :
    session.take exchange packet now =
      session.takeAck exchange number packet (session.proceed exchange now) := by
  unfold expected? at expected
  cases hawaited : exchange.awaited with
  | data decoder =>
    rw [hawaited] at expected
    cases expected
  | acceptance =>
    rw [hawaited] at expected
    cases expected
    simp only [take, proceed, hawaited]
  | ack length supply =>
    rw [hawaited] at expected
    cases expected
    simp only [take, proceed, hawaited]

/-- What a session that awaits an acknowledgment does about an event. -/
inductive Pursues (session : Session) (exchange : Exchange) (event : Event) (now : Nat) :
    Talk → Progress → Prop
  | passed {talk : Talk} {served : Session} (task : served.SameTask session)
      (overlooked : session.acknowledgment? exchange event = none) (quiet : Quiet talk) :
      Pursues session exchange event now talk (.waiting served exchange)
  | failed {talk : Talk} {progress : Progress}
      (overlooked : session.acknowledgment? exchange event = none) (fails : Fails talk progress) :
      Pursues session exchange event now talk progress
  | repeated {talk : Talk} {progress : Progress} {attempts deadline : Nat}
      (expired : event = .expiry)
      (leads : (session.sendToPeer exchange.outstanding
        (session.await { exchange with attempts, deadline })).Leads talk progress) :
      Pursues session exchange event now talk progress
  | acknowledged {talk : Talk} {progress : Progress} {served : Session} {number : BlockNumber}
      (task : served.SameTask session)
      (taken : session.acknowledgment? exchange event = some number)
      (leads : (served.proceed exchange now).Leads talk progress) :
      Pursues session exchange event now talk progress

theorem acknowledgment?_of_unread (unread : session.Unread event) :
    session.acknowledgment? exchange event = none := by
  refine Option.eq_none_iff_forall_ne_some.mpr ?_
  intro number taken
  obtain ⟨_, _, harrival, peer, hdecode, -⟩ := acknowledgment?_eq_some_iff.mp taken
  obtain ⟨_, hnotice⟩ := unread harrival peer hdecode
  cases hnotice

/-- A packet of the peer. -/
theorem pursues_of_take {source : SocketAddress} {datagram : Bytes} {packet : Packet}
    {number : BlockNumber} (expected : session.expected? exchange = some number)
    (arrived : event = .arrival source datagram) (peer : ¬ session.IsStranger source)
    (decoded : Packet.decode datagram = .ok packet)
    (leads : ((session.boundTo source).take exchange packet now).Leads talk progress) :
    Pursues session exchange event now talk progress := by
  have task : (session.boundTo source).SameTask session := ⟨rfl, rfl⟩
  have hnone : packet ≠ .ack number → session.acknowledgment? exchange event = none := by
    intro hother
    refine Option.eq_none_iff_forall_ne_some.mpr ?_
    intro number' taken
    obtain ⟨_, _, harrival, -, hdecode, hexpected⟩ := acknowledgment?_eq_some_iff.mp taken
    cases arrived.symm.trans harrival
    cases decoded.symm.trans hdecode
    cases expected.symm.trans hexpected
    exact hother rfl
  have expected' : (session.boundTo source).expected? exchange = some number := expected
  rw [take_eq_takeAck expected'] at leads
  unfold takeAck at leads
  cases packet with
  | ack block =>
    dsimp only at leads
    split at leads
    · next hblock =>
      subst hblock
      have taken : session.acknowledgment? exchange event = some block :=
        acknowledgment?_eq_some_iff.mpr ⟨source, datagram, arrived, peer, decoded, expected⟩
      exact .acknowledged task taken leads
    · next hblock =>
      have overlooked := hnone fun hdue ↦ hblock (Packet.ack.inj hdue)
      split at leads
      · obtain ⟨rfl, rfl⟩ := leads_await_iff.mp leads
        exact .passed task overlooked quiet_nil
      · exact .failed overlooked (fails_of_reject leads)
  | _ => exact .failed (hnone nofun) (fails_of_reject leads)

theorem pursues_of_leads {number : BlockNumber} (expected : session.expected? exchange = some number)
    (leads : (session.react exchange event now).Leads talk progress) :
    Pursues session exchange event now talk progress := by
  cases attends_of_leads leads with
  | passed task unread quiet => exact .passed task (acknowledgment?_of_unread unread) quiet
  | failed unread fails => exact .failed (acknowledgment?_of_unread unread) fails
  | repeated expired resends => exact .repeated expired resends
  | took arrived peer decoded takes => exact pursues_of_take expected arrived peer decoded takes

/-! ## Histories -/

/-- The number of the awaited acknowledgment that led to the reaction. -/
def Reaction.acknowledgment? (reaction : Reaction) : Option BlockNumber :=
  reaction.session.acknowledgment? reaction.exchange reaction.event

/-- The acknowledgments that the session has had, in the order in which they came. -/
def acknowledgments (record : List Reaction) : List BlockNumber :=
  record.filterMap Reaction.acknowledgment?

theorem acknowledgments_snoc (earlier : List Reaction) (reaction : Reaction) :
    acknowledgments (earlier ++ [reaction]) =
      acknowledgments earlier ++ reaction.acknowledgment?.toList := by
  unfold acknowledgments
  rw [List.filterMap_append]
  cases h : reaction.acknowledgment? with
  | none => rw [List.filterMap_cons_none h, List.filterMap_nil, Option.toList_none]
  | some payload => rw [List.filterMap_cons_some h, List.filterMap_nil, Option.toList_some]

/-- What a session has to send: the opening, if there is one, and the blocks of the stream. -/
def schedule (session : Session) (opening? : Option Bytes) (content : Bytes) : List Bytes :=
  opening?.toList ++ (List.range (blockCount (session.mode.wire content))).map fun index ↦
    Packet.encodeData (session.block + UInt16.ofNat index)
      (chunk (session.mode.wire content) index)

/-- The numbers under which this is acknowledged. -/
def numbers (session : Session) (opening? : Option Bytes) (content : Bytes) : List BlockNumber :=
  (opening?.map fun _ ↦ 0).toList ++
    (List.range (blockCount (session.mode.wire content))).map fun index ↦
      session.block + UInt16.ofNat index

/-- How a session that began to send has delivered its content so far. -/
structure Delivered (session : Session) (opening? : Option Bytes) (content : Bytes) (first : Talk)
    (record : List Reaction) (progress : Progress) : Prop where
  /-- The packets have left one after the other, and no further than to the one behind those that
  are acknowledged. -/
  conveyed : ∃ count ≤ (acknowledgments record).length + 1,
    Conveys ((session.schedule opening? content).take count) (saying first record)
  /-- While it waits, the one behind those is outstanding. -/
  waiting : ∀ {current : Session} {exchange : Exchange}, progress = .waiting current exchange →
    (session.schedule opening? content)[(acknowledgments record).length]? =
        some exchange.outstanding ∧
      Conveys ((session.schedule opening? content).take ((acknowledgments record).length + 1))
        (saying first record)
  /-- They were acknowledged one after the other. -/
  acknowledged : acknowledgments record <+: session.numbers opening? content
  /-- Except for notices, what leaves in a reaction is the outstanding packet, when it is time to
  repeat it, or the next one, when the outstanding one is acknowledged. -/
  sends : ∀ {earlier later : List Reaction} {reaction : Reaction},
    record = earlier ++ reaction :: later → ∀ {destination packet answer},
      (⟨.send destination packet, answer⟩ : Sigma Answer) ∈ reaction.talk → IsNotice packet ∨
        (reaction.event = .expiry ∧ packet = reaction.exchange.outstanding ∧
          (session.schedule opening? content)[(acknowledgments earlier).length]? = some packet) ∨
        ∃ number, reaction.acknowledgment? = some number ∧
          (session.numbers opening? content)[(acknowledgments earlier).length]? = some number ∧
          (session.schedule opening? content)[(acknowledgments earlier).length + 1]? = some packet
  /-- Nothing but the opening is sent before it is acknowledged. -/
  opened : ∀ {request}, opening? = some request → acknowledgments record = [] →
    ∀ {destination packet answer},
      (⟨.send destination packet, answer⟩ : Sigma Answer) ∈ saying first record →
        IsNotice packet ∨ packet = request
  /-- It completes when a short block is acknowledged. -/
  completes_iff : (∃ last summary, progress = .ended last (.ok summary)) ↔
    ∃ index, (chunk (session.mode.wire content) index).length < blockSize ∧
      opening?.toList.length + index < (acknowledgments record).length
  /-- Everything was delivered then. -/
  completed : ∀ {last : Session} {summary : Summary}, progress = .ended last (.ok summary) →
    Conveys (session.schedule opening? content) (saying first record) ∧
      acknowledgments record = session.numbers opening? content ∧
      summary = ⟨(session.mode.wire content).length / blockSize + 1,
        (session.mode.wire content).length⟩

section

variable {opening? : Option Bytes} {content : Bytes}

theorem length_schedule : (session.schedule opening? content).length =
    opening?.toList.length + blockCount (session.mode.wire content) := by
  simp only [schedule, List.length_append, List.length_map, List.length_range]

theorem length_numbers : (session.numbers opening? content).length =
    opening?.toList.length + blockCount (session.mode.wire content) := by
  cases opening? <;>
    simp only [numbers, List.length_append, List.length_map, List.length_range] <;> rfl

theorem schedule_block (hlt : index < blockCount (session.mode.wire content)) :
    (session.schedule opening? content)[opening?.toList.length + index]? =
      some (Packet.encodeData (session.block + UInt16.ofNat index)
        (chunk (session.mode.wire content) index)) := by
  rw [schedule, List.getElem?_append_right (Nat.le_add_right _ _), Nat.add_sub_cancel_left,
    List.getElem?_map, List.getElem?_range hlt]
  rfl

theorem numbers_block (hlt : index < blockCount (session.mode.wire content)) :
    (session.numbers opening? content)[opening?.toList.length + index]? =
      some (session.block + UInt16.ofNat index) := by
  have hlength : (opening?.map fun _ ↦ (0 : BlockNumber)).toList.length = opening?.toList.length := by
    cases opening? <;> rfl
  rw [numbers, ← hlength, List.getElem?_append_right (Nat.le_add_right _ _),
    Nat.add_sub_cancel_left, List.getElem?_map, List.getElem?_range hlt]
  rfl

end

/-- What a session waits for that has had `count` acknowledgments, and what its source has left. -/
inductive Pending (session : Session) (opening? : Option Bytes) (content : Bytes)
    (current : Session) (exchange : Exchange) (left : Bytes) : Nat → Prop
  | opening {request : Bytes} (opening?_eq : opening? = some request)
      (block_eq : current.block = session.block)
      (outstanding_eq : exchange.outstanding = request)
      (awaited_eq : exchange.awaited = .acceptance) (left_eq : left = content) :
      Pending session opening? content current exchange left 0
  | block {index : Nat} (index_lt : index < blockCount (session.mode.wire content))
      (block_eq : current.block = session.block + UInt16.ofNat index)
      (offers : Offers current (session.mode.wire content) index left exchange) :
      Pending session opening? content current exchange left (opening?.toList.length + index)

/-- What a session has come to that has had `count` acknowledgments. -/
inductive Stands (session : Session) (opening? : Option Bytes) (content : Bytes) (talk : Talk)
    (left : Bytes) (count : Nat) : Progress → Prop
  | waiting {current : Session} {exchange : Exchange} (mode_eq : current.mode = session.mode)
      (conveys : Conveys ((session.schedule opening? content).take (count + 1)) talk)
      (pending : Pending session opening? content current exchange left count) :
      Stands session opening? content talk left count (.waiting current exchange)
  | completed {last : Session} {summary : Summary}
      (count_eq : count = (session.schedule opening? content).length)
      (conveys : Conveys (session.schedule opening? content) talk)
      (summary_eq : summary = ⟨blockCount (session.mode.wire content),
        (session.mode.wire content).length⟩) :
      Stands session opening? content talk left count (.ended last (.ok summary))
  | failed {last : Session} {error : TransferError} {sent : Nat} (sent_le : sent ≤ count + 1)
      (count_lt : count < (session.schedule opening? content).length)
      (conveys : Conveys ((session.schedule opening? content).take sent) talk) :
      Stands session opening? content talk left count (.ended last (.error error))

section

variable {opening? : Option Bytes} {content : Bytes} {current : Session} {count : Nat}
  {number : BlockNumber}

theorem Pending.outstanding (pending : Pending session opening? content current exchange left count) :
    (session.schedule opening? content)[count]? = some exchange.outstanding := by
  cases pending with
  | opening opening?_eq block_eq outstanding_eq awaited_eq left_eq =>
    rw [opening?_eq, outstanding_eq]
    rfl
  | block index_lt block_eq offers => rw [schedule_block index_lt, offers.outstanding_eq, block_eq]

theorem Pending.expected (pending : Pending session opening? content current exchange left count) :
    ∃ number, (session.numbers opening? content)[count]? = some number ∧
      current.expected? exchange = some number := by
  cases pending with
  | opening opening?_eq block_eq outstanding_eq awaited_eq left_eq =>
    refine ⟨0, ?_, ?_⟩
    · rw [opening?_eq]
      rfl
    · rw [expected?, awaited_eq]
  | block index_lt block_eq offers =>
    obtain ⟨supply, awaited, -⟩ := offers.awaited_eq
    refine ⟨_, numbers_block index_lt, ?_⟩
    rw [expected?, awaited, ← block_eq]

theorem Pending.lt (pending : Pending session opening? content current exchange left count) :
    count < (session.schedule opening? content).length :=
  (List.getElem?_eq_some_iff.mp pending.outstanding).1

/-- The peer may be another one, and the time a later one. -/
theorem Pending.keep (pending : Pending session opening? content current exchange left count)
    {served : Session} (task : served.SameTask current) (attempts deadline : Nat) :
    Pending session opening? content served { exchange with attempts, deadline } left count := by
  cases pending with
  | opening opening?_eq block_eq outstanding_eq awaited_eq left_eq =>
    exact .opening opening?_eq (task.block_eq.trans block_eq) outstanding_eq awaited_eq left_eq
  | block index_lt block_eq offers =>
    refine .block index_lt (task.block_eq.trans block_eq) ⟨?_, offers.summary_eq, offers.awaited_eq⟩
    rw [task.block_eq]
    exact offers.outstanding_eq

theorem Conveys.of_prefix {packet : Bytes} {packets others : List Bytes} (h : packets <+: [packet])
    (conveys : Conveys (others ++ packets) talk) :
    Conveys others talk ∨ Conveys (others ++ [packet]) talk := by
  cases packets with
  | nil =>
    rw [List.append_nil] at conveys
    exact .inl conveys
  | cons first rest =>
    obtain ⟨rfl, hrest⟩ := List.cons_prefix_cons.mp h
    obtain rfl := List.prefix_nil.mp hrest
    exact .inr conveys

/-- Where a session stands that was to send a block. -/
theorem Submits.stands
    (submits : Submits current (session.mode.wire content) index left said progress)
    (mode_eq : current.mode = session.mode)
    (index_lt : index < blockCount (session.mode.wire content))
    (block_eq : current.block = session.block + UInt16.ofNat index)
    (conveys : Conveys ((session.schedule opening? content).take (opening?.toList.length + index))
      talk) :
    Stands session opening? content (talk ++ said) left (opening?.toList.length + index)
      progress := by
  have htake : (session.schedule opening? content).take (opening?.toList.length + index + 1) =
      (session.schedule opening? content).take (opening?.toList.length + index) ++
        [Packet.encodeData current.block (chunk (session.mode.wire content) index)] := by
    rw [List.take_add_one, schedule_block index_lt, block_eq]
    rfl
  cases submits with
  | failed packets sent conveys' =>
    have count_lt : opening?.toList.length + index <
        (session.schedule opening? content).length := by
      rw [length_schedule]
      omega
    rcases Conveys.of_prefix sent (conveys.append conveys') with hnone | hsent
    · exact .failed (Nat.le_succ _) count_lt hnone
    · rw [← htake] at hsent
      exact .failed (Nat.le_refl _) count_lt hsent
  | waiting conveys' offers =>
    refine .waiting mode_eq ?_ (.block index_lt block_eq offers)
    rw [htake]
    exact conveys.append conveys'

/-- The awaited acknowledgment is followed by the next block, or it was the last one. -/
theorem Pending.proceeds (pending : Pending session opening? content current exchange bytes count)
    {served : Session} (task : served.SameTask current) (mode_eq : current.mode = session.mode)
    (leads : (served.proceed exchange now).Leads said progress) (reads : Reads bytes said left) :
    (∃ next index, next.mode = session.mode ∧ index < blockCount (session.mode.wire content) ∧
      next.block = session.block + UInt16.ofNat index ∧
      count + 1 = opening?.toList.length + index ∧
      Submits next (session.mode.wire content) index left said progress) ∨
    said = [] ∧ count + 1 = (session.schedule opening? content).length ∧
      ∃ last, progress = .ended last (.ok ⟨blockCount (session.mode.wire content),
        (session.mode.wire content).length⟩) := by
  have hmode : served.mode = session.mode := task.mode_eq.trans mode_eq
  unfold proceed at leads
  cases pending with
  | opening opening?_eq block_eq outstanding_eq awaited_eq left_eq =>
    rw [awaited_eq] at leads
    subst left_eq
    have submits : Submits { served with stage := .transferring } (session.mode.wire bytes) 0 left
        said progress := by
      rw [← hmode]
      exact submits_of_beginSending reads leads
    refine .inl ⟨{ served with stage := .transferring }, 0, hmode, Nat.succ_pos _, ?_, ?_, submits⟩
    · exact (task.block_eq.trans block_eq).trans (UInt16.add_zero _).symm
    · rw [opening?_eq]
      rfl
  | @block index index_lt block_eq offers =>
    obtain ⟨supply, awaited, leaves⟩ := offers.awaited_eq
    rw [awaited] at leads
    dsimp only at leads
    unfold advance at leads
    rw [offers.summary_eq] at leads
    split at leads
    · next hshort =>
      have hlast : index + 1 = blockCount (session.mode.wire content) := by
        have := length_chunk_lt_iff.mp hshort
        omega
      obtain ⟨rfl, rfl⟩ := leads_complete_iff.mp leads
      refine .inr ⟨rfl, ?_, { served with stage := .completed }, ?_⟩
      · rw [length_schedule]
        omega
      · rw [Summary.add, length_before_last hlast, hlast]
    · next hfull =>
      have hlength : (chunk (session.mode.wire content) index).length = blockSize :=
        Nat.le_antisymm (length_chunk_le _ _) (Nat.le_of_not_lt hfull)
      have hmore : index + 1 < blockCount (session.mode.wire content) := by
        have := mt length_chunk_lt_iff.mpr hfull
        omega
      rw [hlength] at leads
      have hsummary : (⟨index, blockSize * index⟩ : Summary).add blockSize =
          ⟨index + 1, blockSize * (index + 1)⟩ := by
        rw [Summary.add, Nat.mul_succ]
      rw [hsummary] at leads
      refine .inl ⟨{ served with block := served.block + 1 }, index + 1, hmode, hmore, ?_,
        (Nat.add_assoc _ _ _), submits_of_sendBlock leaves reads leads⟩
      change served.block + 1 = _
      rw [task.block_eq, block_eq, BlockNumber.add_ofNat_succ]

/-- A quiet talk asks nothing of the source. -/
theorem Reads.eq_of_quiet (reads : Reads bytes talk left) (quiet : Quiet talk) : left = bytes := by
  induction reads with
  | silent bytes => rfl
  | sent destination packet answer rest ih =>
    exact ih fun said hmem ↦ quiet said (List.mem_cons_of_mem _ hmem)
  | written _ _ _ _ | flushed _ _ _ | filled _ _ _ | drained _ _ _ =>
    obtain ⟨_, _, hsend, -⟩ := quiet _ List.mem_cons_self
    cases hsend

/-- A packet that is repeated is the latest one that was sent. -/
theorem Pending.conveys_again
    (pending : Pending session opening? content current exchange bytes count)
    (conveys : Conveys ((session.schedule opening? content).take (count + 1)) talk)
    (destination : SocketAddress) (answer : Except SystemError Unit) :
    Conveys ((session.schedule opening? content).take (count + 1))
      (talk ++ [⟨.send destination exchange.outstanding, answer⟩]) := by
  have htake : (session.schedule opening? content).take (count + 1) =
      (session.schedule opening? content).take count ++ [exchange.outstanding] := by
    rw [List.take_add_one, pending.outstanding]
    rfl
  rw [htake] at conveys ⊢
  exact conveys.again destination answer

/-- Where a session stands after a reaction. -/
theorem Stands.react (stands : Stands session opening? content talk bytes count
      (.waiting current exchange))
    (leads : (current.react exchange event now).Leads said progress)
    (reads : Reads bytes said left) :
    Stands session opening? content (talk ++ said) left
      (count + (current.acknowledgment? exchange event).toList.length) progress := by
  cases stands with
  | waiting mode_eq conveys pending =>
    obtain ⟨number, -, expected⟩ := pending.expected
    have quietly (quiet : Quiet said) :
        Conveys ((session.schedule opening? content).take (count + 1)) (talk ++ said) := by
      have h := conveys.append quiet.conveys
      rwa [List.append_nil] at h
    cases pursues_of_leads expected leads with
    | passed task overlooked quiet =>
      rw [overlooked, reads.eq_of_quiet quiet]
      exact .waiting (task.mode_eq.trans mode_eq) (quietly quiet) (pending.keep task _ _)
    | failed overlooked fails =>
      obtain ⟨quiet, last, error, rfl⟩ := fails
      rw [overlooked]
      exact .failed (Nat.le_refl _) pending.lt (quietly quiet)
    | repeated expired resends =>
      subst expired
      rcases leads_sendToPeer_iff.mp resends with ⟨_, rfl, hawait⟩ | ⟨error, rfl, rfl⟩
      · obtain ⟨rfl, rfl⟩ := leads_await_iff.mp hawait
        have hleft : left = bytes := by
          cases reads with
          | sent _ _ _ rest => cases rest; rfl
        rw [hleft]
        exact .waiting mode_eq (pending.conveys_again conveys _ _) (pending.keep ⟨rfl, rfl⟩ _ _)
      · exact .failed (Nat.le_refl _) pending.lt (pending.conveys_again conveys _ _)
    | acknowledged task taken proceeds =>
      rw [taken]
      change Stands _ _ _ _ _ (count + 1) _
      rcases pending.proceeds task mode_eq proceeds reads with
        ⟨next, index, hmode, hlt, hblock, hcount, submits⟩ | ⟨rfl, hcount, last, rfl⟩
      · rw [hcount] at conveys ⊢
        exact submits.stands hmode hlt hblock conveys
      · rw [hcount, List.take_length] at conveys
        refine .completed hcount ?_ rfl
        rw [List.append_nil]
        exact conveys

variable {first : Talk} {record earlier later : List Reaction} {reaction : Reaction}

/-- Where a session stands that has just begun to send. -/
theorem stands_of_send (leads : (session.send opening? now).Leads talk progress)
    (reads : Reads content talk left) :
    Stands session opening? content talk left 0 progress := by
  cases opening? with
  | none =>
    have submits := submits_of_beginSending reads leads
    have conveys : Conveys ((session.schedule none content).take 0) [] := .begun
    have stands : Stands session none content ([] ++ talk) left 0 progress :=
      submits.stands rfl (Nat.succ_pos _) (UInt16.add_zero _).symm conveys
    exact stands
  | some request =>
    have conveys (answer : Except SystemError Unit) :
        Conveys ((session.schedule (some request) content).take 1)
          [⟨.send session.peer request, answer⟩] :=
      Conveys.begun.first _ _ answer
    rcases leads_sendToPeer_iff.mp leads with ⟨_, rfl, hawait⟩ | ⟨error, rfl, rfl⟩
    · obtain ⟨rfl, rfl⟩ := leads_await_iff.mp hawait
      have hleft : left = content := by
        cases reads with
        | sent _ _ _ rest => cases rest; rfl
      exact .waiting rfl (conveys _) (.opening rfl rfl rfl rfl hleft)
    · exact .failed (Nat.le_refl _) (Nat.succ_pos _) (conveys _)

/-- Where a session stands that began to send. -/
theorem Runs.stands (run : Runs (session.send opening? now) first record progress)
    (reads : Reads content (saying first record) left) :
    Stands session opening? content (saying first record) left (acknowledgments record).length
      progress := by
  induction run generalizing left with
  | begun leads =>
    rw [saying, List.flatMap_nil, List.append_nil] at reads ⊢
    exact stands_of_send leads reads
  | reacted run event now leads ih =>
    rw [saying_snoc] at reads ⊢
    obtain ⟨between, hbefore, hsaid⟩ := Reads.append.mp reads
    rw [acknowledgments_snoc, List.length_append]
    exact (ih hbefore).react leads hsaid

/-- The packets were acknowledged in the order of the schedule. -/
theorem Runs.acknowledged (run : Runs (session.send opening? now) first record progress)
    (reads : Reads content (saying first record) left) :
    acknowledgments record <+: session.numbers opening? content := by
  induction run generalizing left with
  | begun leads => exact List.nil_prefix
  | reacted run event now leads ih =>
    rw [saying_snoc] at reads
    obtain ⟨between, hbefore, -⟩ := Reads.append.mp reads
    rw [acknowledgments_snoc]
    have hprefix := ih hbefore
    cases run.stands hbefore with
    | waiting mode_eq conveys pending =>
      obtain ⟨number, hnumber, expected⟩ := pending.expected
      cases htaken : Reaction.acknowledgment? ⟨_, _, event, now, _, _⟩ with
      | none =>
        rw [Option.toList_none, List.append_nil]
        exact hprefix
      | some number' =>
        obtain ⟨_, _, _, -, -, expected'⟩ := acknowledgment?_eq_some_iff.mp htaken
        cases expected.symm.trans expected'
        obtain ⟨hlt, rfl⟩ := List.getElem?_eq_some_iff.mp hnumber
        exact List.concat_get_prefix hprefix hlt

/-- What leaves in a reaction. -/
theorem Stands.sends (stands : Stands session opening? content talk bytes count
      (.waiting current exchange))
    (leads : (current.react exchange event now).Leads said progress)
    (reads : Reads bytes said left) {destination : SocketAddress} {packet : Bytes}
    {answer : Except SystemError Unit}
    (hmem : (⟨.send destination packet, answer⟩ : Sigma Answer) ∈ said) :
    IsNotice packet ∨
      (event = .expiry ∧ packet = exchange.outstanding ∧
        (session.schedule opening? content)[count]? = some packet) ∨
      ∃ number, current.acknowledgment? exchange event = some number ∧
        (session.numbers opening? content)[count]? = some number ∧
        (session.schedule opening? content)[count + 1]? = some packet := by
  cases stands with
  | waiting mode_eq conveys pending =>
    obtain ⟨number, hnumber, expected⟩ := pending.expected
    cases pursues_of_leads expected leads with
    | passed task overlooked quiet => exact (quiet.conveys.mem hmem).imp_right nofun
    | failed overlooked fails => exact (fails.1.conveys.mem hmem).imp_right nofun
    | repeated expired resends =>
      have hpacket : packet = exchange.outstanding := by
        rcases leads_sendToPeer_iff.mp resends with ⟨_, rfl, hawait⟩ | ⟨error, rfl, rfl⟩
        · obtain ⟨rfl, rfl⟩ := leads_await_iff.mp hawait
          cases List.mem_singleton.mp hmem
          rfl
        · cases List.mem_singleton.mp hmem
          rfl
      subst hpacket
      exact .inr (.inl ⟨expired, rfl, pending.outstanding⟩)
    | acknowledged task taken proceeds =>
      obtain ⟨_, _, _, -, -, expected'⟩ := acknowledgment?_eq_some_iff.mp taken
      cases expected.symm.trans expected'
      rcases pending.proceeds task mode_eq proceeds reads with
        ⟨next, index, hmode, hlt, hblock, hcount, submits⟩ | ⟨rfl, hcount, last, rfl⟩
      · have hpacket : IsNotice packet ∨
            packet = Packet.encodeData next.block (chunk (session.mode.wire content) index) := by
          cases submits with
          | failed packets sent conveys' =>
            exact (conveys'.mem hmem).imp_right fun h ↦ List.mem_singleton.mp (sent.subset h)
          | waiting conveys' offers => exact (conveys'.mem hmem).imp_right List.mem_singleton.mp
        refine hpacket.imp_right fun h ↦ .inr ⟨number, taken, hnumber, ?_⟩
        rw [hcount, schedule_block hlt, h, hblock]
      · exact absurd hmem List.not_mem_nil

/-- A session completes with the acknowledgment of the short block. -/
theorem Stands.completes_iff
    (stands : Stands session opening? content talk left count progress)
    (hcount : count ≤ (session.schedule opening? content).length) :
    (∃ last summary, progress = .ended last (.ok summary)) ↔
      ∃ index, (chunk (session.mode.wire content) index).length < blockSize ∧
        opening?.toList.length + index < count := by
  have hshort : (∃ index, (chunk (session.mode.wire content) index).length < blockSize ∧
      opening?.toList.length + index < count) ↔
        count = (session.schedule opening? content).length := by
    rw [length_schedule] at hcount ⊢
    constructor
    · rintro ⟨index, hlast, hlt⟩
      have := length_chunk_lt_iff.mp hlast
      omega
    · rintro rfl
      refine ⟨blockCount (session.mode.wire content) - 1, length_chunk_lt_iff.mpr ?_, ?_⟩
      · omega
      · have : 0 < blockCount (session.mode.wire content) := Nat.succ_pos _
        omega
  rw [hshort]
  cases stands with
  | waiting mode_eq conveys pending =>
    constructor
    · rintro ⟨_, _, ⟨⟩⟩
    · intro h
      exact absurd pending.lt (by omega)
  | completed count_eq conveys summary_eq => exact ⟨fun _ ↦ count_eq, fun _ ↦ ⟨_, _, rfl⟩⟩
  | failed sent_le count_lt conveys =>
    constructor
    · rintro ⟨_, _, ⟨⟩⟩
    · intro h
      exact absurd count_lt (by omega)

/-- No further packet has left than the one behind those that are acknowledged. -/
theorem Stands.conveyed (stands : Stands session opening? content talk left count progress) :
    ∃ sent ≤ count + 1, Conveys ((session.schedule opening? content).take sent) talk := by
  cases stands with
  | waiting mode_eq conveys pending => exact ⟨_, Nat.le_refl _, conveys⟩
  | completed count_eq conveys summary_eq =>
    refine ⟨count, Nat.le_succ _, ?_⟩
    rw [count_eq, List.take_length]
    exact conveys
  | failed sent_le count_lt conveys => exact ⟨_, sent_le, conveys⟩

/-- Whatever arrives, and however the source cuts its bytes, a session delivers like this. -/
theorem delivered_of_runs (run : Runs (session.send opening? now) first record progress)
    (reads : Reads content (saying first record) left) :
    Delivered session opening? content first record progress := by
  have stands := run.stands reads
  have acknowledged := run.acknowledged reads
  have hcount : (acknowledgments record).length ≤ (session.schedule opening? content).length := by
    rw [length_schedule, ← length_numbers]
    exact acknowledged.length_le
  exact {
    conveyed := stands.conveyed
    waiting := by
      rintro current exchange rfl
      cases stands with
      | waiting mode_eq conveys pending => exact ⟨pending.outstanding, conveys⟩
    acknowledged := acknowledged
    sends := by
      rintro earlier later reaction rfl destination packet answer hmem
      obtain ⟨reached, leads⟩ := run.split
      have hsaying : saying first (earlier ++ reaction :: later) =
          saying first earlier ++ (reaction.talk ++ later.flatMap Reaction.talk) := by
        unfold saying
        rw [List.flatMap_append, List.flatMap_cons, List.append_assoc]
      rw [hsaying] at reads
      obtain ⟨between, hbefore, hrest⟩ := Reads.append.mp reads
      obtain ⟨_, hsaid, -⟩ := Reads.append.mp hrest
      exact (reached.stands hbefore).sends leads hsaid hmem
    opened := by
      rintro request rfl hnone destination packet answer hmem
      obtain ⟨sent, hsent, conveys⟩ := stands.conveyed
      refine (conveys.mem hmem).imp_right ?_
      intro hpacket
      rw [hnone] at hsent
      exact List.mem_singleton.mp ((List.take_subset_take_left _ hsent) hpacket)
    completes_iff := stands.completes_iff hcount
    completed := by
      rintro last summary rfl
      cases stands with
      | completed count_eq conveys summary_eq =>
        refine ⟨conveys, acknowledged.eq_of_length ?_, summary_eq⟩
        rw [count_eq, length_numbers, length_schedule] }

/-! ## One delivery -/

/-- A session that sends to a peer on the same host. -/
def localSender : Session :=
  Session.accepted ⟨.localhost .four, 1069, 0⟩ .octet {}

/-- A source that yields a full block and two more bytes, no more than 48 at once. -/
def localSource : Source :=
  { data := ⟨(List.replicate blockSize 97 ++ [104, 105] : Bytes).toArray⟩, piece := some 48 }

/-- The first block is acknowledged only after a timeout, and then twice. -/
def localIncidents : List Incident :=
  [{ event := .expiry, now := 1500 },
    { event := .arrival localSender.peer (Packet.encodeAck 1), now := 2000 },
    { event := .arrival localSender.peer (Packet.encodeAck 1), now := 2100 },
    { event := .arrival localSender.peer (Packet.encodeAck 2), now := 3000 }]

/-- The session sends what the source yields. -/
def localDelivery : Chronicle :=
  .lead ⟨.localhost .four, 2069, 0⟩ (localSender.send none 0) (.source localSource) {}
    localIncidents

theorem delivered_two_blocks :
    Runs (localSender.send none 0) localDelivery.first localDelivery.record
        localDelivery.progress ∧
      Reads localSource.rest (saying localDelivery.first localDelivery.record)
        (localDelivery.stream.left []) ∧
      (acknowledgments localDelivery.record = [1, 2] ∧
        localDelivery.record.map (·.talk.length) = [1, 2, 0, 0] ∧
        localDelivery.progress.session.stage = .completed) ∧
      Delivered localSender none localSource.rest localDelivery.first localDelivery.record
        localDelivery.progress := by
  have run : Runs (localSender.send none 0) localDelivery.first localDelivery.record
      localDelivery.progress := Chronicle.runs_lead _ _ _ _ _
  have shows (files : FileSystem) : (Stream.source localSource).Shows files [] :=
    .source (by decide)
  have reads : Reads localSource.rest (saying localDelivery.first localDelivery.record)
      (localDelivery.stream.left []) :=
    Chronicle.reads_lead _ _ (shows _) fun incident _ ↦ shows incident.machine.files
  exact ⟨run, reads, by decide +kernel, delivered_of_runs run reads⟩

end

end Session

end Lockstep
