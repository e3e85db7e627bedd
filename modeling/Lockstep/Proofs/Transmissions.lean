import Lockstep.Proofs.Stages
import Mathlib.Order.Interval.Finset.Nat

/-!
# Transmissions

Whatever happens, a session sends one datagram at most about it. So duplicates do not multiply: a
sender says nothing about an acknowledgment that it has had before, if it is still recognised as an
old one, and a block leaves once when it is its turn and once more for every timeout of the wait for
its acknowledgment.
-/

namespace Lockstep.Session

/-! ## What is sent -/

/-- What is sent in the talk. -/
def datagrams (talk : Talk) : List Bytes :=
  talk.filterMap fun
    | ⟨.send _ packet, _⟩ => some packet
    | _ => none

/-- The blocks among that. -/
def blocks (talk : Talk) : List Bytes :=
  (datagrams talk).filter fun packet ↦ Packet.leadingOpcode? packet = some .data

/-- The place of the packet that a session sends first in the order of its blocks. -/
def firstPlace (opening? : Option Bytes) : Nat :=
  if opening?.isSome then 0 else 1

/-- The blocks that are sent in the reactions, each with its place. The place is `place` at first,
and is the next one with each acknowledgment. -/
def placed (place : Nat) : List Reaction → List (Nat × Bytes)
  | [] => []
  | reaction :: rest =>
    let place := place + reaction.acknowledgment?.toList.length
    (blocks reaction.talk).map (place, ·) ++ placed place rest

/-- All blocks that were sent, as often as they were, each with its place. -/
def transmissions (opening? : Option Bytes) (first : Talk) (record : List Reaction) :
    List (Nat × Bytes) :=
  (blocks first).map (firstPlace opening?, ·) ++ placed (firstPlace opening?) record

/-- A timeout of a wait for the acknowledgment of a block that was not the last one for the
session. -/
def Reaction.isRepetition (reaction : Reaction) : Bool :=
  match reaction.event, reaction.exchange.awaited, reaction.progress with
  | .expiry, .ack _ _, .ended _ (.error (.timeout _)) => false
  | .expiry, .ack _ _, _ => true
  | _, _, _ => false

/-- What a session sends that began with that opening and has such a history. -/
structure Restrained (opening? : Option Bytes) (first : Talk) (record : List Reaction) : Prop where
  /-- At first and about each event it sends one datagram at most. -/
  first_le : (datagrams first).length ≤ 1
  each_le : ∀ reaction ∈ record, (datagrams reaction.talk).length ≤ 1
  /-- Nothing is said about an acknowledgment that is behind the awaited one. -/
  stale : ∀ reaction ∈ record, ∀ {source : SocketAddress} {datagram : Bytes}
    {number expected : BlockNumber}, reaction.event = .arrival source datagram →
      ¬ reaction.session.IsStranger source → Packet.decode datagram = .ok (.ack number) →
      reaction.session.expected? reaction.exchange = some expected → number.isStale expected →
        reaction.talk = []
  /-- Nothing is said about one that there was before, unless that was half of all numbers ago. -/
  duplicate : ∀ {earlier later : List Reaction} {reaction : Reaction},
    record = earlier ++ reaction :: later → ∀ {source : SocketAddress} {datagram : Bytes}
      {index : Nat} {number : BlockNumber}, reaction.event = .arrival source datagram →
        ¬ reaction.session.IsStranger source → Packet.decode datagram = .ok (.ack number) →
        (acknowledgments earlier)[index]? = some number →
        (acknowledgments earlier).length < index + 32768 → reaction.talk = []
  /-- Transmissions with the same place are transmissions of the same block, which is the one of
  that number. -/
  numbered : ∀ place packet, (place, packet) ∈ transmissions opening? first record →
    ∃ payload, packet = Packet.encodeData (UInt16.ofNat place) payload
  same : ∀ place packet packet', (place, packet) ∈ transmissions opening? first record →
    (place, packet') ∈ transmissions opening? first record → packet = packet'
  /-- There are as many as there are blocks that were sent, and timeouts that did not end the
  session while it waited for the acknowledgment of one. -/
  counted : (transmissions opening? first record).length =
    ((transmissions opening? first record).map Prod.fst).toFinset.card +
      record.countP Reaction.isRepetition

variable {opening? : Option Bytes} {session : Session} {exchange : Exchange} {event : Event}
  {now : Nat} {talk : Talk} {progress : Progress} {sound : Progress → Prop}

/-! ## One datagram -/

theorem datagrams_cons_of_use {said : Sigma Answer} {use : SystemError.Use}
    (used : said.1.use? = some use) (talk : Talk) : datagrams (said :: talk) = datagrams talk := by
  obtain ⟨question, answer⟩ := said
  cases question with
  | send destination packet => cases used
  | _ => rfl

/-- Whatever a turn comes to, one datagram is sent at most. -/
theorem Outcome.datagrams_le (h : Outcome opening? session sound talk progress) :
    (datagrams talk).length ≤ 1 := by
  induction h with
  | rests h => exact Nat.zero_le _
  | sends work h => exact Nat.le_refl _
  | fails same stage_eq words =>
    cases words with
    | timeout attempts | dismissed notice | tripped error => exact Nat.zero_le _
    | unsent work error | rejected reason answer => exact Nat.le_refl _
    | abandoned failed used reply =>
      rw [datagrams_cons_of_use used]
      exact Nat.le_refl _
  | uses used succeeded rest ih =>
    rw [datagrams_cons_of_use used]
    exact ih

theorem Awaits.datagrams_le (awaits : Awaits opening? session exchange)
    (leads : (session.react exchange event now).Leads talk progress) :
    (datagrams talk).length ≤ 1 := by
  cases reacts_of_leads awaits leads with
  | disowned stranger answer => exact Nat.le_refl _
  | kept serves outcome => exact outcome.datagrams_le
  | moved serves obtains outcome => exact outcome.datagrams_le

/-! ## Blocks and other packets -/

theorem leadingOpcode?_encodeAck (block : BlockNumber) :
    Packet.leadingOpcode? (Packet.encodeAck block) = some .acknowledgment :=
  rfl

theorem leadingOpcode?_encodeError (code : UInt16) (message : String) :
    Packet.leadingOpcode? (Packet.encodeError code message) = some .error :=
  rfl

theorem blocks_of_ne {destination : SocketAddress} {packet : Bytes}
    (other : Packet.leadingOpcode? packet ≠ some .data) (answer : Except SystemError Unit) :
    blocks [⟨.send destination packet, answer⟩] = [] :=
  List.filter_cons_of_neg (by simpa using other)

theorem blocks_of_eq {destination : SocketAddress} {packet : Bytes}
    (block : Packet.leadingOpcode? packet = some .data) (answer : Except SystemError Unit) :
    blocks [⟨.send destination packet, answer⟩] = [packet] :=
  List.filter_cons_of_pos (by simpa using block)

theorem blocks_cons_of_use {said : Sigma Answer} {use : SystemError.Use}
    (used : said.1.use? = some use) (talk : Talk) : blocks (said :: talk) = blocks talk := by
  rw [blocks, datagrams_cons_of_use used]
  rfl

/-- What becomes of a block that is to be sent: the blocks that leave, and what the session has
come to. -/
inductive Transmits (session : Session) : List Bytes → Progress → Prop
  | unread (last : Session) (error : TransferError) :
    Transmits session [] (.ended last (.error error))
  | unsent (payload : Bytes) (last : Session) (error : TransferError) :
    Transmits session [Packet.encodeData session.block payload] (.ended last (.error error))
  | sent (payload : Bytes) {exchange : Exchange} {length : Nat} {supply : Supply}
      (outstanding_eq : exchange.outstanding = Packet.encodeData session.block payload)
      (awaited_eq : exchange.awaited = .ack length supply) :
    Transmits session [Packet.encodeData session.block payload] (.waiting session exchange)

theorem transmits_of_sendPayload {payload : Bytes} {supply : Supply} {summary : Summary}
    (leads : (session.sendPayload payload supply summary now).Leads talk progress) :
    Transmits session (blocks talk) progress := by
  rcases leads_sendToPeer_iff.mp leads with ⟨_, rfl, hawait⟩ | ⟨error, rfl, rfl⟩
  · obtain ⟨rfl, rfl⟩ := leads_await_iff.mp hawait
    exact .sent payload rfl rfl
  · exact .unsent payload _ _

theorem transmits_of_sendBlock {supply : Supply} {summary : Summary}
    (leads : (session.sendBlock supply summary now).Leads talk progress) :
    Transmits session (blocks talk) progress := by
  cases supply with
  | text rest => exact transmits_of_sendPayload leads
  | stream =>
    obtain ⟨answer, rest, rfl, hanswer⟩ := Dialogue.leads_ask_iff.mp leads
    cases answer with
    | ok payload =>
      rw [blocks_cons_of_use rfl]
      exact transmits_of_sendPayload hanswer
    | error error =>
      obtain ⟨⟨reply, rfl⟩, rfl⟩ := leads_abandon_iff.mp hanswer
      exact .unread _ _

theorem transmits_of_beginSending (leads : (session.beginSending now).Leads talk progress) :
    Transmits { session with stage := .transferring } (blocks talk) progress := by
  unfold beginSending at leads
  dsimp only at leads
  split at leads
  · exact transmits_of_sendBlock leads
  · obtain ⟨answer, rest, rfl, hanswer⟩ := Dialogue.leads_ask_iff.mp leads
    cases answer with
    | ok raw =>
      rw [blocks_cons_of_use rfl]
      exact transmits_of_sendBlock hanswer
    | error error =>
      obtain ⟨⟨reply, rfl⟩, rfl⟩ := leads_abandon_iff.mp hanswer
      exact .unread _ _

theorem mem_posts_of_mem_datagrams {packet : Bytes} (taken : Bytes)
    (hmem : packet ∈ datagrams talk) : ∃ taken', (taken', packet) ∈ posts taken talk := by
  induction talk generalizing taken with
  | nil => exact absurd hmem List.not_mem_nil
  | cons said rest ih =>
    obtain ⟨question, answer⟩ := said
    cases question with
    | send destination sent =>
      rcases List.mem_cons.mp hmem with rfl | hlater
      · exact ⟨taken, List.mem_cons_self⟩
      · obtain ⟨taken', h⟩ := ih taken hlater
        exact ⟨taken', List.mem_cons_of_mem _ h⟩
    | write chunk =>
      cases answer with
      | ok _ => exact ih (taken ++ chunk) hmem
      | error error => exact ih taken hmem
    | _ => exact ih taken hmem

/-- A session that takes a block sends none. -/
theorem Stores.blocks_eq {payload : Bytes} {settled : Bytes × Netascii.Decoder} {summary : Summary}
    (h : Stores session payload settled summary now talk progress) : blocks talk = [] := by
  cases h with
  | full length_eq | last short => rfl
  | failed sends refused =>
    refine List.filter_eq_nil_iff.mpr fun packet hmem ↦ ?_
    obtain ⟨taken, hposts⟩ := mem_posts_of_mem_datagrams [] hmem
    rcases sends _ hposts with ⟨code, message, rfl⟩ | ⟨rfl, -⟩
    · simp [leadingOpcode?_encodeError]
    · simp [leadingOpcode?_encodeAck]

/-! ## Counting -/

/-- In the list stand the blocks up to `sent`, all of them for the first time, and `repetitions`
times one of them again. -/
structure Counted (sent repetitions : Nat) (list : List (Nat × Bytes)) : Prop where
  places : (list.map Prod.fst).toFinset = Finset.Icc 1 sent
  length_eq : list.length = sent + repetitions
  numbered : ∀ place packet, (place, packet) ∈ list →
    ∃ payload, packet = Packet.encodeData (UInt16.ofNat place) payload
  same : ∀ place packet packet', (place, packet) ∈ list → (place, packet') ∈ list → packet = packet'

theorem Counted.nil : Counted 0 0 [] where
  places := rfl
  length_eq := rfl
  numbered := fun _ _ hmem ↦ absurd hmem List.not_mem_nil
  same := fun _ _ _ hmem ↦ absurd hmem List.not_mem_nil

variable {sent repetitions place : Nat} {list : List (Nat × Bytes)} {packet : Bytes}

theorem Counted.place_le (h : Counted sent repetitions list) (hmem : (place, packet) ∈ list) :
    place ≤ sent := by
  have hplace : place ∈ (list.map Prod.fst).toFinset :=
    List.mem_toFinset.mpr (List.mem_map.mpr ⟨_, hmem, rfl⟩)
  rw [h.places] at hplace
  exact (Finset.mem_Icc.mp hplace).2

/-- The next block. -/
theorem Counted.first (h : Counted sent repetitions list) (payload : Bytes) :
    Counted (sent + 1) repetitions
      (list ++ [(sent + 1, Packet.encodeData (UInt16.ofNat (sent + 1)) payload)]) where
  places := by
    rw [List.map_append, List.toFinset_append, h.places]
    ext place
    simp only [List.map_cons, List.map_nil, List.toFinset_cons, List.toFinset_nil,
      Finset.mem_union, Finset.mem_Icc, Finset.mem_insert, Finset.notMem_empty, or_false]
    omega
  length_eq := by
    rw [List.length_append, h.length_eq, List.length_singleton]
    omega
  numbered := by
    intro place packet hmem
    rcases List.mem_append.mp hmem with hearlier | hnow
    · exact h.numbered place packet hearlier
    · cases List.mem_singleton.mp hnow
      exact ⟨payload, rfl⟩
  same := by
    intro place packet packet' hmem hmem'
    rcases List.mem_append.mp hmem with hearlier | hnow <;>
      rcases List.mem_append.mp hmem' with hearlier' | hnow'
    · exact h.same place packet packet' hearlier hearlier'
    · cases List.mem_singleton.mp hnow'
      exact absurd (h.place_le hearlier) (by omega)
    · cases List.mem_singleton.mp hnow
      exact absurd (h.place_le hearlier') (by omega)
    · cases List.mem_singleton.mp hnow
      cases List.mem_singleton.mp hnow'
      rfl

/-- A block that was sent before. -/
theorem Counted.again (h : Counted sent repetitions list) (hmem : (place, packet) ∈ list) :
    Counted sent (repetitions + 1) (list ++ [(place, packet)]) where
  places := by
    have hplace : place ∈ (list.map Prod.fst).toFinset :=
      List.mem_toFinset.mpr (List.mem_map.mpr ⟨_, hmem, rfl⟩)
    rw [List.map_append, List.toFinset_append, ← h.places]
    simpa using hplace
  length_eq := by
    rw [List.length_append, h.length_eq, List.length_singleton, Nat.add_assoc]
  numbered := by
    intro place' packet' hmem'
    rcases List.mem_append.mp hmem' with hearlier | hnow
    · exact h.numbered place' packet' hearlier
    · cases List.mem_singleton.mp hnow
      exact h.numbered place packet hmem
  same := by
    have hsubset : ∀ entry ∈ list ++ [(place, packet)], entry ∈ list := by
      intro entry hentry
      rcases List.mem_append.mp hentry with hearlier | hnow
      · exact hearlier
      · exact List.mem_singleton.mp hnow ▸ hmem
    exact fun place' packet' packet'' hfirst hsecond ↦
      h.same place' packet' packet'' (hsubset _ hfirst) (hsubset _ hsecond)

/-- The acknowledgments are those of one packet after the other. -/
def InOrder (opening? : Option Bytes) (acks : List BlockNumber) : Prop :=
  ∀ index number, acks[index]? = some number → number = UInt16.ofNat (firstPlace opening? + index)

theorem inOrder_nil : InOrder opening? [] :=
  fun _ _ hnumber ↦ nomatch hnumber

theorem InOrder.snoc {acks : List BlockNumber} {number : BlockNumber} (h : InOrder opening? acks)
    (number_eq : number = UInt16.ofNat (firstPlace opening? + acks.length)) :
    InOrder opening? (acks ++ [number]) := by
  intro index other hother
  rcases Nat.lt_or_ge index acks.length with hlt | hge
  · exact h index other ((List.getElem?_append_left hlt).symm.trans hother)
  · have hlength := (List.getElem?_eq_some_iff.mp hother).1
    rw [List.length_append, List.length_singleton] at hlength
    obtain rfl : index = acks.length := by omega
    rw [List.getElem?_concat_length] at hother
    cases hother
    exact number_eq

/-- What a session has come to that has had such acknowledgments and has sent such blocks, of which
`repetitions` were repeated. -/
inductive Tallies (opening? : Option Bytes) :
    List BlockNumber → Nat → List (Nat × Bytes) → Progress → Prop
  | opening {current : Session} {exchange : Exchange} (opened : opening?.isSome)
      (unlike : Packet.leadingOpcode? exchange.outstanding ≠ some .data)
      (awaited_eq : exchange.awaited = .acceptance) (block_eq : current.block = 1) :
    Tallies opening? [] 0 [] (.waiting current exchange)
  | receiving {current : Session} {exchange : Exchange} {decoder : Netascii.Decoder}
      (unlike : Packet.leadingOpcode? exchange.outstanding ≠ some .data)
      (awaited_eq : exchange.awaited = .data decoder) :
    Tallies opening? [] 0 [] (.waiting current exchange)
  | block {acks : List BlockNumber} {repetitions length : Nat} {list : List (Nat × Bytes)}
      {current : Session} {exchange : Exchange} {supply : Supply}
      (awaited_eq : exchange.awaited = .ack length supply)
      (block_eq : current.block = UInt16.ofNat (firstPlace opening? + acks.length))
      (numbers : InOrder opening? acks)
      (counted : Counted (firstPlace opening? + acks.length) repetitions list)
      (latest : (firstPlace opening? + acks.length, exchange.outstanding) ∈ list) :
    Tallies opening? acks repetitions list (.waiting current exchange)
  | ended {acks : List BlockNumber} {sent repetitions : Nat} {list : List (Nat × Bytes)}
      {last : Session} {result : Except TransferError Summary}
      (counted : Counted sent repetitions list) :
    Tallies opening? acks repetitions list (.ended last result)

namespace Tallies

variable {acks : List BlockNumber} {current served : Session}

theorem counted (h : Tallies opening? acks repetitions list progress) :
    ∃ sent, Counted sent repetitions list := by
  cases h with
  | opening opened unlike awaited_eq block_eq => exact ⟨0, .nil⟩
  | receiving unlike awaited_eq => exact ⟨0, .nil⟩
  | block awaited_eq block_eq numbers counted latest => exact ⟨_, counted⟩
  | ended counted => exact ⟨_, counted⟩

/-- The session waits for the same packet still. -/
theorem keep (h : Tallies opening? acks repetitions list (.waiting current exchange))
    (task : served.SameTask current) (attempts deadline : Nat) :
    Tallies opening? acks repetitions list
      (.waiting served { exchange with attempts, deadline }) := by
  cases h with
  | opening opened unlike awaited_eq block_eq =>
    exact .opening opened unlike awaited_eq (task.block_eq.trans block_eq)
  | receiving unlike awaited_eq => exact .receiving unlike awaited_eq
  | block awaited_eq block_eq numbers counted latest =>
    exact .block awaited_eq (task.block_eq.trans block_eq) numbers counted latest

theorem rebound (h : Tallies opening? acks repetitions list (.waiting current exchange))
    (source : SocketAddress) :
    Tallies opening? acks repetitions list (.waiting (current.boundTo source) exchange) :=
  have task : (current.boundTo source).SameTask current := ⟨rfl, rfl⟩
  h.keep task exchange.attempts exchange.deadline

theorem fail (h : Tallies opening? acks repetitions list progress) (more : List BlockNumber)
    (last : Session) (result : Except TransferError Summary) :
    Tallies opening? more repetitions list (.ended last result) := by
  obtain ⟨sent, counted⟩ := h.counted
  exact .ended counted

/-- A session that awaits a block has sent none. -/
theorem of_data (h : Tallies opening? acks repetitions list (.waiting current exchange))
    {decoder : Netascii.Decoder} (awaited : exchange.awaited = .data decoder) :
    Packet.leadingOpcode? exchange.outstanding ≠ some .data ∧
      acks = [] ∧ repetitions = 0 ∧ list = [] := by
  cases h with
  | opening opened unlike awaited_eq block_eq => cases awaited_eq.symm.trans awaited
  | receiving unlike awaited_eq => exact ⟨unlike, rfl, rfl, rfl⟩
  | block awaited_eq block_eq numbers counted latest => cases awaited_eq.symm.trans awaited

end Tallies

/-- What the reactions so far amount to if there is this one as well. -/
def TalliesAfter (opening? : Option Bytes) (acks : List BlockNumber) (repetitions : Nat)
    (list : List (Nat × Bytes)) (reaction : Reaction) : Prop :=
  Tallies opening? (acks ++ reaction.acknowledgment?.toList)
    (repetitions + reaction.isRepetition.toNat)
    (list ++ (blocks reaction.talk).map
      (firstPlace opening? + (acks ++ reaction.acknowledgment?.toList).length, ·))
    reaction.progress

/-- The reaction leaves everything as it was. -/
theorem Tallies.unchanged {acks : List BlockNumber} {reaction : Reaction}
    (h : Tallies opening? acks repetitions list reaction.progress)
    (overlooked : reaction.acknowledgment? = none) (silent : blocks reaction.talk = [])
    (unrepeated : reaction.isRepetition = false) :
    TalliesAfter opening? acks repetitions list reaction := by
  unfold TalliesAfter
  rw [overlooked, silent, unrepeated]
  simpa using h

theorem Tallies.closed {acks : List BlockNumber} {reaction : Reaction}
    (h : Tallies opening? acks repetitions list (.waiting session exchange))
    (ended : ∃ last result, reaction.progress = .ended last result)
    (silent : blocks reaction.talk = []) (unrepeated : reaction.isRepetition = false) :
    TalliesAfter opening? acks repetitions list reaction := by
  obtain ⟨last, result, hprogress⟩ := ended
  unfold TalliesAfter
  rw [hprogress, silent, unrepeated]
  simpa using h.fail (acks ++ reaction.acknowledgment?.toList) last result

/-- The next block. -/
theorem Transmits.tallies {acks : List BlockNumber} {packets : List Bytes}
    (h : Transmits session packets progress) (counted : Counted sent repetitions list)
    (place_eq : firstPlace opening? + acks.length = sent + 1)
    (block_eq : session.block = UInt16.ofNat (firstPlace opening? + acks.length))
    (numbers : InOrder opening? acks) :
    Tallies opening? acks repetitions
      (list ++ packets.map (firstPlace opening? + acks.length, ·)) progress := by
  cases h with
  | unread last error => simpa using .ended counted
  | unsent payload last error =>
    rw [block_eq, place_eq]
    exact .ended (counted.first payload)
  | sent payload outstanding_eq awaited_eq =>
    have latest := counted.first payload
    rw [← place_eq, ← block_eq] at latest
    refine .block awaited_eq block_eq numbers latest ?_
    rw [outstanding_eq]
    exact List.mem_append_right _ (List.mem_singleton_self _)

theorem acknowledgment?_eq_none (missed : ¬ session.Obtains exchange event) :
    session.acknowledgment? exchange event = none := by
  refine Option.eq_none_iff_forall_ne_some.mpr fun number taken ↦ missed ?_
  obtain ⟨_, _, _, _, _, expected⟩ := acknowledgment?_eq_some_iff.mp taken
  exact (obtains_iff_of_expected expected).mpr taken

theorem acknowledgment?_of_data {decoder : Netascii.Decoder}
    (awaited : exchange.awaited = .data decoder) :
    session.acknowledgment? exchange event = none := by
  refine Option.eq_none_iff_forall_ne_some.mpr fun number taken ↦ ?_
  obtain ⟨_, _, _, _, _, expected⟩ := acknowledgment?_eq_some_iff.mp taken
  rw [expected?, awaited] at expected
  cases expected

namespace Tallies

variable {acks : List BlockNumber}

/-- A block that is due is stored, and no block is sent. -/
theorem store {decoder : Netascii.Decoder} {served : Session} {payload : Bytes}
    {settled : Bytes × Netascii.Decoder} {summary : Summary} {source : SocketAddress}
    {datagram : Bytes}
    (h : Tallies opening? acks repetitions list (.waiting session exchange))
    (awaited : exchange.awaited = .data decoder)
    (stores : Stores served payload settled summary now talk progress) :
    TalliesAfter opening? acks repetitions list
      ⟨session, exchange, .arrival source datagram, now, talk, progress⟩ := by
  have silent := stores.blocks_eq
  cases stores with
  | full length_eq =>
    obtain ⟨-, rfl, rfl, rfl⟩ := h.of_data awaited
    refine Tallies.unchanged (.receiving ?_ rfl) (acknowledgment?_of_data awaited) silent rfl
    simp [leadingOpcode?_encodeAck]
  | last short => exact h.closed ⟨_, _, rfl⟩ silent rfl
  | failed sends refused => exact h.closed ⟨_, _, rfl⟩ silent rfl

/-- The request is accepted, and the first block leaves. -/
theorem begin {served : Session} {source : SocketAddress} {datagram : Bytes}
    (h : Tallies opening? acks repetitions list (.waiting session exchange))
    (awaited : exchange.awaited = .acceptance)
    (taken : session.acknowledgment? exchange (.arrival source datagram) = some 0)
    (transmits : Transmits served (blocks talk) progress)
    (block_eq : served.block = session.block) :
    TalliesAfter opening? acks repetitions list
      ⟨session, exchange, .arrival source datagram, now, talk, progress⟩ := by
  unfold TalliesAfter
  rw [Reaction.acknowledgment?, taken, Option.toList_some]
  cases h with
  | opening opened unlike awaited_eq first_eq =>
    have hplace : firstPlace opening? = 0 := if_pos opened
    refine transmits.tallies .nil ?_ ?_ ?_
    · rw [hplace]
      rfl
    · rw [hplace]
      exact block_eq.trans first_eq
    · refine inOrder_nil.snoc ?_
      rw [hplace]
      rfl
  | receiving unlike awaited_eq => cases awaited_eq.symm.trans awaited
  | block awaited_eq block_eq numbers counted latest => cases awaited_eq.symm.trans awaited

/-- The latest block is acknowledged, and the next one leaves. -/
theorem advance {served : Session} {source : SocketAddress} {datagram : Bytes} {length : Nat}
    {supply : Supply} (h : Tallies opening? acks repetitions list (.waiting session exchange))
    (awaited : exchange.awaited = .ack length supply)
    (taken : session.acknowledgment? exchange (.arrival source datagram) = some session.block)
    (transmits : Transmits served (blocks talk) progress)
    (block_eq : served.block = session.block + 1) :
    TalliesAfter opening? acks repetitions list
      ⟨session, exchange, .arrival source datagram, now, talk, progress⟩ := by
  unfold TalliesAfter
  rw [Reaction.acknowledgment?, taken, Option.toList_some]
  cases h with
  | opening opened unlike awaited_eq first_eq => cases awaited_eq.symm.trans awaited
  | receiving unlike awaited_eq => cases awaited_eq.symm.trans awaited
  | block awaited_eq latest_eq numbers counted latest =>
    refine transmits.tallies counted ?_ ?_ (numbers.snoc latest_eq)
    · rw [List.length_append]
      rfl
    · rw [List.length_append, ← Nat.add_assoc, List.length_singleton, BlockNumber.ofNat_succ,
        ← latest_eq]
      exact block_eq

/-- A timeout repeats the latest block, if there is one. -/
theorem retry {attempts deadline : Nat}
    (h : Tallies opening? acks repetitions list (.waiting session exchange))
    (leads : (session.sendToPeer exchange.outstanding
      (session.await { exchange with attempts, deadline })).Leads talk progress) :
    TalliesAfter opening? acks repetitions list
      ⟨session, exchange, .expiry, now, talk, progress⟩ := by
  -- what is repeated while no acknowledgment of a block is awaited is the opening or an
  -- acknowledgment, and does not count
  have others (unlike : Packet.leadingOpcode? exchange.outstanding ≠ some .data)
      (unacked : ∀ length supply, exchange.awaited ≠ .ack length supply) :
      TalliesAfter opening? acks repetitions list
        ⟨session, exchange, .expiry, now, talk, progress⟩ := by
    have unrepeated :
        Reaction.isRepetition ⟨session, exchange, .expiry, now, talk, progress⟩ = false := by
      unfold Reaction.isRepetition
      cases hawaited : exchange.awaited with
      | ack length supply => exact absurd hawaited (unacked length supply)
      | _ => rfl
    rcases leads_sendToPeer_iff.mp leads with ⟨_, rfl, hawait⟩ | ⟨error, rfl, rfl⟩
    · obtain ⟨rfl, rfl⟩ := leads_await_iff.mp hawait
      exact (h.keep ⟨rfl, rfl⟩ attempts deadline).unchanged rfl (blocks_of_ne unlike _) unrepeated
    · exact h.closed ⟨_, _, rfl⟩ (blocks_of_ne unlike _) unrepeated
  cases h with
  | opening opened unlike awaited_eq block_eq =>
    exact others unlike fun _ _ awaited ↦ nomatch awaited_eq.symm.trans awaited
  | receiving unlike awaited_eq =>
    exact others unlike fun _ _ awaited ↦ nomatch awaited_eq.symm.trans awaited
  | block awaited_eq block_eq numbers counted latest =>
    obtain ⟨payload, hpacket⟩ := counted.numbered _ _ latest
    have hblock : Packet.leadingOpcode? exchange.outstanding = some .data := by
      rw [hpacket]
      rfl
    have again := counted.again latest
    have unacked (progress : Progress) : Reaction.acknowledgment?
        ⟨session, exchange, .expiry, now, talk, progress⟩ = none := rfl
    unfold TalliesAfter
    rw [unacked, Option.toList_none, List.append_nil]
    rcases leads_sendToPeer_iff.mp leads with ⟨_, rfl, hawait⟩ | ⟨error, rfl, rfl⟩
    · obtain ⟨rfl, rfl⟩ := leads_await_iff.mp hawait
      have repeated (talk : Talk) : Reaction.isRepetition ⟨session, exchange, .expiry, now, talk,
          .waiting session { exchange with attempts, deadline }⟩ = true := by
        rw [Reaction.isRepetition, awaited_eq]
      rw [blocks_of_eq hblock, repeated]
      exact .block awaited_eq block_eq numbers again (List.mem_append_left _ latest)
    · rw [blocks_of_eq hblock, Reaction.isRepetition, awaited_eq]
      exact .ended again

/-- What the reactions so far and another one amount to. -/
theorem react (reaction : Reaction)
    (h : Tallies opening? acks repetitions list (.waiting reaction.session reaction.exchange))
    (leads : (reaction.session.react reaction.exchange reaction.event reaction.now).Leads
      reaction.talk reaction.progress) :
    TalliesAfter opening? acks repetitions list reaction := by
  obtain ⟨session, exchange, event, now, talk, progress⟩ := reaction
  dsimp only at h leads
  have decides := session.decides exchange event now
  generalize session.react exchange event now = turn at decides leads
  cases decides with
  | disown stranger =>
    obtain ⟨answer, _, rfl, hawait⟩ := leads_notify_iff.mp leads
    obtain ⟨rfl, rfl⟩ := leads_await_iff.mp hawait
    exact h.unchanged (acknowledgment?_eq_none (not_obtains_of_stranger stranger)) rfl rfl
  | reject peer reason =>
    obtain ⟨⟨answer, rfl⟩, rfl⟩ := leads_reject_iff.mp leads
    exact h.closed ⟨_, _, rfl⟩ rfl rfl
  | believe peer decoded serious =>
    obtain ⟨rfl, rfl⟩ := leads_fail_iff.mp leads
    exact h.closed ⟨_, _, rfl⟩ rfl rfl
  | disregard peer decoded disavowal =>
    obtain ⟨rfl, rfl⟩ := leads_await_iff.mp leads
    exact (h.rebound _).unchanged
      (acknowledgment?_eq_none (not_obtains decoded (not_isDue_error _))) rfl rfl
  | overlook awaited peer decoded stale =>
    obtain ⟨rfl, rfl⟩ := leads_await_iff.mp leads
    exact (h.rebound _).unchanged
      (acknowledgment?_eq_none (not_obtains_of_stale_ack awaited decoded stale)) rfl rfl
  | resend awaited peer decoded stale =>
    have unlike := (h.of_data awaited).1
    rcases leads_sendToPeer_iff.mp leads with ⟨_, rfl, hawait⟩ | ⟨error, rfl, rfl⟩
    · obtain ⟨rfl, rfl⟩ := leads_await_iff.mp hawait
      exact (h.rebound _).unchanged
        (acknowledgment?_eq_none (not_obtains_of_stale_data awaited decoded stale))
        (blocks_of_ne unlike _) rfl
    · exact h.closed ⟨_, _, rfl⟩ (blocks_of_ne unlike _) rfl
  | store awaited peer decoded =>
    exact h.store awaited (stores_of_leads (Packet.length_le_of_decode decoded) leads)
  | begin awaited peer decoded =>
    refine h.begin awaited ?_ (transmits_of_beginSending leads) rfl
    exact acknowledgment?_eq_some_iff.mpr ⟨_, _, rfl, peer, decoded, by rw [expected?, awaited]⟩
  | advance awaited peer decoded =>
    unfold Session.advance at leads
    split at leads
    · obtain ⟨rfl, rfl⟩ := leads_complete_iff.mp leads
      exact h.closed ⟨_, _, rfl⟩ rfl rfl
    · refine h.advance awaited ?_ (transmits_of_sendBlock leads) rfl
      exact acknowledgment?_eq_some_iff.mpr ⟨_, _, rfl, peer, decoded, by rw [expected?, awaited]⟩
  | shrug bounce =>
    obtain ⟨rfl, rfl⟩ := leads_await_iff.mp leads
    exact h.unchanged rfl rfl rfl
  | trip serious =>
    obtain ⟨rfl, rfl⟩ := leads_fail_iff.mp leads
    exact h.closed ⟨_, _, rfl⟩ rfl rfl
  | despair enough =>
    obtain ⟨rfl, rfl⟩ := leads_fail_iff.mp leads
    refine h.closed ⟨_, _, rfl⟩ rfl ?_
    unfold Reaction.isRepetition
    cases exchange.awaited <;> rfl
  | retry more =>
    exact h.retry leads

end Tallies

/-! ## Histories -/

variable {turn : Turn Progress} {first : Talk} {record : List Reaction}

theorem acknowledgments_cons (next : Reaction) (rest : List Reaction) :
    acknowledgments (next :: rest) = next.acknowledgment?.toList ++ acknowledgments rest := by
  unfold acknowledgments
  cases h : next.acknowledgment? with
  | none =>
    rw [List.filterMap_cons_none h]
    rfl
  | some number =>
    rw [List.filterMap_cons_some h]
    rfl

theorem placed_snoc (place : Nat) (earlier : List Reaction) (reaction : Reaction) :
    placed place (earlier ++ [reaction]) = placed place earlier ++ (blocks reaction.talk).map
      (place + (acknowledgments (earlier ++ [reaction])).length, ·) := by
  induction earlier generalizing place with
  | nil =>
    rw [acknowledgments_snoc]
    exact List.append_nil _
  | cons next rest ih =>
    rw [List.cons_append, placed, ih, placed, List.append_assoc, acknowledgments_cons,
      List.length_append, ← Nat.add_assoc]

theorem transmissions_snoc (opening? : Option Bytes) (first : Talk) (earlier : List Reaction)
    (reaction : Reaction) :
    transmissions opening? first (earlier ++ [reaction]) =
      transmissions opening? first earlier ++ (blocks reaction.talk).map
        (firstPlace opening? + (acknowledgments (earlier ++ [reaction])).length, ·) := by
  rw [transmissions, placed_snoc, ← List.append_assoc]
  rfl

theorem tallies_of_opens (fresh : session.Fresh) (opens : session.Opens now opening? turn)
    (unlike : ∀ request ∈ opening?, Packet.leadingOpcode? request ≠ some .data)
    (leads : turn.Leads talk progress) :
    Tallies opening? [] 0 (transmissions opening? talk []) progress := by
  rw [transmissions, placed, List.append_nil]
  cases opens with
  | receive opening =>
    have silent (answer : Except SystemError Unit) :
        blocks [⟨.send session.peer opening, answer⟩] = [] :=
      blocks_of_ne (unlike opening rfl) answer
    rcases leads_sendToPeer_iff.mp leads with ⟨_, rfl, hawait⟩ | ⟨error, rfl, rfl⟩
    · obtain ⟨rfl, rfl⟩ := leads_await_iff.mp hawait
      rw [silent]
      exact .receiving (unlike opening rfl) rfl
    · rw [silent]
      exact .ended .nil
  | send =>
    cases opening? with
    | none =>
      refine (transmits_of_beginSending leads).tallies .nil rfl ?_ inOrder_nil
      exact fresh.block_eq
    | some request =>
      have silent (answer : Except SystemError Unit) :
          blocks [⟨.send session.peer request, answer⟩] = [] :=
        blocks_of_ne (unlike request rfl) answer
      rcases leads_sendToPeer_iff.mp leads with ⟨_, rfl, hawait⟩ | ⟨error, rfl, rfl⟩
      · obtain ⟨rfl, rfl⟩ := leads_await_iff.mp hawait
        change Tallies _ _ _ (List.map _ (blocks [⟨.send session.peer request, .ok ()⟩])) _
        rw [silent]
        exact .opening rfl (unlike request rfl) rfl fresh.block_eq
      · change Tallies _ _ _ (List.map _ (blocks [⟨.send session.peer request, .error error⟩])) _
        rw [silent]
        exact .ended .nil

/-- What a history amounts to. -/
theorem Runs.tallies (fresh : session.Fresh) (opens : session.Opens now opening? turn)
    (unlike : ∀ request ∈ opening?, Packet.leadingOpcode? request ≠ some .data)
    (run : Runs turn first record progress) :
    Tallies opening? (acknowledgments record) (record.countP Reaction.isRepetition)
      (transmissions opening? first record) progress := by
  induction run with
  | begun leads => exact tallies_of_opens fresh opens unlike leads
  | @reacted record current exchange run event now talk progress leads ih =>
    have tallies := ih.react ⟨current, exchange, event, now, talk, progress⟩ leads
    unfold TalliesAfter at tallies
    rw [← acknowledgments_snoc, ← transmissions_snoc] at tallies
    rw [List.countP_append, List.countP_singleton]
    cases hrepetition : Reaction.isRepetition ⟨current, exchange, event, now, talk, progress⟩ with
    | false =>
      rw [hrepetition] at tallies
      exact tallies
    | true =>
      rw [hrepetition] at tallies
      exact tallies

/-- What a session waits for that has had acknowledgments. -/
theorem Tallies.expected {acks : List BlockNumber} {index : Nat} {number : BlockNumber}
    (h : Tallies opening? acks repetitions list (.waiting session exchange))
    (hnumber : acks[index]? = some number) :
    number = UInt16.ofNat (firstPlace opening? + index) ∧
      session.expected? exchange = some (UInt16.ofNat (firstPlace opening? + acks.length)) := by
  cases h with
  | opening opened unlike awaited_eq block_eq => cases hnumber
  | receiving unlike awaited_eq => cases hnumber
  | block awaited_eq block_eq numbers counted latest =>
    exact ⟨numbers index number hnumber, by rw [expected?, awaited_eq, block_eq]⟩

/-- Whatever happens to a session and however its surroundings answer, it sends no more than
this. -/
theorem restrained_of_runs (fresh : session.Fresh) (opens : session.Opens now opening? turn)
    (unlike : ∀ request ∈ opening?, Packet.leadingOpcode? request ≠ some .data)
    (run : Runs turn first record progress) : Restrained opening? first record := by
  obtain ⟨begun, hfirst⟩ := run.first_leads
  obtain ⟨sent, counted⟩ := (run.tallies fresh opens unlike).counted
  exact {
    first_le := (comes_of_opens opens _ _ hfirst).datagrams_le
    each_le := by
      intro reaction hmem
      obtain ⟨earlier, later, rfl⟩ := List.append_of_mem hmem
      obtain ⟨reached, leads⟩ := run.split
      exact (reached.awaits opens).datagrams_le leads
    stale := by
      intro reaction hmem source datagram number expected arrived peer decoded awaited stale
      have leads := run.leads_of_mem hmem
      rw [arrived, react_of_stale_ack awaited peer decoded stale] at leads
      exact (leads_await_iff.mp leads).1
    duplicate := by
      rintro earlier later reaction rfl source datagram index number arrived peer decoded hnumber
        recent
      obtain ⟨reached, leads⟩ := run.split
      obtain ⟨rfl, awaited⟩ := (reached.tallies fresh opens unlike).expected hnumber
      have hlt := (List.getElem?_eq_some_iff.mp hnumber).1
      -- the two places are less than half of all numbers apart, so their numbers show the order
      have stale : BlockNumber.isStale (UInt16.ofNat (firstPlace opening? + index))
          (UInt16.ofNat (firstPlace opening? + (acknowledgments earlier).length)) = true := by
        rw [BlockNumber.isStale_ofNat (by omega) (by omega), decide_eq_true_eq]
        omega
      rw [arrived, react_of_stale_ack awaited peer decoded stale] at leads
      exact (leads_await_iff.mp leads).1
    numbered := counted.numbered
    same := counted.same
    counted := by
      rw [counted.length_eq, counted.places, Nat.card_Icc, Nat.add_sub_cancel] }

theorem restrained_two_blocks :
    localSender.Fresh ∧ localSender.Opens 0 none (localSender.send none 0) ∧
      (∀ request ∈ (none : Option Bytes), Packet.leadingOpcode? request ≠ some .data) ∧
      Runs (localSender.send none 0) localDelivery.first localDelivery.record
        localDelivery.progress ∧
      (acknowledgments localDelivery.record = [1, 2] ∧
        localDelivery.record.map Reaction.isRepetition = [true, false, false, false] ∧
        (transmissions none localDelivery.first localDelivery.record).map Prod.fst = [1, 1, 2]) ∧
      Restrained none localDelivery.first localDelivery.record := by
  have fresh : localSender.Fresh := .accepted _ _ _
  have opens : localSender.Opens 0 none (localSender.send none 0) := .send none
  have unlike : ∀ request ∈ (none : Option Bytes),
      Packet.leadingOpcode? request ≠ some .data := fun _ h ↦ nomatch h
  have run : Runs (localSender.send none 0) localDelivery.first localDelivery.record
      localDelivery.progress := Chronicle.runs_lead _ _ _ _ _
  exact ⟨fresh, opens, unlike, run, by decide +kernel, restrained_of_runs fresh opens unlike run⟩

/-! ## Half of all numbers -/

/-- A full block of a source that never ends. -/
def endlessBlock : Bytes :=
  List.replicate blockSize 0

/-- The wait of a local session that sends such blocks, after `count` of them. -/
def endlessWait (count : Nat) : Exchange where
  outstanding := Packet.encodeData (UInt16.ofNat (count + 1)) endlessBlock
  deadline := 1500
  summary := ⟨count, count * blockSize⟩
  awaited := .ack endlessBlock.length .stream

def endlessSender (count : Nat) : Session :=
  { localSender with block := UInt16.ofNat (count + 1), stage := .transferring }

theorem length_endlessBlock : endlessBlock.length = blockSize :=
  List.length_replicate

/-- With the acknowledgment of a block the next one leaves. -/
theorem endlessSender_leads (count : Nat) :
    ((endlessSender count).react (endlessWait count)
      (.arrival localSender.peer (Packet.encodeAck (UInt16.ofNat (count + 1)))) 0).Leads
        [⟨.fill blockSize, .ok endlessBlock⟩,
          ⟨.send localSender.peer (endlessWait (count + 1)).outstanding, .ok ()⟩]
        (.waiting (endlessSender (count + 1)) (endlessWait (count + 1))) := by
  have turn_eq : (endlessSender count).react (endlessWait count)
      (.arrival localSender.peer (Packet.encodeAck (UInt16.ofNat (count + 1)))) 0 =
        (endlessSender (count + 1)).sendBlock .stream
          ((⟨count, count * blockSize⟩ : Summary).add endlessBlock.length) 0 := by
    calc
      _ = (endlessSender count).take (endlessWait count)
            (.ack (endlessSender count).block) 0 := by
        rw [← read_encodeAck]
        exact react_peer rfl _
      _ = (endlessSender count).advance endlessBlock.length .stream
            ⟨count, count * blockSize⟩ 0 := take_ack_current rfl
      _ = _ := by
        rw [advance, length_endlessBlock, if_neg (Nat.lt_irrefl _)]
        simp only [endlessSender, BlockNumber.ofNat_succ (count + 1)]
  have summary_eq : (⟨count, count * blockSize⟩ : Summary).add endlessBlock.length =
      (endlessWait (count + 1)).summary := by
    rw [Summary.add, length_endlessBlock, ← Nat.succ_mul]
    rfl
  rw [turn_eq, summary_eq]
  exact .ask _ (.ask _ (.done _))

/-- A session that sends such blocks may have had any number of them acknowledged, each one once. -/
theorem exists_endless_run (count : Nat) :
    ∃ first record, Runs (localSender.send none 0) first record
        (.waiting (endlessSender count) (endlessWait count)) ∧
      acknowledgments record = (List.range count).map fun index ↦ UInt16.ofNat (index + 1) := by
  induction count with
  | zero =>
    refine ⟨[⟨.fill blockSize, .ok endlessBlock⟩,
      ⟨.send localSender.peer (Packet.encodeData 1 endlessBlock), .ok ()⟩], [], ?_, rfl⟩
    exact .begun (.ask _ (.ask _ (.done _)))
  | succ count ih =>
    obtain ⟨first, record, run, hacks⟩ := ih
    refine ⟨first, _, run.reacted _ 0 (endlessSender_leads count), ?_⟩
    have taken : (endlessSender count).acknowledgment? (endlessWait count)
        (.arrival localSender.peer (Packet.encodeAck (UInt16.ofNat (count + 1)))) =
          some (UInt16.ofNat (count + 1)) :=
      acknowledgment?_eq_some_iff.mpr
        ⟨_, _, rfl, fun stranger ↦ stranger rfl, Packet.decode_encodeAck _, rfl⟩
    rw [acknowledgments_snoc, Reaction.acknowledgment?, taken, hacks, List.range_succ,
      List.map_append]
    rfl

/-- An acknowledgment that is half of all numbers old is not recognised as an old one, and has the
session tell its peer that it broke the rules. -/
theorem not_silent_about_duplicates :
    ¬ ∀ {first : Talk} {record : List Reaction} {reaction : Reaction} {progress : Progress},
      Runs (localSender.send none 0) first (record ++ [reaction]) progress →
      ∀ number ∈ acknowledgments record,
        reaction.event = .arrival localSender.peer (Packet.encodeAck number) →
        reaction.acknowledgment? = none → reaction.talk = [] := by
  intro silent
  obtain ⟨first, record, run, hacks⟩ := exists_endless_run 32768
  -- the first block is as far ahead of the awaited one as it is behind it
  have one_mem : (1 : BlockNumber) ∈ acknowledgments record := by
    rw [hacks]
    exact List.mem_map.mpr ⟨0, List.mem_range.mpr (by decide), rfl⟩
  have turn_eq : (endlessSender 32768).react (endlessWait 32768)
      (.arrival localSender.peer (Packet.encodeAck 1)) 0 =
        (endlessSender 32768).reject s!"expected ACK #{(32769 : BlockNumber).toNat}, got #1" := by
    calc
      _ = (endlessSender 32768).take (endlessWait 32768) (.ack 1) 0 := by
        rw [← read_encodeAck]
        exact react_peer rfl _
      _ = _ := rfl
  have leads : ((endlessSender 32768).react (endlessWait 32768)
      (.arrival localSender.peer (Packet.encodeAck 1)) 0).Leads
        [⟨.send localSender.peer (Packet.encodeError ErrorCode.illegalOperation.number
          s!"expected ACK #{(32769 : BlockNumber).toNat}, got #1"), .ok ()⟩]
        (.ended { endlessSender 32768 with stage := .failed }
          (.error (.protocol s!"expected ACK #{(32769 : BlockNumber).toNat}, got #1"))) := by
    rw [turn_eq]
    exact leads_reject_iff.mpr ⟨⟨.ok (), rfl⟩, rfl⟩
  have missed : (endlessSender 32768).acknowledgment? (endlessWait 32768)
      (.arrival localSender.peer (Packet.encodeAck 1)) = none := by
    have behind : (1 : BlockNumber) ≠ UInt16.ofNat (32768 + 1) := by decide
    exact acknowledgment?_eq_none
      (not_obtains (Packet.decode_encodeAck 1) fun due ↦ behind (Packet.ack.inj due))
  exact List.cons_ne_nil _ _ (silent (run.reacted _ 0 leads) 1 one_mem rfl missed)

end Lockstep.Session
