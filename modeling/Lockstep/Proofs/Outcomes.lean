import Lockstep.Proofs.Decisions
import Lockstep.Proofs.Isolation
import Lockstep.Proofs.Reception

/-!
# Outcomes of a turn

A turn uses the stream first and then sends one packet at most, after which it is over. So what a
turn has come to shows in the last thing that was said. If the session failed, that is a rejection of
the peer, an apology for the stream, a packet that did not leave, or nothing at all, depending on the
reason. If it took the awaited packet and did not fail, it has completed or waits anew, with all its
timeouts before it.
-/

namespace Lockstep

/-- A number is not behind itself. -/
theorem BlockNumber.ne_of_isStale {received expected : BlockNumber}
    (stale : received.isStale expected) : received ≠ expected := by
  rintro rfl
  simp [isStale] at stale

/-- The session has begun and has not ended. -/
def Stage.IsUnderWay (stage : Stage) : Prop :=
  stage = .requestSent ∨ stage = .transferring

namespace Session

/-! ## The end of a turn -/

/-- What the stream is used for. -/
def Question.use? : Question → Option SystemError.Use
  | .send _ _ => none
  | .write _ | .flush => some .writing
  | .fill _ | .drain => some .reading

/-- The packet moves the transfer on: it is the opening, a block or an acknowledgment. -/
def IsWork (opening? : Option Bytes) (packet : Bytes) : Prop :=
  opening? = some packet ∨ (∃ block payload, packet = Packet.encodeData block payload) ∨
    ∃ block, packet = Packet.encodeAck block

/-- What a session says at last that fails. -/
inductive LastWords (opening? : Option Bytes) (peer : SocketAddress) : TransferError → Talk → Prop
  | timeout (attempts : Nat) : LastWords opening? peer (.timeout attempts) []
  | dismissed (notice : Notice) : LastWords opening? peer (.peer notice) []
  | tripped (error : SystemError) : LastWords opening? peer (.socket error) []
  | unsent {packet : Bytes} (work : IsWork opening? packet) (error : SystemError) :
    LastWords opening? peer (.socket error) [⟨.send peer packet, .error error⟩]
  | rejected (reason : String) (answer : Except SystemError Unit) :
    LastWords opening? peer (.protocol reason)
      [⟨.send peer (Packet.encodeError ErrorCode.illegalOperation.number reason), answer⟩]
  | abandoned {question : Question} {answer : Answer question} {error : SystemError}
      {use : SystemError.Use} (failed : failure? question answer = some error)
      (used : question.use? = some use) (reply : Except SystemError Unit) :
    LastWords opening? peer (.stream (error.code use) error)
      [⟨question, answer⟩, ⟨.send peer (Packet.encodeError (error.code use).number
        (error.code use).defaultMessage), reply⟩]

/-- The peer is the same, and known as well. -/
structure SamePeer (later session : Session) : Prop where
  peer_eq : later.peer = session.peer
  bound_eq : later.bound = session.bound

/-- What a turn comes to that speaks to the peer alone. As long as the stream does what it is asked
to, the turn goes on; in the end it is as it should be, or the session has failed. -/
inductive Outcome (opening? : Option Bytes) (session : Session) (sound : Progress → Prop) :
    Talk → Progress → Prop
  | rests {progress : Progress} (h : sound progress) : Outcome opening? session sound [] progress
  | sends {packet : Bytes} {progress : Progress} (work : IsWork opening? packet)
      (h : sound progress) :
    Outcome opening? session sound [⟨.send session.peer packet, .ok ()⟩] progress
  | fails {talk : Talk} {last : Session} {error : TransferError} (same : last.SamePeer session)
      (stage_eq : last.stage = .failed) (words : LastWords opening? session.peer error talk) :
    Outcome opening? session sound talk (.ended last (.error error))
  | uses {said : Sigma Answer} {talk : Talk} {progress : Progress} {use : SystemError.Use}
      (used : said.1.use? = some use) (succeeded : failure? said.1 said.2 = none)
      (rest : Outcome opening? session sound talk progress) :
    Outcome opening? session sound (said :: talk) progress

/-- However it is led, the turn comes to this. -/
def Comes (opening? : Option Bytes) (session : Session) (sound : Progress → Prop)
    (turn : Turn Progress) : Prop :=
  ∀ talk progress, turn.Leads talk progress → Outcome opening? session sound talk progress

section

variable {opening? : Option Bytes} {sound : Progress → Prop} {session : Session}
  {exchange : Exchange} {next : Turn Progress} {packet : Bytes} {now : Nat}

theorem isWork_encodeData (block : BlockNumber) (payload : Bytes) :
    IsWork opening? (Packet.encodeData block payload) :=
  .inr (.inl ⟨block, payload, rfl⟩)

theorem isWork_encodeAck (block : BlockNumber) : IsWork opening? (Packet.encodeAck block) :=
  .inr (.inr ⟨block, rfl⟩)

/-! ### Parts of turns -/

theorem comes_done {progress : Progress} (h : sound progress) :
    Comes opening? session sound (.done progress) := by
  intro talk progress' leads
  obtain ⟨rfl, rfl⟩ := Dialogue.leads_done_iff.mp leads
  exact .rests h

/-- For these reasons a session fails without a word. -/
theorem comes_fail {error : TransferError} (words : LastWords opening? session.peer error []) :
    Comes opening? session sound (session.fail error) := by
  intro talk progress leads
  obtain ⟨rfl, rfl⟩ := leads_fail_iff.mp leads
  exact .fails ⟨rfl, rfl⟩ rfl words

theorem comes_sendToPeer {progress : Progress} (work : IsWork opening? packet)
    (h : sound progress) :
    Comes opening? session sound (session.sendToPeer packet (.done progress)) := by
  intro talk progress' leads
  rcases leads_sendToPeer_iff.mp leads with ⟨_, rfl, hdone⟩ | ⟨error, rfl, rfl⟩
  · obtain ⟨rfl, rfl⟩ := Dialogue.leads_done_iff.mp hdone
    exact .sends work h
  · exact .fails ⟨rfl, rfl⟩ rfl (.unsent work error)

theorem comes_reject (reason : String) :
    Comes opening? session sound (session.reject reason) := by
  intro talk progress leads
  obtain ⟨⟨answer, rfl⟩, rfl⟩ := leads_reject_iff.mp leads
  exact .fails ⟨rfl, rfl⟩ rfl (.rejected reason answer)

/-- The stream is asked for something, and the session gives up if the stream does. -/
theorem comes_ask {question : Question} {turn : Answer question → Turn Progress}
    {use : SystemError.Use} (used : question.use? = some use)
    (answered : ∀ answer, match failure? question answer with
      | none => Comes opening? session sound (turn answer)
      | some error => ∃ abandoning : Session, turn answer = abandoning.abandon use error ∧
          abandoning.SamePeer session) :
    Comes opening? session sound (.ask question turn) := by
  intro talk progress leads
  obtain ⟨answer, rest, rfl, hrest⟩ := Dialogue.leads_ask_iff.mp leads
  have hanswer := answered answer
  cases hfailure : failure? question answer with
  | none =>
    rw [hfailure] at hanswer
    exact .uses used hfailure (hanswer rest progress hrest)
  | some error =>
    rw [hfailure] at hanswer
    obtain ⟨abandoning, hturn, same⟩ := hanswer
    rw [hturn] at hrest
    obtain ⟨⟨reply, rfl⟩, rfl⟩ := leads_abandon_iff.mp hrest
    exact .fails ⟨same.peer_eq, same.bound_eq⟩ rfl
      (same.peer_eq ▸ .abandoned hfailure used reply)

theorem comes_store (chunk : Bytes) (h : Comes opening? session sound next) :
    Comes opening? session sound (session.store chunk next) := by
  refine comes_ask rfl fun answer ↦ ?_
  cases answer with
  | ok _ => exact h
  | error error => exact ⟨session, rfl, rfl, rfl⟩

theorem comes_flush (h : Comes opening? session sound next) :
    Comes opening? session sound (session.flush next) := by
  refine comes_ask rfl fun answer ↦ ?_
  cases answer with
  | ok _ => exact h
  | error error => exact ⟨session, rfl, rfl, rfl⟩

/-- It matters only who the peer is. -/
theorem Outcome.mono {weaker : Progress → Prop} {served : Session} {talk : Talk}
    {progress : Progress} (h : Outcome opening? served sound talk progress)
    (same : served.SamePeer session) (imp : ∀ progress, sound progress → weaker progress) :
    Outcome opening? session weaker talk progress := by
  induction h with
  | rests h => exact .rests (imp _ h)
  | sends work h => exact same.peer_eq ▸ .sends work (imp _ h)
  | fails same' stage_eq words =>
    exact .fails ⟨same'.peer_eq.trans same.peer_eq, same'.bound_eq.trans same.bound_eq⟩ stage_eq
      (same.peer_eq ▸ words)
  | uses used succeeded rest ih => exact .uses used succeeded ih

theorem Comes.mono {weaker : Progress → Prop} {served : Session}
    (h : Comes opening? served sound next) (same : served.SamePeer session)
    (imp : ∀ progress, sound progress → weaker progress) :
    Comes opening? session weaker next :=
  fun _ _ leads ↦ (h _ _ leads).mono same imp

/-! ### The awaited packet -/

/-- A wait that begins now, with all its timeouts before it. -/
structure Anew (session : Session) (now : Nat) (later : Session) (exchange : Exchange) : Prop
    extends later.SamePeer session where
  config_eq : later.config = session.config
  attempts_eq : exchange.attempts = 0
  deadline_eq : exchange.deadline = now + session.config.timeout

/-- What a session has come to that took the awaited packet: it waits for the next one, or it has
completed. -/
inductive Advances (session : Session) (now : Nat) : Progress → Prop
  | on {later : Session} {exchange : Exchange} (anew : Anew session now later exchange)
      (stage_eq : later.stage = .transferring)
      (work : ∀ opening?, IsWork opening? exchange.outstanding) :
    Advances session now (.waiting later exchange)
  | through {last : Session} {summary : Summary} (same : last.SamePeer session)
      (stage_eq : last.stage = .completed) : Advances session now (.ended last (.ok summary))

/-- It matters only who the peer is and how the session is configured. -/
theorem Advances.of_eq {served : Session} {progress : Progress} (h : served.Advances now progress)
    (same : served.SamePeer session) (config_eq : served.config = session.config) :
    session.Advances now progress := by
  cases h with
  | on anew stage_eq work =>
    exact .on ⟨⟨anew.peer_eq.trans same.peer_eq, anew.bound_eq.trans same.bound_eq⟩,
      anew.config_eq.trans config_eq, anew.attempts_eq, config_eq ▸ anew.deadline_eq⟩
      stage_eq work
  | through same' stage_eq =>
    exact .through ⟨same'.peer_eq.trans same.peer_eq, same'.bound_eq.trans same.bound_eq⟩ stage_eq

theorem comes_sendPayload (transferring : session.stage = .transferring) (payload : Bytes)
    (supply : Supply) (summary : Summary) :
    Comes opening? session (session.Advances now)
      (session.sendPayload payload supply summary now) := by
  refine comes_sendToPeer (isWork_encodeData _ _) ?_
  exact .on ⟨⟨rfl, rfl⟩, rfl, rfl, rfl⟩ transferring fun _ ↦ isWork_encodeData _ _

theorem comes_sendBlock (transferring : session.stage = .transferring) (supply : Supply)
    (summary : Summary) :
    Comes opening? session (session.Advances now) (session.sendBlock supply summary now) := by
  cases supply with
  | text rest => exact comes_sendPayload transferring _ _ _
  | stream =>
    refine comes_ask rfl fun answer ↦ ?_
    cases answer with
    | ok payload => exact comes_sendPayload transferring _ _ _
    | error error => exact ⟨session, rfl, rfl, rfl⟩

theorem comes_beginSending :
    Comes opening? session (session.Advances now) (session.beginSending now) := by
  have comes_block (supply : Supply) : Comes opening? session (session.Advances now)
      ({ session with stage := .transferring }.sendBlock supply {} now) :=
    (comes_sendBlock rfl supply {}).mono ⟨rfl, rfl⟩ fun _ h ↦ h.of_eq ⟨rfl, rfl⟩ rfl
  unfold beginSending
  dsimp only
  split
  · exact comes_block .stream
  · refine comes_ask rfl fun answer ↦ ?_
    cases answer with
    | ok raw => exact comes_block _
    | error error => exact ⟨_, rfl, rfl, rfl⟩

theorem comes_advance (transferring : session.stage = .transferring) (length : Nat)
    (supply : Supply) (summary : Summary) :
    Comes opening? session (session.Advances now)
      (session.advance length supply summary now) := by
  have next_transferring : { session with block := session.block + 1 }.stage = .transferring :=
    transferring
  unfold advance
  split
  · exact comes_done (.through ⟨rfl, rfl⟩ rfl)
  · exact (comes_sendBlock next_transferring supply _).mono ⟨rfl, rfl⟩
      fun _ h ↦ h.of_eq ⟨rfl, rfl⟩ rfl

theorem comes_acknowledge (length : Nat) (decoder : Netascii.Decoder) (summary : Summary) :
    Comes opening? session (session.Advances now)
      (session.acknowledge length decoder summary now) := by
  unfold acknowledge
  dsimp only
  split
  · exact comes_sendToPeer (isWork_encodeAck _) (.through ⟨rfl, rfl⟩ rfl)
  · refine comes_sendToPeer (isWork_encodeAck _) ?_
    exact .on ⟨⟨rfl, rfl⟩, rfl, rfl, rfl⟩ rfl fun _ ↦ isWork_encodeAck _

theorem comes_takePayload (payload : Bytes) (decoder : Netascii.Decoder) (summary : Summary) :
    Comes opening? session (session.Advances now)
      (session.takePayload payload decoder summary now) := by
  rw [takePayload_eq]
  apply comes_store
  -- behind the last block the decoder may hold a byte back, which is stored before the flush
  split
  · exact comes_store _ (comes_flush (comes_acknowledge _ _ _))
  · exact comes_acknowledge _ _ _

/-! ## Reactions -/

/-- The session waits for this packet. -/
def IsDue (session : Session) (exchange : Exchange) (packet : Packet) : Prop :=
  match exchange.awaited with
  | .data _ => ∃ payload, packet = .data session.block payload
  | .acceptance => packet = .ack 0
  | .ack _ _ => packet = .ack session.block

/-- The event brings the packet that the session waits for. -/
def Obtains (session : Session) (exchange : Exchange) (event : Event) : Prop :=
  ∃ source datagram packet, event = .arrival source datagram ∧ ¬ session.IsStranger source ∧
    Packet.decode datagram = .ok packet ∧ session.IsDue exchange packet

/-- The session when it has seen whom an event comes from, by which its peer may be bound. -/
inductive Serves (session : Session) : Session → Prop
  | itself : Serves session session
  | bound {source : SocketAddress} (peer : ¬ session.IsStranger source) :
    Serves session (session.boundTo source)

/-- Since it began with that opening, the session has come to wait like this. -/
structure Awaits (opening? : Option Bytes) (session : Session) (exchange : Exchange) : Prop where
  work : IsWork opening? exchange.outstanding
  stage : session.stage.IsUnderWay
  ack : ∀ {length supply}, exchange.awaited = .ack length supply → session.stage = .transferring

/-- What a session does about an event. -/
inductive Reacts (opening? : Option Bytes) (session : Session) (exchange : Exchange) (now : Nat) :
    Event → Talk → Progress → Prop
  | disowned {source : SocketAddress} {datagram : Bytes} (stranger : session.IsStranger source)
      (answer : Except SystemError Unit) :
    Reacts opening? session exchange now (.arrival source datagram)
      [⟨.send source unknownTransfer, answer⟩] (.waiting session exchange)
  /-- The session waits for the same packet, if it has not failed. -/
  | kept {event : Event} {talk : Talk} {progress : Progress} {served : Session}
      (serves : session.Serves served)
      (outcome : Outcome opening? served (fun progress ↦ ¬ session.Obtains exchange event ∧
        ∃ attempts deadline, progress = .waiting served { exchange with attempts, deadline })
        talk progress) :
    Reacts opening? session exchange now event talk progress
  /-- The session has the packet that it waited for. -/
  | moved {event : Event} {talk : Talk} {progress : Progress} {served : Session}
      (serves : session.Serves served) (obtains : session.Obtains exchange event)
      (outcome : Outcome opening? served (served.Advances now) talk progress) :
    Reacts opening? session exchange now event talk progress

variable {event : Event} {source : SocketAddress} {datagram : Bytes} {talk : Talk}
  {progress : Progress}

/-! ### The packet that is due -/

theorem isDue_iff_of_data {decoder : Netascii.Decoder} (awaited : exchange.awaited = .data decoder)
    {packet : Packet} :
    session.IsDue exchange packet ↔ ∃ payload, packet = .data session.block payload := by
  rw [IsDue, awaited]

theorem isDue_iff_of_expected {number : BlockNumber}
    (expected : session.expected? exchange = some number) {packet : Packet} :
    session.IsDue exchange packet ↔ packet = .ack number := by
  unfold expected? at expected
  unfold IsDue
  cases hawaited : exchange.awaited <;> rw [hawaited] at expected <;> cases expected <;> rfl

theorem obtains_iff_of_expected {number : BlockNumber}
    (expected : session.expected? exchange = some number) :
    session.Obtains exchange event ↔ session.acknowledgment? exchange event = some number := by
  simp only [acknowledgment?_eq_some_iff, Obtains, isDue_iff_of_expected expected]
  constructor
  · rintro ⟨source, datagram, _, arrived, peer, decoded, rfl⟩
    exact ⟨source, datagram, arrived, peer, decoded, expected⟩
  · rintro ⟨source, datagram, arrived, peer, decoded, -⟩
    exact ⟨source, datagram, _, arrived, peer, decoded, rfl⟩

theorem not_obtains {packet : Packet} (decoded : Packet.decode datagram = .ok packet)
    (other : ¬ session.IsDue exchange packet) :
    ¬ session.Obtains exchange (.arrival source datagram) := by
  rintro ⟨_, _, packet', ⟨⟩, -, decoded', due⟩
  cases decoded.symm.trans decoded'
  exact other due

theorem not_obtains_of_unarrived (unarrived : ∀ source datagram, event ≠ .arrival source datagram) :
    ¬ session.Obtains exchange event := by
  rintro ⟨source, datagram, _, arrived, -⟩
  exact unarrived source datagram arrived

theorem not_obtains_of_stranger (stranger : session.IsStranger source) :
    ¬ session.Obtains exchange (.arrival source datagram) := by
  rintro ⟨_, _, _, ⟨⟩, peer, -⟩
  exact peer stranger

/-- An error notice is never due. -/
theorem not_isDue_error (notice : Notice) : ¬ session.IsDue exchange (.error notice) := by
  unfold IsDue
  cases exchange.awaited <;> simp

theorem not_obtains_of_stale_data {decoder : Netascii.Decoder} {block : BlockNumber}
    {payload : Bytes} (awaited : exchange.awaited = .data decoder)
    (decoded : Packet.decode datagram = .ok (.data block payload))
    (stale : block.isStale session.block) :
    ¬ session.Obtains exchange (.arrival source datagram) := by
  refine not_obtains decoded fun due ↦ BlockNumber.ne_of_isStale stale ?_
  obtain ⟨payload, hpacket⟩ := (isDue_iff_of_data awaited).mp due
  exact (Packet.data.inj hpacket).1

theorem not_obtains_of_stale_ack {block expected : BlockNumber}
    (awaited : session.expected? exchange = some expected)
    (decoded : Packet.decode datagram = .ok (.ack block)) (stale : block.isStale expected) :
    ¬ session.Obtains exchange (.arrival source datagram) := by
  refine not_obtains decoded fun due ↦ BlockNumber.ne_of_isStale stale ?_
  exact Packet.ack.inj ((isDue_iff_of_expected awaited).mp due)

/-- An old block has the outstanding packet sent again. -/
theorem react_of_stale_data {decoder : Netascii.Decoder} {block : BlockNumber} {payload : Bytes}
    (awaited : exchange.awaited = .data decoder) (peer : ¬ session.IsStranger source)
    (decoded : Packet.decode datagram = .ok (.data block payload))
    (stale : block.isStale session.block) :
    session.react exchange (.arrival source datagram) now =
      (session.boundTo source).sendToPeer exchange.outstanding
        ((session.boundTo source).await exchange) := by
  have other : block ≠ (session.boundTo source).block := BlockNumber.ne_of_isStale stale
  rw [arrive_of_peer peer, read, decoded]
  exact take_data_stale awaited other stale payload

/-- Nothing is done about an old acknowledgment. -/
theorem react_of_stale_ack {block expected : BlockNumber}
    (awaited : session.expected? exchange = some expected) (peer : ¬ session.IsStranger source)
    (decoded : Packet.decode datagram = .ok (.ack block)) (stale : block.isStale expected) :
    session.react exchange (.arrival source datagram) now =
      (session.boundTo source).await exchange := by
  have awaited' : (session.boundTo source).expected? exchange = some expected := awaited
  rw [arrive_of_peer peer, read, decoded]
  dsimp only
  rw [take_eq_takeAck awaited', takeAck]
  simp only [BlockNumber.ne_of_isStale stale, stale, if_false, if_true]

/-! ### Inversion -/

/-- Whatever happens to a session that waits, it reacts in one of these ways. -/
theorem reacts_of_leads (awaits : Awaits opening? session exchange)
    (leads : (session.react exchange event now).Leads talk progress) :
    Reacts opening? session exchange now event talk progress := by
  have decides := session.decides exchange event now
  generalize session.react exchange event now = turn at decides leads
  -- the awaited packet is there in the cases `store`, `begin` and `advance`, and in no other
  cases decides with
  | disown stranger =>
    obtain ⟨answer, _, rfl, hawait⟩ := leads_notify_iff.mp leads
    obtain ⟨rfl, rfl⟩ := leads_await_iff.mp hawait
    exact .disowned stranger answer
  | reject peer reason => exact .kept (.bound peer) (comes_reject reason _ _ leads)
  | believe peer decoded serious =>
    exact .kept (.bound peer) (comes_fail (.dismissed _) _ _ leads)
  | disregard peer decoded disavowal =>
    refine .kept (.bound peer) (comes_done ⟨?_, _, _, rfl⟩ _ _ leads)
    exact not_obtains decoded (not_isDue_error _)
  | overlook awaited peer decoded stale =>
    refine .kept (.bound peer) (comes_done ⟨?_, _, _, rfl⟩ _ _ leads)
    exact not_obtains_of_stale_ack awaited decoded stale
  | resend awaited peer decoded stale =>
    refine .kept (.bound peer) (comes_sendToPeer awaits.work ⟨?_, _, _, rfl⟩ _ _ leads)
    exact not_obtains_of_stale_data awaited decoded stale
  | @store source datagram payload decoder awaited peer decoded =>
    refine .moved (.bound peer) ⟨_, _, _, rfl, peer, decoded, ?_⟩
      (comes_takePayload _ _ _ _ _ leads)
    exact (isDue_iff_of_data awaited).mpr ⟨payload, rfl⟩
  | begin awaited peer decoded =>
    refine .moved (.bound peer) ⟨_, _, _, rfl, peer, decoded, ?_⟩ (comes_beginSending _ _ leads)
    simp only [IsDue, awaited]
  | @advance source datagram length supply awaited peer decoded =>
    have transferring : (session.boundTo source).stage = .transferring := awaits.ack awaited
    refine .moved (.bound peer) ⟨_, _, _, rfl, peer, decoded, ?_⟩
      (comes_advance transferring _ _ _ _ _ leads)
    simp only [IsDue, awaited]
  | shrug bounce =>
    exact .kept .itself (comes_done ⟨not_obtains_of_unarrived nofun, _, _, rfl⟩ _ _ leads)
  | trip serious => exact .kept .itself (comes_fail (.tripped _) _ _ leads)
  | despair enough => exact .kept .itself (comes_fail (.timeout _) _ _ leads)
  | retry more =>
    exact .kept .itself
      (comes_sendToPeer awaits.work ⟨not_obtains_of_unarrived nofun, _, _, rfl⟩ _ _ leads)

/-! ## Beginnings -/

/-- The turn with which a session begins, and the packet that opens the exchange if there is one. -/
inductive Opens (session : Session) (now : Nat) : Option Bytes → Turn Progress → Prop
  | receive (opening : Bytes) : Opens session now (some opening) (session.receive opening now)
  | send (opening? : Option Bytes) : Opens session now opening? (session.send opening? now)

/-- What a session has come to that has begun. -/
inductive Starts (opening? : Option Bytes) (session : Session) (now : Nat) : Progress → Prop
  | opened {later : Session} {exchange : Exchange} (anew : Anew session now later exchange)
      (block_eq : later.block = session.block) (awaits : Awaits opening? later exchange) :
    Starts opening? session now (.waiting later exchange)
  | advanced {progress : Progress} (advances : session.Advances now progress) :
    Starts opening? session now progress

theorem comes_of_opens {turn : Turn Progress} (opens : session.Opens now opening? turn) :
    Comes opening? session (Starts opening? session now) turn := by
  cases opens with
  | receive opening =>
    refine comes_sendToPeer (.inl rfl)
      (Starts.opened ⟨⟨rfl, rfl⟩, rfl, rfl, rfl⟩ rfl ⟨.inl rfl, ?_, nofun⟩)
    dsimp only
    split
    · exact .inr rfl
    · exact .inl rfl
  | send =>
    cases opening? with
    | none => exact comes_beginSending.mono ⟨rfl, rfl⟩ fun _ ↦ .advanced
    | some request =>
      have comes_request : Comes (some request) { session with stage := .requestSent }
          (Starts (some request) session now) (session.send (some request) now) :=
        comes_sendToPeer (.inl rfl)
          (.opened ⟨⟨rfl, rfl⟩, rfl, rfl, rfl⟩ rfl ⟨.inl rfl, .inl rfl, nofun⟩)
      exact comes_request.mono ⟨rfl, rfl⟩ fun _ ↦ id

/-! ### Runs -/

/-- If the session waits, the turn has come to something sound. -/
theorem Outcome.sound_of_waiting {later : Session}
    (h : Outcome opening? session sound talk (.waiting later exchange)) :
    sound (.waiting later exchange) := by
  generalize hprogress : Progress.waiting later exchange = progress at h
  induction h with
  | rests h | sends work h => exact hprogress ▸ h
  | fails => cases hprogress
  | uses used succeeded rest ih => exact ih hprogress

theorem Advances.awaits {later : Session}
    (h : session.Advances now (.waiting later exchange)) : Awaits opening? later exchange := by
  cases h with
  | on anew stage_eq work =>
    exact ⟨work opening?, .inr stage_eq, fun _ ↦ stage_eq⟩

theorem Serves.stage_eq {served : Session} (h : session.Serves served) :
    served.stage = session.stage := by
  cases h <;> rfl

theorem Serves.block_eq {served : Session} (h : session.Serves served) :
    served.block = session.block := by
  cases h <;> rfl

/-- What a session waits for goes with its stage. -/
theorem Awaits.react {later : Session} {exchange' : Exchange}
    (awaits : Awaits opening? session exchange)
    (leads : (session.react exchange event now).Leads talk (.waiting later exchange')) :
    Awaits opening? later exchange' := by
  generalize hprogress : Progress.waiting later exchange' = progress at leads
  cases reacts_of_leads awaits leads with
  | disowned stranger answer =>
    cases hprogress
    exact awaits
  | kept serves outcome =>
    subst hprogress
    obtain ⟨-, attempts, deadline, hsame⟩ := outcome.sound_of_waiting
    cases hsame
    obtain ⟨work, stage, ack⟩ := awaits
    rw [← serves.stage_eq] at stage
    exact ⟨work, stage, fun awaited ↦ serves.stage_eq.trans (ack awaited)⟩
  | moved serves obtains outcome =>
    subst hprogress
    exact outcome.sound_of_waiting.awaits

theorem Runs.awaits {turn : Turn Progress} {first : Talk} {record : List Reaction}
    {current : Session} (opens : session.Opens now opening? turn)
    (run : Runs turn first record (.waiting current exchange)) :
    Awaits opening? current exchange := by
  generalize hprogress : Progress.waiting current exchange = progress at run
  induction run generalizing current exchange with
  | begun leads =>
    subst hprogress
    cases (comes_of_opens opens _ _ leads).sound_of_waiting with
    | opened anew block_eq awaits => exact awaits
    | advanced advances => exact advances.awaits
  | reacted run event now leads ih =>
    subst hprogress
    exact (ih rfl).react leads

end

end Session

end Lockstep
