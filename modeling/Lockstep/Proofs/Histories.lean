import Lockstep.Proofs.Reactions
import Mathlib.Data.List.Induction

/-!
# Histories of sessions

A session runs from its first turn on by reacting to one event after the other. Its surroundings
answer every question of a turn as they like, so a turn can lead to as many ends as there are ways
of answering it. A history keeps every reaction with the session that it found, the talk that was
had, and what it came to. Statements about all histories are statements about all networks, streams
and clocks at once.
-/

namespace Lockstep

namespace Dialogue

variable {Question : Type} {Answer : Question → Type} {Result : Type}

/-- If its questions are answered as in the talk, the dialogue comes to the result. -/
inductive Leads : Dialogue Question Answer Result → List (Sigma Answer) → Result → Prop
  | done (result : Result) : Leads (.done result) [] result
  | ask {question : Question} {next : Answer question → Dialogue Question Answer Result}
      {talk : List (Sigma Answer)} {result : Result} (answer : Answer question)
      (rest : (next answer).Leads talk result) :
      Leads (.ask question next) (⟨question, answer⟩ :: talk) result

variable {talk : List (Sigma Answer)} {result : Result}

theorem leads_done_iff {done : Result} :
    (Dialogue.done done : Dialogue Question Answer Result).Leads talk result ↔
      talk = [] ∧ result = done := by
  constructor
  · rintro ⟨⟩
    exact ⟨rfl, rfl⟩
  · rintro ⟨rfl, rfl⟩
    exact .done _

theorem leads_ask_iff {question : Question}
    {next : Answer question → Dialogue Question Answer Result} :
    (Dialogue.ask question next).Leads talk result ↔
      ∃ answer rest, talk = ⟨question, answer⟩ :: rest ∧ (next answer).Leads rest result := by
  constructor
  · rintro ⟨⟩
    exact ⟨_, _, rfl, ‹_›⟩
  · rintro ⟨answer, rest, rfl, h⟩
    exact .ask answer h

theorem leads_question_iff {question : Question} {answer : Answer question} :
    (Dialogue.question question : Dialogue Question Answer _).Leads talk answer ↔
      talk = [⟨question, answer⟩] := by
  constructor
  · intro h
    obtain ⟨given, rest, rfl, hrest⟩ := leads_ask_iff.mp h
    obtain ⟨rfl, rfl⟩ := leads_done_iff.mp hrest
    rfl
  · rintro rfl
    exact .ask answer (.done answer)

theorem leads_bind_iff {Middle : Type} {dialogue : Dialogue Question Answer Middle}
    {next : Middle → Dialogue Question Answer Result} :
    (dialogue >>= next).Leads talk result ↔
      ∃ front middle back, talk = front ++ back ∧ dialogue.Leads front middle ∧
        (next middle).Leads back result := by
  change (dialogue.andThen next).Leads talk result ↔ _
  induction dialogue generalizing talk with
  | done middle =>
    constructor
    · intro h
      exact ⟨[], middle, talk, rfl, .done middle, h⟩
    · rintro ⟨front, other, back, rfl, hfront, hback⟩
      obtain ⟨rfl, rfl⟩ := leads_done_iff.mp hfront
      exact hback
  | ask question rest ih =>
    constructor
    · intro h
      obtain ⟨answer, others, rfl, hothers⟩ := leads_ask_iff.mp h
      obtain ⟨front, middle, back, rfl, hfront, hback⟩ := (ih answer).mp hothers
      exact ⟨_, middle, back, rfl, .ask answer hfront, hback⟩
    · rintro ⟨front, middle, back, rfl, hfront, hback⟩
      obtain ⟨answer, others, rfl, hothers⟩ := leads_ask_iff.mp hfront
      exact .ask answer ((ih answer).mpr ⟨others, middle, back, rfl, hothers, hback⟩)

/-- The answers decide the result. -/
theorem Leads.unique {dialogue : Dialogue Question Answer Result} {other : Result}
    (h : dialogue.Leads talk result) (h' : dialogue.Leads talk other) : result = other := by
  induction h with
  | done result =>
    obtain ⟨-, rfl⟩ := leads_done_iff.mp h'
    rfl
  | ask answer rest ih =>
    obtain ⟨answer', rest', htalk, h'⟩ := leads_ask_iff.mp h'
    cases htalk
    exact ih h'

/-- What is said with somebody who answers from a state. -/
def transcript {State : Type} (answer : (question : Question) → State → Answer question × State) :
    Dialogue Question Answer Result → State → List (Sigma Answer)
  | .done _, _ => []
  | .ask question next, state =>
    ⟨question, (answer question state).1⟩ ::
      (next (answer question state).1).transcript answer (answer question state).2

/-- Whoever answers, the dialogue is led in one of these ways. -/
theorem leads_transcript {State : Type}
    (answer : (question : Question) → State → Answer question × State)
    (dialogue : Dialogue Question Answer Result) (state : State) :
    dialogue.Leads (dialogue.transcript answer state) (dialogue.run answer state).1 := by
  induction dialogue generalizing state with
  | done result => exact .done result
  | ask question next ih => exact .ask _ (ih _ _)

end Dialogue

namespace Session

/-- What was asked in a turn, with the answers. -/
abbrev Talk := List (Sigma Answer)

/-- The session whose progress this is. -/
def Progress.session : Progress → Session
  | .waiting session _ => session
  | .ended session _ => session

/-- What a session did about an event. -/
structure Reaction where
  session : Session
  exchange : Exchange
  event : Event
  now : Nat
  talk : Talk
  progress : Progress

/-- Since its first turn, in which `first` was said, the session has reacted like this and has come
to this. -/
inductive Runs (turn : Turn Progress) (first : Talk) : List Reaction → Progress → Prop
  | begun {progress : Progress} (leads : turn.Leads first progress) : Runs turn first [] progress
  | reacted {record : List Reaction} {session : Session} {exchange : Exchange}
      (run : Runs turn first record (.waiting session exchange)) (event : Event) (now : Nat)
      {talk : Talk} {progress : Progress}
      (leads : (session.react exchange event now).Leads talk progress) :
      Runs turn first (record ++ [⟨session, exchange, event, now, talk, progress⟩]) progress

/-- The two ways for a session to begin. -/
inductive Begins (session : Session) (now : Nat) : Turn Progress → Prop
  | receive (opening : Bytes) : Begins session now (session.receive opening now)
  | send (opening? : Option Bytes) : Begins session now (session.send opening? now)

namespace Runs

variable {turn : Turn Progress} {first : Talk} {record earlier later : List Reaction}
  {reaction : Reaction} {progress : Progress}

/-- The first turn came to something. -/
theorem first_leads (run : Runs turn first record progress) :
    ∃ progress, turn.Leads first progress := by
  induction run with
  | begun leads => exact ⟨_, leads⟩
  | reacted run event now leads ih => exact ih

/-- Every beginning of a history is the history of the session up to there. -/
theorem split (run : Runs turn first (earlier ++ reaction :: later) progress) :
    Runs turn first earlier (.waiting reaction.session reaction.exchange) ∧
      (reaction.session.react reaction.exchange reaction.event reaction.now).Leads reaction.talk
        reaction.progress := by
  generalize hrecord : earlier ++ reaction :: later = record at run
  induction run generalizing later with
  | begun leads => exact absurd hrecord (List.append_ne_nil_of_right_ne_nil _ (List.cons_ne_nil _ _))
  | reacted run event now leads ih =>
    rcases List.eq_nil_or_concat later with rfl | ⟨front, last, rfl⟩
    · obtain ⟨rfl, hlast⟩ := List.append_inj' hrecord rfl
      cases hlast
      exact ⟨run, leads⟩
    · rw [List.concat_eq_append, ← List.cons_append, ← List.append_assoc] at hrecord
      exact ih (List.append_inj' hrecord rfl).1

/-- A reaction takes the history on. -/
theorem snoc (run : Runs turn first earlier (.waiting reaction.session reaction.exchange))
    (leads : (reaction.session.react reaction.exchange reaction.event reaction.now).Leads
      reaction.talk reaction.progress) :
    Runs turn first (earlier ++ [reaction]) reaction.progress :=
  .reacted run reaction.event reaction.now leads

/-- The last reaction came to what the session has come to. -/
theorem progress_of_snoc (run : Runs turn first (earlier ++ [reaction]) progress) :
    reaction.progress = progress := by
  generalize hrecord : earlier ++ [reaction] = record at run
  cases run with
  | begun leads => exact absurd hrecord (List.append_ne_nil_of_right_ne_nil _ (List.cons_ne_nil _ _))
  | reacted run event now leads =>
    obtain ⟨-, hlast⟩ := List.append_inj' hrecord rfl
    cases hlast
    rfl

/-- A history decides what the session has come to. -/
theorem unique {other : Progress} (run : Runs turn first record progress)
    (run' : Runs turn first record other) : progress = other := by
  cases run with
  | begun leads =>
    generalize hrecord : ([] : List Reaction) = record at run'
    cases run' with
    | begun leads' => exact leads.unique leads'
    | reacted run' event now leads' =>
      exact absurd hrecord.symm (List.append_ne_nil_of_right_ne_nil _ (List.cons_ne_nil _ _))
  | reacted run event now leads => exact run'.progress_of_snoc

/-- A session that has come to the same can go on in the same way. -/
theorem resume {other : List Reaction} {reached : Progress}
    (run : Runs turn first (earlier ++ later) progress)
    (run' : Runs turn first earlier reached) (otherwise : Runs turn first other reached) :
    Runs turn first (other ++ later) progress := by
  induction later using List.reverseRecOn generalizing progress with
  | nil =>
    rw [List.append_nil] at run ⊢
    exact run.unique run' ▸ otherwise
  | append_singleton front last ih =>
    rw [← List.append_assoc] at run ⊢
    have hlast := run.split
    exact run.progress_of_snoc ▸ (ih hlast.1).snoc hlast.2

/-- Every reaction of a history is one that the session could have. -/
theorem leads_of_mem (run : Runs turn first record progress) (mem : reaction ∈ record) :
    (reaction.session.react reaction.exchange reaction.event reaction.now).Leads reaction.talk
      reaction.progress := by
  obtain ⟨earlier, later, rfl⟩ := List.append_of_mem mem
  exact run.split.2

/-- What leaves the session as it is can be left out. -/
theorem filter_idle {P : Reaction → Prop} [DecidablePred P]
    (run : Runs turn first record progress)
    (idle : ∀ reaction ∈ record, P reaction →
      reaction.progress = .waiting reaction.session reaction.exchange) :
    Runs turn first (record.filter fun reaction ↦ ¬ P reaction) progress := by
  induction run with
  | begun leads => exact .begun leads
  | @reacted record session exchange run event now talk progress leads ih =>
    have earlier := ih fun reaction hmem ↦ idle reaction (List.mem_append_left _ hmem)
    rw [List.filter_append]
    by_cases h : P ⟨session, exchange, event, now, talk, progress⟩
    · have hprogress : progress = .waiting session exchange :=
        idle _ (List.mem_append_right _ (List.mem_singleton_self _)) h
      rw [List.filter_cons_of_neg (by simpa using h), List.filter_nil, List.append_nil, hprogress]
      exact earlier
    · rw [List.filter_cons_of_pos (by simpa using h), List.filter_nil]
      exact .reacted earlier event now leads

/-- It can come in at any time, as often as one likes. -/
theorem append_idle {session : Session} {exchange : Exchange}
    (run : Runs turn first earlier (.waiting session exchange)) (idle : List Reaction)
    (idles : ∀ reaction ∈ idle, reaction.session = session ∧ reaction.exchange = exchange ∧
      reaction.progress = .waiting session exchange ∧
      (session.react exchange reaction.event reaction.now).Leads reaction.talk
        (.waiting session exchange)) :
    Runs turn first (earlier ++ idle) (.waiting session exchange) := by
  induction idle using List.reverseRecOn with
  | nil =>
    rw [List.append_nil]
    exact run
  | append_singleton front last ih =>
    have hfront := ih fun reaction hmem ↦ idles reaction (List.mem_append_left _ hmem)
    obtain ⟨hsession, hexchange, hprogress, leads⟩ :=
      idles last (List.mem_append_right _ (List.mem_singleton_self _))
    rw [← List.append_assoc, ← hprogress]
    apply snoc
    · rw [hsession, hexchange]
      exact hfront
    · rw [hsession, hexchange, hprogress]
      exact leads

/-- Nothing happens to a session that has ended. -/
theorem eq_nil_of_ended {session : Session} {result : Except TransferError Summary}
    (run : Runs turn first (earlier ++ reaction :: later) progress)
    (ended : reaction.progress = .ended session result) : later = [] := by
  cases later with
  | nil => rfl
  | cons next others =>
    rw [List.append_cons] at run
    have hnext := run.split.1
    have hwaiting := hnext.progress_of_snoc
    rw [ended] at hwaiting
    cases hwaiting

end Runs

/-! ## Parts of turns -/

variable {session : Session} {exchange : Exchange} {next : Turn Progress} {talk : Talk}
  {progress : Progress}

theorem leads_fail_iff {error : TransferError} :
    (session.fail error).Leads talk progress ↔
      talk = [] ∧ progress = .ended { session with stage := .failed } (.error error) :=
  Dialogue.leads_done_iff

theorem leads_await_iff :
    (session.await exchange).Leads talk progress ↔
      talk = [] ∧ progress = .waiting session exchange :=
  Dialogue.leads_done_iff

theorem leads_complete_iff {summary : Summary} :
    (session.complete summary).Leads talk progress ↔
      talk = [] ∧ progress = .ended { session with stage := .completed } (.ok summary) :=
  Dialogue.leads_done_iff

/-- A packet for the peer leaves, or the session fails. -/
theorem leads_sendToPeer_iff {packet : Bytes} :
    (session.sendToPeer packet next).Leads talk progress ↔
      (∃ rest, talk = ⟨.send session.peer packet, .ok ()⟩ :: rest ∧ next.Leads rest progress) ∨
      ∃ error, talk = [⟨.send session.peer packet, .error error⟩] ∧
        progress = .ended { session with stage := .failed } (.error (.socket error)) := by
  unfold sendToPeer
  rw [Dialogue.leads_ask_iff]
  constructor
  · rintro ⟨answer, rest, rfl, h⟩
    cases answer with
    | ok _ => exact .inl ⟨rest, rfl, h⟩
    | error error =>
      obtain ⟨rfl, rfl⟩ := leads_fail_iff.mp h
      exact .inr ⟨error, rfl, rfl⟩
  · rintro (⟨rest, rfl, h⟩ | ⟨error, rfl, rfl⟩)
    · exact ⟨.ok (), rest, rfl, h⟩
    · exact ⟨.error error, [], rfl, leads_fail_iff.mpr ⟨rfl, rfl⟩⟩

theorem leads_notify_iff {destination : SocketAddress} {code : ErrorCode} {message : String} :
    (notify destination code message next).Leads talk progress ↔
      ∃ answer rest, talk =
          ⟨.send destination (Packet.encodeError code.number message), answer⟩ :: rest ∧
        next.Leads rest progress :=
  Dialogue.leads_ask_iff

theorem leads_reject_iff {reason : String} :
    (session.reject reason).Leads talk progress ↔
      (∃ answer, talk = [⟨.send session.peer
        (Packet.encodeError ErrorCode.illegalOperation.number reason), answer⟩]) ∧
      progress = .ended { session with stage := .failed } (.error (.protocol reason)) := by
  rw [reject, leads_notify_iff]
  constructor
  · rintro ⟨answer, rest, rfl, h⟩
    obtain ⟨rfl, rfl⟩ := leads_fail_iff.mp h
    exact ⟨⟨answer, rfl⟩, rfl⟩
  · rintro ⟨⟨answer, rfl⟩, rfl⟩
    exact ⟨answer, [], rfl, leads_fail_iff.mpr ⟨rfl, rfl⟩⟩

theorem leads_abandon_iff {use : SystemError.Use} {error : SystemError} :
    (session.abandon use error).Leads talk progress ↔
      (∃ answer, talk = [⟨.send session.peer
        (Packet.encodeError (error.code use).number (error.code use).defaultMessage), answer⟩]) ∧
      progress = .ended { session with stage := .failed }
        (.error (.stream (error.code use) error)) := by
  rw [abandon, leads_notify_iff]
  constructor
  · rintro ⟨answer, rest, rfl, h⟩
    obtain ⟨rfl, rfl⟩ := leads_fail_iff.mp h
    exact ⟨⟨answer, rfl⟩, rfl⟩
  · rintro ⟨⟨answer, rfl⟩, rfl⟩
    exact ⟨answer, [], rfl, leads_fail_iff.mpr ⟨rfl, rfl⟩⟩

/-- What is handed to the stream is taken, or the session fails. -/
theorem leads_store_iff {chunk : Bytes} :
    (session.store chunk next).Leads talk progress ↔
      (∃ rest, talk = ⟨.write chunk, .ok ()⟩ :: rest ∧ next.Leads rest progress) ∨
      ∃ error rest, talk = ⟨.write chunk, .error error⟩ :: rest ∧
        (session.abandon .writing error).Leads rest progress := by
  unfold store
  rw [Dialogue.leads_ask_iff]
  constructor
  · rintro ⟨answer, rest, rfl, h⟩
    cases answer with
    | ok _ => exact .inl ⟨rest, rfl, h⟩
    | error error => exact .inr ⟨error, rest, rfl, h⟩
  · rintro (⟨rest, rfl, h⟩ | ⟨error, rest, rfl, h⟩)
    · exact ⟨.ok (), rest, rfl, h⟩
    · exact ⟨.error error, rest, rfl, h⟩

theorem leads_flush_iff :
    (session.flush next).Leads talk progress ↔
      (∃ rest, talk = ⟨.flush, .ok ()⟩ :: rest ∧ next.Leads rest progress) ∨
      ∃ error rest, talk = ⟨.flush, .error error⟩ :: rest ∧
        (session.abandon .writing error).Leads rest progress := by
  unfold flush
  rw [Dialogue.leads_ask_iff]
  constructor
  · rintro ⟨answer, rest, rfl, h⟩
    cases answer with
    | ok _ => exact .inl ⟨rest, rfl, h⟩
    | error error => exact .inr ⟨error, rest, rfl, h⟩
  · rintro (⟨rest, rfl, h⟩ | ⟨error, rest, rfl, h⟩)
    · exact ⟨.ok (), rest, rfl, h⟩
    · exact ⟨.error error, rest, rfl, h⟩

/-! ## Notices -/

/-- The packet is an error notice. -/
def IsNotice (packet : Bytes) : Prop :=
  ∃ code message, packet = Packet.encodeError code message

/-- Nothing was done but to send notices. -/
def Quiet (talk : Talk) : Prop :=
  ∀ said ∈ talk, ∃ destination packet, said.1 = .send destination packet ∧ IsNotice packet

/-- The session has failed and said so at most. -/
def Fails (talk : Talk) (progress : Progress) : Prop :=
  Quiet talk ∧ ∃ last error, progress = .ended last (.error error)

theorem quiet_nil : Quiet [] :=
  fun _ hmem ↦ absurd hmem List.not_mem_nil

theorem quiet_notice {destination : SocketAddress} {code : UInt16} {message : String}
    {answer : Except SystemError Unit} :
    Quiet [⟨.send destination (Packet.encodeError code message), answer⟩] := by
  intro said hmem
  cases List.mem_singleton.mp hmem
  exact ⟨_, _, rfl, _, _, rfl⟩

theorem fails_of_fail {error : TransferError} (leads : (session.fail error).Leads talk progress) :
    Fails talk progress := by
  obtain ⟨rfl, rfl⟩ := leads_fail_iff.mp leads
  exact ⟨quiet_nil, _, _, rfl⟩

theorem fails_of_reject {reason : String} (leads : (session.reject reason).Leads talk progress) :
    Fails talk progress := by
  obtain ⟨⟨answer, rfl⟩, rfl⟩ := leads_reject_iff.mp leads
  exact ⟨quiet_notice, _, _, rfl⟩

theorem fails_of_abandon {use : SystemError.Use} {error : SystemError}
    (leads : (session.abandon use error).Leads talk progress) : Fails talk progress := by
  obtain ⟨⟨answer, rfl⟩, rfl⟩ := leads_abandon_iff.mp leads
  exact ⟨quiet_notice, _, _, rfl⟩

/-! ## Everything that was said -/

/-- Everything that was said. -/
def saying (first : Talk) (record : List Reaction) : Talk :=
  first ++ record.flatMap Reaction.talk

theorem saying_snoc (first : Talk) (earlier : List Reaction) (reaction : Reaction) :
    saying first (earlier ++ [reaction]) = saying first earlier ++ reaction.talk := by
  unfold saying
  rw [List.flatMap_append, List.flatMap_singleton, List.append_assoc]

/-- The session goes on with the same transfer, whoever its peer is. -/
structure SameTask (served session : Session) : Prop where
  block_eq : served.block = session.block
  mode_eq : served.mode = session.mode

/-! ## Peers and strangers -/

/-- Somebody else than the peer; as long as only the host of the peer is known, somebody on another
host. -/
def IsStranger (session : Session) (source : SocketAddress) : Prop :=
  if session.bound then source ≠ session.peer else source.ip ≠ session.peer.ip

instance (session : Session) : DecidablePred session.IsStranger := fun source ↦
  inferInstanceAs (Decidable
    (if session.bound then source ≠ session.peer else source.ip ≠ session.peer.ip))

theorem isStranger_iff_of_bound {source : SocketAddress} (bound : session.bound = true) :
    session.IsStranger source ↔ source ≠ session.peer :=
  iff_of_eq (if_pos bound)

theorem isStranger_iff_of_unbound {source : SocketAddress} (unbound : session.bound = false) :
    session.IsStranger source ↔ source.ip ≠ session.peer.ip :=
  iff_of_eq (if_neg (by simp [unbound]))

/-- The session when a datagram of the peer has come from `source`. -/
def boundTo (session : Session) (source : SocketAddress) : Session :=
  { session with peer := source, bound := true }

theorem admit?_of_stranger {source : SocketAddress} (h : session.IsStranger source) :
    session.admit? source = none := by
  unfold IsStranger at h
  unfold admit?
  split at h
  · next hbound => rw [if_pos hbound, if_neg h]
  · next hbound => rw [if_neg hbound, if_neg h]

theorem admit?_of_peer {source : SocketAddress} (h : ¬ session.IsStranger source) :
    session.admit? source = some (session.boundTo source) := by
  unfold IsStranger at h
  unfold admit? boundTo
  split at h
  · next hbound =>
    rw [Decidable.not_not] at h
    rw [if_pos hbound, if_pos h, h, ← hbound]
  · next hbound =>
    rw [Decidable.not_not] at h
    rw [if_neg hbound, if_pos h]

theorem arrive_of_stranger {source : SocketAddress} (h : session.IsStranger source)
    (datagram : Bytes) (now : Nat) :
    session.react exchange (.arrival source datagram) now =
      notify source .unknownTransferId ErrorCode.unknownTransferId.defaultMessage
        (session.await exchange) := by
  simp only [react, arrive, admit?_of_stranger h]

theorem arrive_of_peer {source : SocketAddress} (h : ¬ session.IsStranger source)
    (datagram : Bytes) (now : Nat) :
    session.react exchange (.arrival source datagram) now =
      (session.boundTo source).read exchange datagram now := by
  simp only [react, arrive, admit?_of_peer h]

/-! ## Events -/

/-- The event brings no packet of the peer, except for an error notice. -/
def Unread (session : Session) (event : Event) : Prop :=
  ∀ {source datagram packet}, event = .arrival source datagram → ¬ session.IsStranger source →
    Packet.decode datagram = .ok packet → ∃ notice, packet = .error notice

/-- What a session does about an event, whatever the packet is that it waits for. -/
inductive Attends (session : Session) (exchange : Exchange) (event : Event) (now : Nat) :
    Talk → Progress → Prop
  | passed {talk : Talk} {served : Session} (task : served.SameTask session)
      (unread : session.Unread event) (quiet : Quiet talk) :
      Attends session exchange event now talk (.waiting served exchange)
  | failed {talk : Talk} {progress : Progress} (unread : session.Unread event)
      (fails : Fails talk progress) : Attends session exchange event now talk progress
  | repeated {talk : Talk} {progress : Progress} {attempts deadline : Nat}
      (expired : event = .expiry)
      (leads : (session.sendToPeer exchange.outstanding
        (session.await { exchange with attempts, deadline })).Leads talk progress) :
      Attends session exchange event now talk progress
  | took {talk : Talk} {progress : Progress} {source : SocketAddress} {datagram : Bytes}
      {packet : Packet} (arrived : event = .arrival source datagram)
      (peer : ¬ session.IsStranger source) (decoded : Packet.decode datagram = .ok packet)
      (leads : ((session.boundTo source).take exchange packet now).Leads talk progress) :
      Attends session exchange event now talk progress

theorem attends_of_arrive {event : Event} {source : SocketAddress} {datagram : Bytes} {now : Nat}
    (arrived : event = .arrival source datagram)
    (leads : (session.react exchange event now).Leads talk progress) :
    Attends session exchange event now talk progress := by
  subst arrived
  by_cases stranger : session.IsStranger source
  · rw [arrive_of_stranger stranger] at leads
    obtain ⟨answer, _, rfl, hawait⟩ := leads_notify_iff.mp leads
    obtain ⟨rfl, rfl⟩ := leads_await_iff.mp hawait
    refine .passed ⟨rfl, rfl⟩ ?_ quiet_notice
    rintro _ _ _ ⟨⟩ peer
    exact absurd stranger peer
  rw [arrive_of_peer stranger] at leads
  unfold read at leads
  cases hdecode : Packet.decode datagram with
  | error error =>
    rw [hdecode] at leads
    refine .failed ?_ (fails_of_reject leads)
    rintro _ _ _ ⟨⟩ - hpacket
    cases hdecode.symm.trans hpacket
  | ok packet =>
    rw [hdecode] at leads
    cases packet with
    | error notice =>
      have unread : session.Unread (.arrival source datagram) := by
        rintro _ _ _ ⟨⟩ - hpacket
        cases hdecode.symm.trans hpacket
        exact ⟨notice, rfl⟩
      dsimp only at leads
      split at leads
      · obtain ⟨rfl, rfl⟩ := leads_await_iff.mp leads
        exact .passed ⟨rfl, rfl⟩ unread quiet_nil
      · exact .failed unread (fails_of_fail leads)
    | _ => exact .took rfl stranger hdecode leads

theorem attends_of_leads {event : Event} {now : Nat}
    (leads : (session.react exchange event now).Leads talk progress) :
    Attends session exchange event now talk progress := by
  cases event with
  | arrival source datagram => exact attends_of_arrive rfl leads
  | receiveError error =>
    unfold react trip at leads
    dsimp only at leads
    split at leads
    · obtain ⟨rfl, rfl⟩ := leads_await_iff.mp leads
      exact .passed ⟨rfl, rfl⟩ nofun quiet_nil
    · exact .failed nofun (fails_of_fail leads)
  | expiry =>
    unfold react expire at leads
    dsimp only at leads
    split at leads
    · exact .failed nofun (fails_of_fail leads)
    · exact .repeated rfl leads

/-! ## Sessions with their streams -/

/-- What happens to a session, and the machine that it finds then. -/
structure Incident where
  event : Event
  now : Nat
  machine : Machine := {}

/-- What a session said in its first turn and did since then, and what it and its stream have come
to. -/
structure Chronicle where
  first : Talk
  record : List Reaction := []
  progress : Progress
  stream : Stream

namespace Chronicle

/-- The session takes its first turn, with the stream and a machine. -/
def started (socket : SocketAddress) (turn : Turn Progress) (stream : Stream)
    (machine : Machine) : Chronicle :=
  let came := turn.run (Stream.reply socket) (stream, machine)
  { first := turn.transcript (Stream.reply socket) (stream, machine)
    progress := came.1
    stream := came.2.1 }

/-- The session, which waits, reacts. -/
def extend (socket : SocketAddress) (chronicle : Chronicle) (session : Session)
    (exchange : Exchange) (incident : Incident) : Chronicle :=
  let turn := session.react exchange incident.event incident.now
  let came := turn.run (Stream.reply socket) (chronicle.stream, incident.machine)
  { first := chronicle.first
    record := chronicle.record ++ [{
      session, exchange, event := incident.event, now := incident.now
      talk := turn.transcript (Stream.reply socket) (chronicle.stream, incident.machine)
      progress := came.1 }]
    progress := came.1
    stream := came.2.1 }

/-- The session reacts, if it has not ended. -/
def react (socket : SocketAddress) (chronicle : Chronicle) (incident : Incident) : Chronicle :=
  match chronicle.progress with
  | .ended _ _ => chronicle
  | .waiting session exchange => chronicle.extend socket session exchange incident

/-- One incident follows the other. -/
def lead (socket : SocketAddress) (turn : Turn Progress) (stream : Stream) (machine : Machine)
    (incidents : List Incident) : Chronicle :=
  incidents.foldl (react socket) (started socket turn stream machine)

variable {socket : SocketAddress} {turn : Turn Progress} {stream : Stream} {machine : Machine}
  {incidents : List Incident}

theorem saying_started (socket : SocketAddress) (turn : Turn Progress) (stream : Stream)
    (machine : Machine) :
    saying (started socket turn stream machine).first (started socket turn stream machine).record =
      turn.transcript (Stream.reply socket) (stream, machine) := by
  rw [saying, started, List.flatMap_nil, List.append_nil]

theorem saying_extend (socket : SocketAddress) (chronicle : Chronicle) (session : Session)
    (exchange : Exchange) (incident : Incident) :
    saying (chronicle.extend socket session exchange incident).first
        (chronicle.extend socket session exchange incident).record =
      saying chronicle.first chronicle.record ++
        (session.react exchange incident.event incident.now).transcript (Stream.reply socket)
          (chronicle.stream, incident.machine) :=
  saying_snoc _ _ _

/-- What holds after the first turn and is kept by every reaction holds in the end. -/
theorem lead_of_extend {P : Chronicle → Prop} (begun : P (started socket turn stream machine))
    (extended : ∀ incident ∈ incidents, ∀ {chronicle session exchange}, P chronicle →
      chronicle.progress = .waiting session exchange →
        P (chronicle.extend socket session exchange incident)) :
    P (lead socket turn stream machine incidents) := by
  unfold lead
  generalize started socket turn stream machine = chronicle at begun
  induction incidents generalizing chronicle with
  | nil => exact begun
  | cons incident incidents ih =>
    obtain ⟨hextended, hrest⟩ := List.forall_mem_cons.mp extended
    refine ih hrest _ ?_
    unfold react
    split
    · exact begun
    · next hprogress => exact hextended begun hprogress

/-- However a session is led with a stream, this is one of its histories. -/
theorem runs_lead (socket : SocketAddress) (turn : Turn Progress) (stream : Stream)
    (machine : Machine) (incidents : List Incident) :
    Runs turn (lead socket turn stream machine incidents).first
      (lead socket turn stream machine incidents).record
      (lead socket turn stream machine incidents).progress := by
  refine lead_of_extend (P := fun chronicle ↦
    Runs turn chronicle.first chronicle.record chronicle.progress) ?_ ?_
  · exact .begun (Dialogue.leads_transcript _ _ _)
  · intro incident _ chronicle session exchange run waiting
    rw [waiting] at run
    exact run.reacted incident.event incident.now (Dialogue.leads_transcript _ _ _)

end Chronicle

/-! ## One history -/

/-- A session that receives from a peer on the same host, when it waits for the first block. -/
def localReceiver : Session :=
  { Session.accepted ⟨.localhost .four, 1069, 0⟩ .octet {} with stage := .transferring }

def localWait : Exchange :=
  { outstanding := Packet.encodeAck 0, deadline := 1500, summary := {}, awaited := .data {} }

/-- It takes a short block and completes. -/
def localArrival : Reaction where
  session := localReceiver
  exchange := localWait
  event := .arrival ⟨.localhost .four, 1069, 0⟩ (Packet.encodeData 1 [104, 105])
  now := 1000
  talk := [⟨.write [104, 105], .ok ()⟩, ⟨.write [], .ok ()⟩, ⟨.flush, .ok ()⟩,
    ⟨.send ⟨.localhost .four, 1069, 0⟩ (Packet.encodeAck 1), .ok ()⟩]
  progress := .ended { localReceiver with block := 2, stage := .completed } (.ok ⟨1, 2⟩)

/-- What the local session says to its surroundings if nothing goes wrong there. -/
theorem localArrival_leads :
    (localReceiver.react localWait localArrival.event 1000).Leads localArrival.talk
      localArrival.progress :=
  Dialogue.leads_transcript (Stream.reply ⟨.localhost .four, 2069, 0⟩) _ (.sink {}, {})

theorem local_runs :
    Runs (localReceiver.receive (Packet.encodeAck 0) 0)
      [⟨.send ⟨.localhost .four, 1069, 0⟩ (Packet.encodeAck 0), .ok ()⟩] []
      (.waiting localReceiver localWait) :=
  .begun (Dialogue.leads_transcript (Stream.reply ⟨.localhost .four, 2069, 0⟩) _ (.sink {}, {}))

end Session

end Lockstep
