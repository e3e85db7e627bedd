import Lockstep.Proofs.Disavowals
import Lockstep.Proofs.Outcomes
import Mathlib.Data.List.Induction

/-!
# Patience of a session

A session that waits in vain gives up after as many timeouts as it has in its budget, each of which
is one timeout behind the one before. Nothing that it overlooks makes the wait longer: not what a
stranger sends, not a disavowal, and not what the peer repeats, however often it comes and however
close to the deadline. No time passes in a turn here, and the timer goes off when the deadline has
come.
-/

namespace Lockstep.Session

/-! ## Waiting in vain -/

/-- The peer sends a block that is behind the awaited one. -/
def isOldBlock (session : Session) (exchange : Exchange) (event : Event) : Bool :=
  match event, exchange.awaited with
  | .arrival source datagram, .data _ =>
    match Packet.decode datagram with
    | .ok (.data block _) => decide (¬ session.IsStranger source) && block.isStale session.block
    | _ => false
  | _, _ => false

/-- The peer acknowledges what is behind the awaited acknowledgment. -/
def isOldAcknowledgment (session : Session) (exchange : Exchange) (event : Event) : Bool :=
  match event, session.expected? exchange with
  | .arrival source datagram, some expected =>
    match Packet.decode datagram with
    | .ok (.ack block) => decide (¬ session.IsStranger source) && block.isStale expected
    | _ => false
  | _, _ => false

/-- The event is none that the session has been waiting for. -/
inductive IsVain (session : Session) (exchange : Exchange) (event : Event) : Prop
  | foreign (foreign : session.IsForeign event)
  | disavowed (disavowed : session.IsDisavowed event)
  | oldBlock (old : session.isOldBlock exchange event = true)
  | oldAcknowledgment (old : session.isOldAcknowledgment exchange event = true)

/-- The timeouts that end a wait. -/
def patience (session : Session) : Nat :=
  max 1 session.config.maxRetries

/-- When the latest wait of a session began that began itself at `start`: at once, or when it got
what it had waited for before. -/
inductive WaitsSince (start : Nat) : List Reaction → Nat → Prop
  | start : WaitsSince start [] start
  | obtained {earlier : List Reaction} {reaction : Reaction}
      (obtains : reaction.session.Obtains reaction.exchange reaction.event) :
    WaitsSince start (earlier ++ [reaction]) reaction.now

/-- What happens in a world in which a session waits in vain. -/
structure Vainly (session : Session) (exchange : Exchange) (began : Nat) (later : List Reaction) :
    Prop where
  ordered : (began :: later.map Reaction.now).Pairwise (· ≤ ·)
  vain : ∀ reaction ∈ later,
    reaction.event = .expiry ∨ session.IsVain exchange reaction.event
  /-- Nothing happens behind a deadline, and the timer goes off at the deadline. -/
  punctual : ∀ reaction ∈ later, reaction.now ≤ reaction.exchange.deadline ∧
    (reaction.event = .expiry → reaction.now = reaction.exchange.deadline)
  /-- What is for the peer leaves. -/
  unhindered : ∀ reaction ∈ later, ∀ {packet error},
    (⟨.send session.peer packet, .error error⟩ : Sigma Answer) ∉ reaction.talk

/-- The timeouts among the reactions. -/
def timeouts (record : List Reaction) : List Reaction :=
  record.filter fun reaction ↦ reaction.event = .expiry

/-- What happened besides, and when. -/
def arrivals (record : List Reaction) : List (Nat × Event) :=
  (record.filter fun reaction ↦ reaction.event ≠ .expiry).map
    fun reaction ↦ (reaction.now, reaction.event)

/-- How often the packet was sent there. -/
def copies (destination : SocketAddress) (packet : Bytes) (record : List Reaction) : Nat :=
  (record.flatMap Reaction.talk).countP fun said ↦ said.1 = .send destination packet

/-- What has become of a session that has waited in vain since `began`. -/
structure Endures (session : Session) (exchange : Exchange) (began : Nat) (later : List Reaction)
    (progress : Progress) : Prop where
  /-- The timeouts come one after the other at the same distance. -/
  times : (timeouts later).map Reaction.now =
    (List.range (timeouts later).length).map fun index ↦
      began + (index + 1) * session.config.timeout
  /-- The session waits for the next one, or has failed with the last one. -/
  stands : (timeouts later).length < session.patience ∧
      progress = .waiting session { exchange with
        attempts := (timeouts later).length
        deadline := began + ((timeouts later).length + 1) * session.config.timeout } ∨
    (timeouts later).length = session.patience ∧
      progress = .ended { session with stage := .failed } (.error (.timeout session.patience)) ∧
      ∃ before last, later = before ++ [last] ∧ last.event = .expiry ∧
        last.now = began + session.patience * session.config.timeout
  /-- Nothing happens later than that. -/
  within : ∀ reaction ∈ later, reaction.now ≤ began + session.patience * session.config.timeout
  /-- Every timeout but the last one has the outstanding packet sent again. -/
  repeated : copies session.peer exchange.outstanding (timeouts later) =
    min (timeouts later).length (session.patience - 1)
  /-- So does every old block. -/
  copied : copies session.peer exchange.outstanding later =
    min (timeouts later).length (session.patience - 1) +
      later.countP fun reaction ↦ session.isOldBlock exchange reaction.event
  /-- A session that awaits an acknowledgment is not moved by anything else. -/
  unmoved : (session.expected? exchange).isSome →
    copies session.peer exchange.outstanding later =
      min (timeouts later).length (session.patience - 1)
  /-- Nothing else was done but to tell strangers that they are. -/
  others : ∀ reaction ∈ later, ∀ said ∈ reaction.talk, ∃ destination packet,
    said.1 = .send destination packet ∧
      (destination = session.peer ∧ packet = exchange.outstanding ∨
        destination ≠ session.peer ∧ packet = unknownTransfer)

/-- The patience of a session that waits since `began`, after its reactions so far. -/
structure Patient (turn : Turn Progress) (first : Talk) (earlier : List Reaction)
    (session : Session) (exchange : Exchange) (began : Nat) : Prop where
  /-- However long it waits in vain, that is what becomes of it. -/
  endures : ∀ {later : List Reaction} {progress : Progress},
    Runs turn first (earlier ++ later) progress → Vainly session exchange began later →
      Endures session exchange began later progress
  /-- Whatever comes meanwhile, it may wait in vain to the end. -/
  exhausted : ∀ incoming : List (Nat × Event),
    (began :: incoming.map Prod.fst).Pairwise (· ≤ ·) →
    (∀ arrival ∈ incoming, arrival.1 ≤ began + session.patience * session.config.timeout ∧
      session.IsVain exchange arrival.2) →
    ∃ later, Vainly session exchange began later ∧ arrivals later = incoming ∧
      Runs turn first (earlier ++ later)
        (.ended { session with stage := .failed } (.error (.timeout session.patience)))

variable {session : Session} {exchange : Exchange} {event : Event} {now : Nat}
  {talk : Talk} {progress : Progress}

/-! ## Vain events -/

theorem isOldBlock_iff : session.isOldBlock exchange event = true ↔
    ∃ source datagram block payload decoder, event = .arrival source datagram ∧
      ¬ session.IsStranger source ∧ exchange.awaited = .data decoder ∧
      Packet.decode datagram = .ok (.data block payload) ∧ block.isStale session.block := by
  unfold isOldBlock
  constructor
  · intro h
    split at h
    · next source datagram decoder awaited =>
      split at h
      · next block payload decoded =>
        obtain ⟨peer, stale⟩ := Bool.and_eq_true_iff.mp h
        exact ⟨source, datagram, block, payload, decoder, rfl, of_decide_eq_true peer, awaited,
          decoded, stale⟩
      · cases h
    · cases h
  · rintro ⟨source, datagram, block, payload, decoder, rfl, peer, awaited, decoded, stale⟩
    simp only [awaited, decoded, stale, Bool.and_true, decide_eq_true_eq]
    exact peer

theorem isOldAcknowledgment_iff : session.isOldAcknowledgment exchange event = true ↔
    ∃ source datagram block expected, event = .arrival source datagram ∧
      ¬ session.IsStranger source ∧ session.expected? exchange = some expected ∧
      Packet.decode datagram = .ok (.ack block) ∧ block.isStale expected := by
  unfold isOldAcknowledgment
  constructor
  · intro h
    split at h
    · next source datagram expected awaited =>
      split at h
      · next block decoded =>
        obtain ⟨peer, stale⟩ := Bool.and_eq_true_iff.mp h
        exact ⟨source, datagram, block, expected, rfl, of_decide_eq_true peer, awaited, decoded,
          stale⟩
      · cases h
    · cases h
  · rintro ⟨source, datagram, block, expected, rfl, peer, awaited, decoded, stale⟩
    simp only [awaited, decoded, stale, Bool.and_true, decide_eq_true_eq]
    exact peer

/-- An old block has the outstanding packet sent again. -/
theorem react_of_isOldBlock (bound : session.bound = true)
    (old : session.isOldBlock exchange event = true) :
    session.react exchange event now =
      session.sendToPeer exchange.outstanding (session.await exchange) := by
  obtain ⟨source, datagram, block, payload, decoder, rfl, peer, awaited, decoded, stale⟩ :=
    isOldBlock_iff.mp old
  obtain rfl := Decidable.not_not.mp (mt (isStranger_iff_of_bound bound).mpr peer)
  rw [react_of_stale_data awaited peer decoded stale, boundTo_peer bound]

/-- Nothing is done about an old acknowledgment. -/
theorem react_of_isOldAcknowledgment (bound : session.bound = true)
    (old : session.isOldAcknowledgment exchange event = true) :
    session.react exchange event now = session.await exchange := by
  obtain ⟨source, datagram, block, expected, rfl, peer, awaited, decoded, stale⟩ :=
    isOldAcknowledgment_iff.mp old
  obtain rfl := Decidable.not_not.mp (mt (isStranger_iff_of_bound bound).mpr peer)
  rw [react_of_stale_ack awaited peer decoded stale, boundTo_peer bound]

/-- All that a session says about a vain event, if what is for its peer leaves. -/
inductive Murmurs (session : Session) (exchange : Exchange) (event : Event) : Talk → Prop
  | nothing (other : session.isOldBlock exchange event = false) :
    Murmurs session exchange event []
  | notice {source : SocketAddress} (stranger : source ≠ session.peer)
      (other : session.isOldBlock exchange event = false) (answer : Except SystemError Unit) :
    Murmurs session exchange event [⟨.send source unknownTransfer, answer⟩]
  | again (old : session.isOldBlock exchange event = true) :
    Murmurs session exchange event [⟨.send session.peer exchange.outstanding, .ok ()⟩]

/-- A foreign event brings no old block. -/
theorem isOldBlock_of_isForeign (foreign : session.IsForeign event) :
    session.isOldBlock exchange event = false := by
  rw [Bool.eq_false_iff]
  intro old
  obtain ⟨source, datagram, block, payload, decoder, rfl, peer, -⟩ := isOldBlock_iff.mp old
  exact peer foreign

theorem isOldBlock_of_isDisavowed (disavowed : session.IsDisavowed event) :
    session.isOldBlock exchange event = false := by
  rw [Bool.eq_false_iff]
  intro old
  obtain ⟨source, datagram, block, payload, decoder, rfl, -, -, decoded, -⟩ := isOldBlock_iff.mp old
  obtain ⟨-, -, notice, decoded', -⟩ := disavowed
  cases decoded.symm.trans decoded'

theorem isOldBlock_of_expected {number : BlockNumber}
    (expected : session.expected? exchange = some number) (event : Event) :
    session.isOldBlock exchange event = false := by
  rw [Bool.eq_false_iff]
  intro old
  obtain ⟨_, _, _, _, decoder, -, -, awaited, -⟩ := isOldBlock_iff.mp old
  rw [expected?, awaited] at expected
  cases expected

theorem isOldBlock_of_isOldAcknowledgment
    (old : session.isOldAcknowledgment exchange event = true) :
    session.isOldBlock exchange event = false := by
  obtain ⟨_, _, _, number, -, -, expected, -⟩ := isOldAcknowledgment_iff.mp old
  exact isOldBlock_of_expected expected event

/-- A vain event leaves the session and its wait as they are. -/
theorem IsVain.murmurs (vain : session.IsVain exchange event) (bound : session.bound = true)
    (leads : (session.react exchange event now).Leads talk progress)
    (unhindered : ∀ {packet error},
      (⟨.send session.peer packet, .error error⟩ : Sigma Answer) ∉ talk) :
    Murmurs session exchange event talk ∧ progress = .waiting session exchange := by
  cases vain with
  | foreign foreign =>
    obtain ⟨unheeded, hprogress⟩ := (leads_foreign_iff foreign).mp leads
    refine ⟨?_, hprogress⟩
    have other : session.isOldBlock exchange event = false := isOldBlock_of_isForeign foreign
    cases unheeded with
    | stranger source datagram answer =>
      exact .notice ((isStranger_iff_of_bound bound).mp foreign) other answer
    | bounce error => exact .nothing other
  | disavowed disavowed =>
    obtain ⟨rfl, hprogress⟩ := (leads_disavowed_iff disavowed).mp leads
    exact ⟨.nothing (isOldBlock_of_isDisavowed disavowed), hprogress⟩
  | oldBlock old =>
    rw [react_of_isOldBlock bound old] at leads
    rcases leads_sendToPeer_iff.mp leads with ⟨_, rfl, hawait⟩ | ⟨error, rfl, -⟩
    · obtain ⟨rfl, hprogress⟩ := leads_await_iff.mp hawait
      exact ⟨.again old, hprogress⟩
    · exact absurd List.mem_cons_self unhindered
  | oldAcknowledgment old =>
    rw [react_of_isOldAcknowledgment bound old] at leads
    obtain ⟨rfl, hprogress⟩ := leads_await_iff.mp leads
    exact ⟨.nothing (isOldBlock_of_isOldAcknowledgment old), hprogress⟩

theorem IsVain.retimed (vain : session.IsVain exchange event) (attempts deadline : Nat) :
    session.IsVain { exchange with attempts, deadline } event := by
  cases vain with
  | foreign foreign => exact .foreign foreign
  | disavowed disavowed => exact .disavowed disavowed
  | oldBlock old => exact .oldBlock old
  | oldAcknowledgment old => exact .oldAcknowledgment old

/-- It can come at any time. -/
theorem IsVain.exists_leads (vain : session.IsVain exchange event) (bound : session.bound = true)
    (now : Nat) :
    ∃ talk, (session.react exchange event now).Leads talk (.waiting session exchange) ∧
      ∀ {packet error}, (⟨.send session.peer packet, .error error⟩ : Sigma Answer) ∉ talk := by
  cases vain with
  | foreign foreign =>
    cases event with
    | arrival source datagram =>
      refine ⟨_, (leads_foreign_iff foreign).mpr ⟨.stranger source datagram (.ok ()), rfl⟩, ?_⟩
      intro packet error hmem
      cases List.mem_singleton.mp hmem
    | receiveError error =>
      exact ⟨_, (leads_foreign_iff foreign).mpr ⟨.bounce error, rfl⟩, List.not_mem_nil⟩
    | expiry => exact foreign.elim
  | disavowed disavowed =>
    exact ⟨_, (leads_disavowed_iff disavowed).mpr ⟨rfl, rfl⟩, List.not_mem_nil⟩
  | oldBlock old =>
    rw [react_of_isOldBlock bound old]
    refine ⟨_, leads_sendToPeer_iff.mpr (.inl ⟨[], rfl, leads_await_iff.mpr ⟨rfl, rfl⟩⟩), ?_⟩
    intro packet error hmem
    cases List.mem_singleton.mp hmem
  | oldAcknowledgment old =>
    rw [react_of_isOldAcknowledgment bound old]
    exact ⟨_, leads_await_iff.mpr ⟨rfl, rfl⟩, List.not_mem_nil⟩

/-! ## Timeouts -/

/-- As long as the session has patience left, a timeout has the outstanding packet sent again. -/
theorem react_expiry_of_lt (bound : session.bound = true)
    (more : exchange.attempts + 1 < session.patience) :
    session.react exchange .expiry now = session.sendToPeer exchange.outstanding
      (session.await { exchange with
        attempts := exchange.attempts + 1, deadline := now + session.config.timeout }) := by
  have within : ¬ exchange.attempts + 1 ≥ session.retryBudget := by
    unfold patience at more
    rw [retryBudget, if_pos bound]
    omega
  exact if_neg within

theorem react_expiry_of_le (bound : session.bound = true)
    (enough : session.patience ≤ exchange.attempts + 1) :
    session.react exchange .expiry now = session.fail (.timeout (exchange.attempts + 1)) := by
  have beyond : exchange.attempts + 1 ≥ session.retryBudget := by
    unfold patience at enough
    rw [retryBudget, if_pos bound]
    omega
  exact if_pos beyond

/-- What a session comes to at its deadline, if what is for its peer leaves. -/
inductive Expires (session : Session) (exchange : Exchange) (now : Nat) : Talk → Progress → Prop
  | again (more : exchange.attempts + 1 < session.patience) :
    Expires session exchange now [⟨.send session.peer exchange.outstanding, .ok ()⟩]
      (.waiting session { exchange with
        attempts := exchange.attempts + 1, deadline := now + session.config.timeout })
  | spent (enough : session.patience ≤ exchange.attempts + 1) :
    Expires session exchange now []
      (.ended { session with stage := .failed } (.error (.timeout (exchange.attempts + 1))))

theorem expires_of_leads (bound : session.bound = true)
    (leads : (session.react exchange .expiry now).Leads talk progress)
    (unhindered : ∀ {packet error},
      (⟨.send session.peer packet, .error error⟩ : Sigma Answer) ∉ talk) :
    Expires session exchange now talk progress := by
  rcases Nat.lt_or_ge (exchange.attempts + 1) session.patience with more | enough
  · rw [react_expiry_of_lt bound more] at leads
    rcases leads_sendToPeer_iff.mp leads with ⟨_, rfl, hawait⟩ | ⟨error, rfl, -⟩
    · obtain ⟨rfl, rfl⟩ := leads_await_iff.mp hawait
      exact .again more
    · exact absurd List.mem_cons_self unhindered
  · rw [react_expiry_of_le bound enough] at leads
    obtain ⟨rfl, rfl⟩ := leads_fail_iff.mp leads
    exact .spent enough

theorem Expires.said (expires : Expires session exchange now talk progress) :
    ∀ said ∈ talk, said.1 = .send session.peer exchange.outstanding := by
  intro said hmem
  cases expires with
  | again more => rw [List.mem_singleton.mp hmem]
  | spent enough => exact absurd hmem List.not_mem_nil

/-- All timeouts but the last one count. -/
theorem Expires.countP (expires : Expires session exchange now talk progress)
    (unspent : exchange.attempts < session.patience) :
    min exchange.attempts (session.patience - 1) +
        (talk.countP fun said ↦ said.1 = .send session.peer exchange.outstanding) =
      min (exchange.attempts + 1) (session.patience - 1) := by
  cases expires with
  | again more =>
    simp only [decide_true, List.countP_singleton, if_true]
    omega
  | spent enough =>
    rw [List.countP_nil]
    omega

/-! ## Histories -/

theorem IsVain.ne_expiry (vain : session.IsVain exchange event) : event ≠ .expiry := by
  rintro rfl
  cases vain with
  | foreign foreign => exact foreign
  | disavowed disavowed => exact disavowed
  | oldBlock old => cases old
  | oldAcknowledgment old =>
    obtain ⟨_, _, _, _, harrival, -⟩ := isOldAcknowledgment_iff.mp old
    cases harrival

/-- What is said about a vain event. -/
theorem Murmurs.others (murmurs : Murmurs session exchange event talk) :
    ∀ said ∈ talk, ∃ destination packet, said.1 = .send destination packet ∧
      (destination = session.peer ∧ packet = exchange.outstanding ∨
        destination ≠ session.peer ∧ packet = unknownTransfer) := by
  intro said hmem
  cases murmurs with
  | nothing other => exact absurd hmem List.not_mem_nil
  | notice stranger other answer =>
    cases List.mem_singleton.mp hmem
    exact ⟨_, _, rfl, .inr ⟨stranger, rfl⟩⟩
  | again old =>
    cases List.mem_singleton.mp hmem
    exact ⟨_, _, rfl, .inl ⟨rfl, rfl⟩⟩

theorem Murmurs.countP (murmurs : Murmurs session exchange event talk) :
    (talk.countP fun said ↦ said.1 = .send session.peer exchange.outstanding) =
      (session.isOldBlock exchange event).toNat := by
  cases murmurs with
  | nothing other => simp [other]
  | notice stranger other answer => simp [other, stranger]
  | again old => simp [old]

variable {earlier later front : List Reaction} {last : Reaction} {began : Nat}

theorem timeouts_snoc_of_eq (expired : last.event = .expiry) :
    timeouts (front ++ [last]) = timeouts front ++ [last] := by
  simp [timeouts, expired]

theorem timeouts_snoc_of_ne (other : last.event ≠ .expiry) :
    timeouts (front ++ [last]) = timeouts front := by
  simp [timeouts, other]

theorem copies_snoc (destination : SocketAddress) (packet : Bytes) :
    copies destination packet (front ++ [last]) = copies destination packet front +
      last.talk.countP fun said ↦ said.1 = .send destination packet := by
  simp [copies]

namespace Endures

/-- The wait has begun. -/
theorem start (attempts_eq : exchange.attempts = 0)
    (deadline_eq : exchange.deadline = began + session.config.timeout) :
    Endures session exchange began [] (.waiting session exchange) where
  times := rfl
  stands := by
    obtain ⟨outstanding, deadline, attempts, summary, awaited⟩ := exchange
    cases attempts_eq
    cases deadline_eq
    refine .inl ⟨Nat.lt_of_lt_of_le Nat.zero_lt_one (Nat.le_max_left _ _), ?_⟩
    simp [timeouts]
  within := fun _ hmem ↦ absurd hmem List.not_mem_nil
  repeated := (Nat.zero_min _).symm
  copied := (Nat.zero_min (session.patience - 1)).symm
  unmoved := fun _ ↦ (Nat.zero_min _).symm
  others := fun _ hmem ↦ absurd hmem List.not_mem_nil

/-- How a session waits that has waited in vain so far. -/
theorem waits {current : Session} {current' : Exchange}
    (h : Endures session exchange began front (.waiting current current')) :
    (timeouts front).length < session.patience ∧ current = session ∧
      current' = { exchange with
        attempts := (timeouts front).length
        deadline := began + ((timeouts front).length + 1) * session.config.timeout } := by
  rcases h.stands with ⟨hlt, hprogress⟩ | ⟨-, hprogress, -⟩
  · cases hprogress
    exact ⟨hlt, rfl, rfl⟩
  · cases hprogress

/-- A deadline is not behind the last one. -/
theorem deadline_le {current : Session} {current' : Exchange}
    (h : Endures session exchange began front (.waiting current current')) :
    current'.deadline ≤ began + session.patience * session.config.timeout := by
  obtain ⟨hlt, -, rfl⟩ := h.waits
  exact Nat.add_le_add_left (Nat.mul_le_mul_right _ hlt) _

/-- Another event comes in vain. -/
theorem vain (h : Endures session exchange began front (.waiting last.session last.exchange))
    (bound : session.bound = true) (vain : session.IsVain exchange last.event)
    (within : last.now ≤ last.exchange.deadline)
    (leads : (last.session.react last.exchange last.event last.now).Leads last.talk last.progress)
    (unhindered : ∀ {packet error},
      (⟨.send session.peer packet, .error error⟩ : Sigma Answer) ∉ last.talk) :
    Endures session exchange began (front ++ [last]) last.progress := by
  have hwithin := within.trans h.deadline_le
  obtain ⟨hlt, hsession, hexchange⟩ := h.waits
  rw [hsession, hexchange] at leads
  obtain ⟨murmurs, hprogress⟩ := (vain.retimed _ _).murmurs bound leads unhindered
  have hcount := murmurs.countP
  have htimeouts : timeouts (front ++ [last]) = timeouts front := timeouts_snoc_of_ne vain.ne_expiry
  -- what is an old block depends on what is awaited, and not on the attempts so far
  have hold : session.isOldBlock { exchange with
      attempts := (timeouts front).length
      deadline := began + ((timeouts front).length + 1) * session.config.timeout } last.event =
    session.isOldBlock exchange last.event := rfl
  rw [hold] at hcount
  exact {
    times := by rw [htimeouts]; exact h.times
    stands := by rw [htimeouts]; exact .inl ⟨hlt, hprogress⟩
    within := by
      intro reaction hmem
      rcases List.mem_append.mp hmem with hearlier | hnow
      · exact h.within reaction hearlier
      · exact List.mem_singleton.mp hnow ▸ hwithin
    repeated := by rw [htimeouts]; exact h.repeated
    copied := by
      rw [copies_snoc, htimeouts, h.copied, hcount, List.countP_append, List.countP_singleton,
        Nat.add_assoc]
      cases session.isOldBlock exchange last.event <;> rfl
    unmoved := by
      intro expected
      obtain ⟨number, expected'⟩ := Option.isSome_iff_exists.mp expected
      rw [copies_snoc, htimeouts, h.unmoved expected, hcount,
        isOldBlock_of_expected expected']
      rfl
    others := by
      intro reaction hmem
      rcases List.mem_append.mp hmem with hearlier | hnow
      · exact h.others reaction hearlier
      · exact List.mem_singleton.mp hnow ▸ murmurs.others }

/-- Another timeout. -/
theorem expiry (h : Endures session exchange began front (.waiting last.session last.exchange))
    (bound : session.bound = true) (expired : last.event = .expiry)
    (punctual : last.now = last.exchange.deadline)
    (leads : (last.session.react last.exchange last.event last.now).Leads last.talk last.progress)
    (unhindered : ∀ {packet error},
      (⟨.send session.peer packet, .error error⟩ : Sigma Answer) ∉ last.talk) :
    Endures session exchange began (front ++ [last]) last.progress := by
  have hwithin := punctual.le.trans h.deadline_le
  obtain ⟨hlt, hsession, hexchange⟩ := h.waits
  have htimeouts : timeouts (front ++ [last]) = timeouts front ++ [last] :=
    timeouts_snoc_of_eq expired
  have hlength : (timeouts front ++ [last]).length = (timeouts front).length + 1 :=
    List.length_append
  have hnow : last.now = began + ((timeouts front).length + 1) * session.config.timeout := by
    rw [punctual, hexchange]
  have hold : session.isOldBlock exchange last.event = false := by rw [expired]; rfl
  rw [hsession, hexchange, expired] at leads
  have expires := expires_of_leads bound leads unhindered
  have hcount : min (timeouts front).length (session.patience - 1) +
      (last.talk.countP fun said ↦ said.1 = .send session.peer exchange.outstanding) =
        min ((timeouts front).length + 1) (session.patience - 1) := expires.countP hlt
  exact {
    times := by
      rw [htimeouts, List.map_append, h.times, hlength, List.range_succ, List.map_append]
      simp [hnow]
    stands := by
      rw [htimeouts, hlength]
      generalize last.talk = talk, hprogress : last.progress = progress at expires
      cases expires with
      | again more =>
        refine .inl ⟨more, ?_⟩
        rw [hnow, Nat.add_one_mul ((timeouts front).length + 1), ← Nat.add_assoc]
      | spent enough =>
        have hlast : (timeouts front).length + 1 = session.patience := Nat.le_antisymm hlt enough
        dsimp only
        rw [hlast] at hnow ⊢
        exact .inr ⟨rfl, rfl, front, last, rfl, expired, hnow⟩
    within := by
      intro reaction hmem
      rcases List.mem_append.mp hmem with hearlier | hnow
      · exact h.within reaction hearlier
      · exact List.mem_singleton.mp hnow ▸ hwithin
    repeated := by rw [htimeouts, copies_snoc, h.repeated, hlength, hcount]
    copied := by
      rw [copies_snoc, htimeouts, h.copied, hlength, ← hcount, List.countP_append,
        List.countP_singleton, hold]
      simp only [Bool.false_eq_true, if_false]
      omega
    unmoved := by
      intro expected
      rw [copies_snoc, htimeouts, h.unmoved expected, hlength, hcount]
    others := by
      intro reaction hmem
      rcases List.mem_append.mp hmem with hearlier | hnow
      · exact h.others reaction hearlier
      · intro said hsaid
        rw [List.mem_singleton.mp hnow] at hsaid
        exact ⟨_, _, expires.said said hsaid, .inl ⟨rfl, rfl⟩⟩ }

end Endures

namespace Vainly

theorem of_append (h : Vainly session exchange began (front ++ later)) :
    Vainly session exchange began front where
  ordered := by
    have ordered := h.ordered
    rw [List.map_append, ← List.cons_append] at ordered
    exact (List.pairwise_append.mp ordered).1
  vain := fun reaction hmem ↦ h.vain reaction (List.mem_append_left _ hmem)
  punctual := fun reaction hmem ↦ h.punctual reaction (List.mem_append_left _ hmem)
  unhindered := fun reaction hmem ↦ h.unhindered reaction (List.mem_append_left _ hmem)

theorem snoc (h : Vainly session exchange began front)
    (ordered : ∀ time ∈ began :: front.map Reaction.now, time ≤ last.now)
    (vain : last.event = .expiry ∨ session.IsVain exchange last.event)
    (punctual : last.now ≤ last.exchange.deadline ∧
      (last.event = .expiry → last.now = last.exchange.deadline))
    (unhindered : ∀ {packet error},
      (⟨.send session.peer packet, .error error⟩ : Sigma Answer) ∉ last.talk) :
    Vainly session exchange began (front ++ [last]) where
  ordered := by
    rw [List.map_append, ← List.cons_append]
    refine List.pairwise_append.mpr ⟨h.ordered, List.pairwise_singleton _ _, ?_⟩
    intro time hmem now hnow
    rw [List.mem_singleton.mp hnow]
    exact ordered time hmem
  vain := List.forall_mem_append.mpr ⟨h.vain, List.forall_mem_singleton.mpr vain⟩
  punctual := List.forall_mem_append.mpr ⟨h.punctual, List.forall_mem_singleton.mpr punctual⟩
  unhindered := by
    intro reaction hmem packet error
    rcases List.mem_append.mp hmem with hearlier | hnow
    · exact h.unhindered reaction hearlier
    · rw [List.mem_singleton.mp hnow]
      exact unhindered

end Vainly

section

variable {turn : Turn Progress} {first : Talk}

/-- Whatever comes in vain, a session that has just begun to wait endures it. -/
theorem Runs.endures (reached : Runs turn first earlier (.waiting session exchange))
    (bound : session.bound = true) (attempts_eq : exchange.attempts = 0)
    (deadline_eq : exchange.deadline = began + session.config.timeout)
    (run : Runs turn first (earlier ++ later) progress)
    (vainly : Vainly session exchange began later) :
    Endures session exchange began later progress := by
  -- `Endures` holds when nothing has happened yet, and every vain event and timeout preserves it
  induction later using List.reverseRecOn generalizing progress with
  | nil =>
    rw [List.append_nil] at run
    rw [run.unique reached]
    exact .start attempts_eq deadline_eq
  | append_singleton front last ih =>
    rw [← List.append_assoc] at run
    obtain ⟨before, leads⟩ := run.split
    have endures := ih before vainly.of_append
    have hmem : last ∈ front ++ [last] := List.mem_append_right _ (List.mem_singleton_self _)
    rw [← run.progress_of_snoc]
    rcases vainly.vain last hmem with expired | vain
    · exact endures.expiry bound expired ((vainly.punctual last hmem).2 expired) leads
        (vainly.unhindered last hmem)
    · exact endures.vain bound vain (vainly.punctual last hmem).1 leads
        (vainly.unhindered last hmem)

theorem arrivals_snoc_of_eq (expired : last.event = .expiry) :
    arrivals (front ++ [last]) = arrivals front := by
  simp [arrivals, expired]

theorem arrivals_snoc_of_ne (other : last.event ≠ .expiry) :
    arrivals (front ++ [last]) = arrivals front ++ [(last.now, last.event)] := by
  simp [arrivals, other]

/-- A session that has waited in vain so far, at a time that is not behind its deadline. -/
structure Lingers (turn : Turn Progress) (first : Talk) (earlier : List Reaction)
    (session : Session) (exchange : Exchange) (began : Nat) (front : List Reaction)
    (current : Exchange) (now : Nat) : Prop where
  run : Runs turn first (earlier ++ front) (.waiting session current)
  vainly : Vainly session exchange began front
  past : ∀ time ∈ began :: front.map Reaction.now, time ≤ now
  due : now ≤ current.deadline

namespace Lingers

variable {current : Exchange}

/-- Something comes in vain. -/
theorem exists_arrival (h : Lingers turn first earlier session exchange began front current now)
    (bound : session.bound = true) (same : current = { exchange with
      attempts := current.attempts, deadline := current.deadline })
    (vain : session.IsVain exchange event) {time : Nat} (since : now ≤ time)
    (until_deadline : time ≤ current.deadline) :
    ∃ last : Reaction, arrivals (front ++ [last]) = arrivals front ++ [(time, event)] ∧
      Lingers turn first earlier session exchange began (front ++ [last]) current time := by
  have vain' : session.IsVain current event := by
    rw [same]
    exact vain.retimed _ _
  obtain ⟨talk, leads, unhindered⟩ := vain'.exists_leads bound time
  let last : Reaction := ⟨session, current, event, time, talk, .waiting session current⟩
  have ordered : ∀ earlier ∈ began :: front.map Reaction.now, earlier ≤ time :=
    fun earlier hmem ↦ (h.past earlier hmem).trans since
  refine ⟨last, arrivals_snoc_of_ne vain.ne_expiry, ?_, ?_, ?_, until_deadline⟩
  · rw [← List.append_assoc]
    exact h.run.reacted event time leads
  · exact h.vainly.snoc ordered (.inr vain)
      ⟨until_deadline, fun expired ↦ absurd expired vain.ne_expiry⟩ unhindered
  · intro earlier hmem
    rw [List.map_append, ← List.cons_append] at hmem
    rcases List.mem_append.mp hmem with hearlier | hnow
    · exact ordered earlier hearlier
    · exact (List.mem_singleton.mp hnow).le

/-- The timer goes off. -/
theorem exists_timeout (h : Lingers turn first earlier session exchange began front current now)
    {talk : Talk} {progress : Progress}
    (leads : (session.react current .expiry current.deadline).Leads talk progress)
    (unhindered : ∀ {packet error},
      (⟨.send session.peer packet, .error error⟩ : Sigma Answer) ∉ talk) :
    ∃ last : Reaction, last.event = .expiry ∧ last.now = current.deadline ∧
      Vainly session exchange began (front ++ [last]) ∧
      Runs turn first (earlier ++ (front ++ [last])) progress := by
  let last : Reaction := ⟨session, current, .expiry, current.deadline, talk, progress⟩
  refine ⟨last, rfl, rfl, ?_, ?_⟩
  · exact h.vainly.snoc (fun time hmem ↦ (h.past time hmem).trans h.due) (.inl rfl)
      ⟨Nat.le_refl _, fun _ ↦ rfl⟩ unhindered
  · rw [← List.append_assoc]
    exact h.run.reacted .expiry current.deadline leads

/-- The timer goes off, and the session goes on. -/
theorem exists_retry (h : Lingers turn first earlier session exchange began front current now)
    (bound : session.bound = true) (more : current.attempts + 1 < session.patience) :
    ∃ last : Reaction, arrivals (front ++ [last]) = arrivals front ∧
      Lingers turn first earlier session exchange began (front ++ [last])
        { current with
          attempts := current.attempts + 1
          deadline := current.deadline + session.config.timeout } current.deadline := by
  have leads : (session.react current .expiry current.deadline).Leads
      [⟨.send session.peer current.outstanding, .ok ()⟩]
      (.waiting session { current with
        attempts := current.attempts + 1
        deadline := current.deadline + session.config.timeout }) := by
    rw [react_expiry_of_lt bound more]
    exact leads_sendToPeer_iff.mpr (.inl ⟨[], rfl, leads_await_iff.mpr ⟨rfl, rfl⟩⟩)
  obtain ⟨last, expired, hnow, vainly, run⟩ := h.exists_timeout leads (by
    intro packet error hmem
    cases List.mem_singleton.mp hmem)
  refine ⟨last, arrivals_snoc_of_eq expired, run, vainly, ?_, Nat.le_add_right _ _⟩
  intro time hmem
  rw [List.map_append, ← List.cons_append] at hmem
  rcases List.mem_append.mp hmem with hearlier | hlast
  · exact (h.past time hearlier).trans h.due
  · exact ((List.mem_singleton.mp hlast).trans hnow).le

/-- The timer goes off, and the session gives up. -/
theorem exists_despair (h : Lingers turn first earlier session exchange began front current now)
    (bound : session.bound = true) (enough : session.patience = current.attempts + 1) :
    ∃ last : Reaction, arrivals (front ++ [last]) = arrivals front ∧
      Vainly session exchange began (front ++ [last]) ∧
      Runs turn first (earlier ++ (front ++ [last]))
        (.ended { session with stage := .failed } (.error (.timeout session.patience))) := by
  have leads : (session.react current .expiry current.deadline).Leads []
      (.ended { session with stage := .failed } (.error (.timeout session.patience))) := by
    rw [react_expiry_of_le bound (Nat.le_of_eq enough), enough]
    exact leads_fail_iff.mpr ⟨rfl, rfl⟩
  obtain ⟨last, expired, -, vainly, run⟩ := h.exists_timeout leads List.not_mem_nil
  exact ⟨last, arrivals_snoc_of_eq expired, vainly, run⟩

/-- What is still to come comes after a moment if the first of it does. -/
theorem le_of_not_due {incoming : List (Nat × Event)} {deadline : Nat}
    (ordered : (incoming.map Prod.fst).Pairwise (· ≤ ·))
    (later : ¬ ∃ time event rest, incoming = (time, event) :: rest ∧ time ≤ deadline) :
    ∀ time ∈ incoming.map Prod.fst, deadline ≤ time := by
  intro time hmem
  cases incoming with
  | nil => exact absurd hmem List.not_mem_nil
  | cons arrival rest =>
    have hhead : deadline ≤ arrival.1 :=
      Nat.le_of_not_le fun hle ↦ later ⟨_, _, rest, rfl, hle⟩
    rcases List.mem_cons.mp hmem with rfl | hlater
    · exact hhead
    · exact hhead.trans (List.rel_of_pairwise_cons ordered hlater)

/-- Whatever is still to come, the session waits in vain to the end. -/
theorem exhausts (h : Lingers turn first earlier session exchange began front current now)
    (reached : Runs turn first earlier (.waiting session exchange))
    (bound : session.bound = true) (attempts_eq : exchange.attempts = 0)
    (deadline_eq : exchange.deadline = began + session.config.timeout)
    {incoming : List (Nat × Event)} (ordered : (now :: incoming.map Prod.fst).Pairwise (· ≤ ·))
    (vain : ∀ arrival ∈ incoming,
      arrival.1 ≤ began + session.patience * session.config.timeout ∧
        session.IsVain exchange arrival.2) :
    ∃ later, Vainly session exchange began (front ++ later) ∧
      arrivals (front ++ later) = arrivals front ++ incoming ∧
      Runs turn first (earlier ++ (front ++ later))
        (.ended { session with stage := .failed } (.error (.timeout session.patience))) := by
  -- Every timeout and every arrival brings the end nearer.
  generalize hsize : session.patience - current.attempts + incoming.length = size
  induction size using Nat.strong_induction_on generalizing front current now incoming with
  | _ size ih =>
    have endures := reached.endures bound attempts_eq deadline_eq h.run h.vainly
    obtain ⟨hlt, -, hcurrent⟩ := endures.waits
    have attempts_lt : current.attempts < session.patience := by rw [hcurrent]; exact hlt
    have deadline_eq : current.deadline =
        began + (current.attempts + 1) * session.config.timeout := by rw [hcurrent]
    by_cases hdue : ∃ time event rest, incoming = (time, event) :: rest ∧ time ≤ current.deadline
    · obtain ⟨time, event, rest, rfl, until_deadline⟩ := hdue
      rw [List.map_cons] at ordered
      have since : now ≤ time := List.rel_of_pairwise_cons ordered List.mem_cons_self
      obtain ⟨last, hlast, lingers⟩ := h.exists_arrival bound (by rw [hcurrent])
        (vain _ List.mem_cons_self).2 since until_deadline
      have smaller : session.patience - current.attempts + rest.length < size := by
        simp only [List.length_cons] at hsize
        omega
      obtain ⟨later, vainly, harrivals, run⟩ := ih _ smaller lingers ordered.of_cons
        (fun arrival hmem ↦ vain arrival (List.mem_cons_of_mem _ hmem)) rfl
      rw [List.append_assoc] at vainly harrivals run
      refine ⟨last :: later, vainly, ?_, run⟩
      rw [List.singleton_append] at harrivals
      rw [harrivals, hlast, List.append_assoc]
      rfl
    · -- nothing comes before the deadline any more
      have beyond := le_of_not_due ordered.of_cons hdue
      rcases Nat.lt_or_ge (current.attempts + 1) session.patience with more | enough
      · obtain ⟨last, hlast, lingers⟩ := h.exists_retry bound more
        obtain ⟨later, vainly, harrivals, run⟩ := ih _ (by dsimp only; omega) lingers
          (List.pairwise_cons.mpr ⟨beyond, ordered.of_cons⟩) vain rfl
        rw [List.append_assoc] at vainly harrivals run
        refine ⟨last :: later, vainly, ?_, run⟩
        rw [List.singleton_append] at harrivals
        rw [harrivals, hlast]
      · have enough : session.patience = current.attempts + 1 := Nat.le_antisymm enough attempts_lt
        obtain rfl : incoming = [] := by
          cases incoming with
          | nil => rfl
          | cons arrival rest =>
            refine absurd ⟨_, _, rest, rfl, ?_⟩ hdue
            rw [deadline_eq, ← enough]
            exact (vain arrival List.mem_cons_self).1
        obtain ⟨last, harrivals, vainly, run⟩ := h.exists_despair bound enough
        refine ⟨[last], vainly, ?_, run⟩
        rw [harrivals, List.append_nil]

end Lingers

/-! ## Waits -/

theorem Anew.deadline {current : Session} (anew : Anew session began current exchange) :
    exchange.attempts = 0 ∧ exchange.deadline = began + current.config.timeout :=
  ⟨anew.attempts_eq, anew.config_eq ▸ anew.deadline_eq⟩

theorem Advances.deadline {current : Session}
    (advances : session.Advances began (.waiting current exchange)) :
    exchange.attempts = 0 ∧ exchange.deadline = began + current.config.timeout := by
  cases advances with
  | on anew stage_eq work => exact anew.deadline

/-- A wait begins with all its timeouts before it. -/
theorem Runs.attempts_eq_zero {opening? : Option Bytes} {start : Nat}
    (opens : session.Opens start opening? turn) {current : Session}
    (run : Runs turn first earlier (.waiting current exchange))
    (since : WaitsSince start earlier began) :
    exchange.attempts = 0 ∧ exchange.deadline = began + current.config.timeout := by
  cases since with
  | start =>
    obtain ⟨begun, hfirst⟩ := run.first_leads
    obtain rfl := run.unique (.begun hfirst)
    cases (comes_of_opens opens _ _ hfirst).sound_of_waiting with
    | opened anew block_eq awaits => exact anew.deadline
    | advanced advances => exact advances.deadline
  | @obtained before reaction obtains =>
    have hprogress := run.progress_of_snoc
    obtain ⟨reached, leads⟩ := run.split
    obtain ⟨session', exchange', event, now, talk, progress⟩ := reaction
    cases hprogress
    generalize hprogress : Progress.waiting current exchange = progress at leads
    cases reacts_of_leads (reached.awaits opens) leads with
    | disowned stranger answer => exact absurd obtains (not_obtains_of_stranger stranger)
    | kept serves outcome =>
      subst hprogress
      exact absurd obtains outcome.sound_of_waiting.1
    | moved serves obtains outcome =>
      subst hprogress
      exact outcome.sound_of_waiting.deadline

/-- Whatever a session has been through, it waits like this for what comes next. -/
theorem patient_of_runs {opening? : Option Bytes} {start : Nat} {current : Session}
    (opens : session.Opens start opening? turn)
    (reached : Runs turn first earlier (.waiting current exchange))
    (since : WaitsSince start earlier began) (bound : current.bound = true) :
    Patient turn first earlier current exchange began := by
  obtain ⟨attempts_eq, deadline_eq⟩ := reached.attempts_eq_zero opens since
  exact {
    endures := fun run vainly ↦ reached.endures bound attempts_eq deadline_eq run vainly
    exhausted := by
      intro incoming ordered vain
      have run : Runs turn first (earlier ++ []) (.waiting current exchange) := by
        rw [List.append_nil]
        exact reached
      have vainly : Vainly current exchange began [] :=
        ⟨List.pairwise_singleton _ _, fun _ hmem ↦ absurd hmem List.not_mem_nil,
          fun _ hmem ↦ absurd hmem List.not_mem_nil, fun _ hmem ↦ absurd hmem List.not_mem_nil⟩
      have lingers : Lingers turn first earlier current exchange began [] exchange began :=
        ⟨run, vainly, by simp, by rw [deadline_eq]; exact Nat.le_add_right _ _⟩
      obtain ⟨later, vainly, harrivals, run⟩ :=
        lingers.exhausts reached bound attempts_eq deadline_eq ordered vain
      exact ⟨later, vainly, harrivals, run⟩ }

theorem patient_from_start :
    localReceiver.Opens 0 (some (Packet.encodeAck 0))
        (localReceiver.receive (Packet.encodeAck 0) 0) ∧
      Runs (localReceiver.receive (Packet.encodeAck 0) 0)
        [⟨.send ⟨.localhost .four, 1069, 0⟩ (Packet.encodeAck 0), .ok ()⟩] []
        (.waiting localReceiver localWait) ∧
      WaitsSince 0 [] 0 ∧ localReceiver.bound = true ∧
      Patient (localReceiver.receive (Packet.encodeAck 0) 0)
        [⟨.send ⟨.localhost .four, 1069, 0⟩ (Packet.encodeAck 0), .ok ()⟩] [] localReceiver
        localWait 0 := by
  have opens : localReceiver.Opens 0 (some (Packet.encodeAck 0))
      (localReceiver.receive (Packet.encodeAck 0) 0) := .receive (Packet.encodeAck 0)
  exact ⟨opens, local_runs, .start, rfl, patient_of_runs opens local_runs .start rfl⟩

end

end Lockstep.Session
