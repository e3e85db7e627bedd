import Lockstep.Proofs.Speech

/-!
# Isolation of a transfer

A session is disturbed by nobody but its peer. A datagram of a stranger, whatever is in it, makes it
send one notice to where the datagram came from, and the news that an earlier datagram bounced make
it do nothing. All other reactions of a history are the same, down to the times of the packets, the
deadlines and the use of the stream, whether such events come in between or not. A peer that is
bound is bound for good, and whatever is sent elsewhere is a notice to a stranger.
-/

namespace Lockstep

namespace Session

/-- What strangers are told. -/
def unknownTransfer : Bytes :=
  (Packet.error (Notice.ofCode .unknownTransferId)).encode

/-- The event does not come from the peer: a datagram of a stranger, or the news that an earlier
datagram found nobody. -/
def IsForeign (session : Session) : Event → Prop
  | .arrival source _ => session.IsStranger source
  | .receiveError error => error.isBounce = true
  | .expiry => False

instance (session : Session) : DecidablePred session.IsForeign := fun event ↦
  match event with
  | .arrival source _ => inferInstanceAs (Decidable (session.IsStranger source))
  | .receiveError error => inferInstanceAs (Decidable (error.isBounce = true))
  | .expiry => inferInstanceAs (Decidable False)

/-- All that is said about a foreign event. -/
inductive Unheeded : Event → Talk → Prop
  | stranger (source : SocketAddress) (datagram : Bytes)
      (answer : Except SystemError Unit) :
      Unheeded (.arrival source datagram) [⟨.send source unknownTransfer, answer⟩]
  | bounce (error : SystemError) : Unheeded (.receiveError error) []

variable {session : Session} {exchange : Exchange} {event : Event} {now : Nat} {talk : Talk}
  {progress : Progress}

/-- A foreign event leaves the session and its wait as they are. -/
theorem leads_foreign_iff (foreign : session.IsForeign event) :
    (session.react exchange event now).Leads talk progress ↔
      Unheeded event talk ∧ progress = .waiting session exchange := by
  cases event with
  | arrival source datagram =>
    rw [arrive_of_stranger foreign, leads_notify_iff]
    constructor
    · rintro ⟨answer, rest, rfl, h⟩
      obtain ⟨rfl, rfl⟩ := leads_await_iff.mp h
      exact ⟨.stranger source datagram answer, rfl⟩
    · rintro ⟨⟨_, _, answer⟩, rfl⟩
      exact ⟨answer, [], rfl, leads_await_iff.mpr ⟨rfl, rfl⟩⟩
  | receiveError error =>
    have hturn : session.react exchange (.receiveError error) now = session.await exchange :=
      if_pos foreign
    rw [hturn, leads_await_iff]
    constructor
    · rintro ⟨rfl, rfl⟩
      exact ⟨.bounce error, rfl⟩
    · rintro ⟨⟨_⟩, rfl⟩
      exact ⟨rfl, rfl⟩
  | expiry => exact foreign.elim

/-! ## Turns and the address of the peer -/

/-- In the turn everything is sent to the peer, and the peer stays who it is. -/
def Heeds (session : Session) (turn : Turn Progress) : Prop :=
  turn.Meets
    (fun question ↦ ∀ destination packet, question = .send destination packet →
      destination = session.peer)
    fun progress ↦ progress.session.peer = session.peer ∧ progress.session.bound = session.bound

theorem Heeds.leads {turn : Turn Progress} (h : session.Heeds turn)
    (leads : turn.Leads talk progress) :
    (∀ destination packet answer, (⟨.send destination packet, answer⟩ : Sigma Answer) ∈ talk →
      destination = session.peer) ∧
      progress.session.peer = session.peer ∧ progress.session.bound = session.bound := by
  induction leads with
  | done result => exact ⟨fun _ _ _ hmem ↦ absurd hmem List.not_mem_nil, h⟩
  | ask answer rest ih =>
    obtain ⟨hsends, hkeeps⟩ := ih (h.2 answer)
    refine ⟨?_, hkeeps⟩
    intro destination packet given hmem
    rcases List.mem_cons.mp hmem with hnow | hlater
    · cases hnow
      exact h.1 destination packet rfl
    · exact hsends destination packet given hlater

/-- A session may say anything, whatever its stream answers. -/
theorem allows_anything : Allows (fun _ _ ↦ True) fun _ ↦ True where
  acknowledgment _ := trivial
  block _ _ _ := trivial
  filled _ _ _ := trivial
  rejection _ := trivial
  failure _ _ _ := trivial

theorem Tells.heeds {turn : Turn Progress}
    (h : session.Tells (fun _ _ ↦ True) (fun _ ↦ True) turn) : session.Heeds turn :=
  (h.meets fun _ _ ↦ trivial).mono
    (fun _ sends destination packet heq ↦ (sends destination packet heq).1)
    fun _ keeps ↦ ⟨keeps.peer_eq, keeps.bound_eq⟩

/-! ### Events -/

/-- An event that is not foreign is answered to the peer alone. A session whose peer was not bound
binds the one that the datagram came from. -/
theorem exists_heeds (native : ¬ session.IsForeign event) :
    ∃ served : Session, (session.bound = true → served.peer = session.peer ∧ served.bound = true) ∧
      served.Heeds (session.react exchange event now) := by
  have keeps {source : SocketAddress} (peer : ¬ session.IsStranger source)
      (hbound : session.bound = true) :
      (session.boundTo source).peer = session.peer ∧ (session.boundTo source).bound = true := by
    rw [isStranger_iff_of_bound hbound, Decidable.not_not] at peer
    exact ⟨peer, rfl⟩
  have replies := replies allows_anything session exchange trivial event now
  generalize session.react exchange event now = turn at replies
  cases replies with
  | disowns stranger => exact absurd stranger native
  | believes peer decoded code =>
    exact ⟨_, keeps peer, rfl, rfl⟩
  | answers peer tells => exact ⟨_, keeps peer, tells.heeds⟩
  | goesOn unheard tells => exact ⟨session, fun hbound ↦ ⟨rfl, hbound⟩, tells.heeds⟩

theorem Begins.heeds {turn : Turn Progress} (begins : session.Begins now turn) :
    session.Heeds turn := by
  cases begins with
  | receive opening => exact (tells_receive session trivial now).heeds
  | send opening? =>
    exact (tells_send allows_anything session opening? (fun _ _ ↦ trivial) now).heeds

/-! ## Histories -/

/-- The reaction was one to a foreign event. -/
def Reaction.IsForeign (reaction : Reaction) : Prop :=
  reaction.session.IsForeign reaction.event

instance : DecidablePred Reaction.IsForeign := fun reaction ↦
  inferInstanceAs (Decidable (reaction.session.IsForeign reaction.event))

/-- The reaction of a session to a foreign event, which does nothing to it. -/
structure Reaction.Passes (reaction : Reaction) (session : Session) (exchange : Exchange) :
    Prop where
  session_eq : reaction.session = session
  exchange_eq : reaction.exchange = exchange
  foreign : session.IsForeign reaction.event
  unheeded : Unheeded reaction.event reaction.talk
  progress_eq : reaction.progress = .waiting session exchange

/-- A peer that is bound stays the peer. -/
def KeepsPeer (earlier later : Session) : Prop :=
  earlier.bound = true → later.bound = true ∧ later.peer = earlier.peer

theorem KeepsPeer.trans {first second third : Session} (h : first.KeepsPeer second)
    (h' : second.KeepsPeer third) : first.KeepsPeer third := by
  intro hbound
  obtain ⟨hsecond, hpeer⟩ := h hbound
  obtain ⟨hthird, hpeer'⟩ := h' hsecond
  exact ⟨hthird, hpeer'.trans hpeer⟩

/-- What others than the peer can do to a session that began with a turn and has such a history. -/
structure Isolated (session : Session) (turn : Turn Progress) (first : Talk)
    (record : List Reaction) (progress : Progress) : Prop where
  /-- Without the foreign events the session reacts to the others in the same way, at the same times
  and with the same deadlines, and comes to the same. -/
  without : Runs turn first (record.filter fun reaction ↦ ¬ reaction.IsForeign) progress
  /-- All that foreign events have led to is a notice to each stranger. -/
  unheeded : ∀ reaction ∈ record, reaction.IsForeign →
    reaction.Passes reaction.session reaction.exchange
  /-- Any number of foreign events may have come in between at any time. -/
  inserted : ∀ {earlier later : List Reaction} {session : Session} {exchange : Exchange},
    earlier ++ later = record → Runs turn first earlier (.waiting session exchange) →
    ∀ foreign : List Reaction, (∀ reaction ∈ foreign, reaction.Passes session exchange) →
      Runs turn first (earlier ++ foreign ++ later) progress
  /-- From one reaction to the next a bound peer stays. -/
  peer_kept : record.Pairwise fun earlier later ↦ earlier.session.KeepsPeer later.session
  peer_last : ∀ reaction ∈ record, reaction.session.KeepsPeer progress.session
  /-- The first turn sends to the peer alone. -/
  first_sends : ∀ {destination packet answer},
    (⟨.send destination packet, answer⟩ : Sigma Answer) ∈ first → destination = session.peer
  /-- What is sent later goes to the peer, or it is a notice to a stranger. -/
  sends : ∀ reaction ∈ record, ∀ {destination packet answer},
    (⟨.send destination packet, answer⟩ : Sigma Answer) ∈ reaction.talk →
      destination = reaction.progress.session.peer ∨
        reaction.session.IsStranger destination ∧ packet = unknownTransfer ∧
          ∃ datagram, reaction.event = .arrival destination datagram

variable {turn : Turn Progress} {first : Talk} {record earlier : List Reaction}
  {reaction : Reaction}

theorem passes_of_leads (foreign : reaction.IsForeign)
    (leads : (reaction.session.react reaction.exchange reaction.event reaction.now).Leads
      reaction.talk reaction.progress) :
    reaction.Passes reaction.session reaction.exchange := by
  obtain ⟨hunheeded, hprogress⟩ := (leads_foreign_iff foreign).mp leads
  exact ⟨rfl, rfl, foreign, hunheeded, hprogress⟩

theorem Runs.append_foreign (run : Runs turn first earlier (.waiting session exchange))
    (foreign : List Reaction) (passes : ∀ reaction ∈ foreign, reaction.Passes session exchange) :
    Runs turn first (earlier ++ foreign) (.waiting session exchange) := by
  apply run.append_idle
  intro reaction hmem
  obtain ⟨hsession, hexchange, foreign, unheeded, hprogress⟩ := passes reaction hmem
  exact ⟨hsession, hexchange, hprogress, (leads_foreign_iff foreign).mpr ⟨unheeded, rfl⟩⟩

theorem Runs.filter_native (run : Runs turn first record progress) :
    Runs turn first (record.filter fun reaction ↦ ¬ reaction.IsForeign) progress :=
  run.filter_idle fun _ hmem foreign ↦ (passes_of_leads foreign (run.leads_of_mem hmem)).progress_eq

/-- Who is told something in a reaction, and how it leaves the peer. -/
theorem sends_of_leads
    (leads : (reaction.session.react reaction.exchange reaction.event reaction.now).Leads
      reaction.talk reaction.progress) :
    reaction.session.KeepsPeer reaction.progress.session ∧
      ∀ {destination packet answer},
        (⟨.send destination packet, answer⟩ : Sigma Answer) ∈ reaction.talk →
          destination = reaction.progress.session.peer ∨
            reaction.session.IsStranger destination ∧ packet = unknownTransfer ∧
              ∃ datagram, reaction.event = .arrival destination datagram := by
  by_cases foreign : reaction.IsForeign
  · have passes := passes_of_leads foreign leads
    refine ⟨?_, ?_⟩
    · rw [passes.progress_eq]
      exact fun hbound ↦ ⟨hbound, rfl⟩
    · intro destination packet answer hmem
      obtain ⟨session, exchange, event, now, talk, progress⟩ := reaction
      cases passes.unheeded with
      | stranger source datagram given =>
        cases List.mem_singleton.mp hmem
        exact .inr ⟨foreign, rfl, datagram, rfl⟩
      | bounce error => exact absurd hmem List.not_mem_nil
  · obtain ⟨served, hserved, hheeds⟩ := exists_heeds foreign
    obtain ⟨hsends, hpeer, hbound⟩ := hheeds.leads leads
    refine ⟨?_, ?_⟩
    · intro bound
      obtain ⟨hsame, hserved⟩ := hserved bound
      exact ⟨hbound.trans hserved, hpeer.trans hsame⟩
    · intro destination packet answer hmem
      exact .inl ((hsends destination packet answer hmem).trans hpeer.symm)

theorem Runs.peer_last (run : Runs turn first record progress) :
    ∀ reaction ∈ record, reaction.session.KeepsPeer progress.session := by
  induction run with
  | begun leads => exact fun reaction hmem ↦ absurd hmem List.not_mem_nil
  | reacted run event now leads ih =>
    have hlast := (@sends_of_leads ⟨_, _, _, _, _, _⟩ leads).1
    intro reaction hmem
    rcases List.mem_append.mp hmem with hearlier | hnow
    · exact (ih reaction hearlier).trans hlast
    · cases List.mem_singleton.mp hnow
      exact hlast

theorem Runs.peer_kept (run : Runs turn first record progress) :
    record.Pairwise fun earlier later ↦ earlier.session.KeepsPeer later.session := by
  induction run with
  | begun leads => exact .nil
  | reacted run event now leads ih =>
    refine List.pairwise_append.mpr ⟨ih, List.pairwise_singleton _ _, ?_⟩
    intro earlier hearlier last hlast
    cases List.mem_singleton.mp hlast
    exact run.peer_last earlier hearlier

/-- Whatever a session does and however its surroundings answer, it is isolated from everybody but
its peer. -/
theorem isolated_of_runs (begins : session.Begins now turn)
    (run : Runs turn first record progress) : Isolated session turn first record progress := by
  obtain ⟨begun, hfirst⟩ := run.first_leads
  exact {
    without := run.filter_native
    unheeded := fun reaction hmem foreign ↦ passes_of_leads foreign (run.leads_of_mem hmem)
    inserted := fun hrecord reached foreign passes ↦
      (hrecord ▸ run).resume reached (reached.append_foreign foreign passes)
    peer_kept := run.peer_kept
    peer_last := run.peer_last
    first_sends := fun hmem ↦ (begins.heeds.leads hfirst).1 _ _ _ hmem
    sends := fun reaction hmem ↦ (sends_of_leads (run.leads_of_mem hmem)).2 }

/-- Somebody else sends the block that is due to the local session, before its peer does. -/
def intrusion : Reaction where
  session := localReceiver
  exchange := localWait
  event := .arrival ⟨.localhost .four, 3069, 0⟩ (Packet.encodeData 1 [7])
  now := 900
  talk := [⟨.send ⟨.localhost .four, 3069, 0⟩ unknownTransfer, .ok ()⟩]
  progress := .waiting localReceiver localWait

theorem isolated_from_intrusion :
    localReceiver.Begins 0 (localReceiver.receive (Packet.encodeAck 0) 0) ∧
      Runs (localReceiver.receive (Packet.encodeAck 0) 0)
        [⟨.send ⟨.localhost .four, 1069, 0⟩ (Packet.encodeAck 0), .ok ()⟩]
        [intrusion, localArrival] localArrival.progress ∧
      Isolated localReceiver (localReceiver.receive (Packet.encodeAck 0) 0)
        [⟨.send ⟨.localhost .four, 1069, 0⟩ (Packet.encodeAck 0), .ok ()⟩]
        [intrusion, localArrival] localArrival.progress := by
  have begins : localReceiver.Begins 0 (localReceiver.receive (Packet.encodeAck 0) 0) :=
    .receive (Packet.encodeAck 0)
  have passes : intrusion.Passes localReceiver localWait :=
    ⟨rfl, rfl, by decide, .stranger _ _ _, rfl⟩
  have waiting := local_runs.append_foreign [intrusion] (by simpa using passes)
  have run := Runs.reacted waiting localArrival.event 1000 localArrival_leads
  exact ⟨begins, run, isolated_of_runs begins run⟩

end Session

end Lockstep
