import Lockstep.Proofs.Outcomes
import Mathlib.Data.List.Chain
import Mathlib.Logic.Relation

/-!
# Stages of a session

The stage of a session tells what has become of it. A session goes from being idle to the transfer,
by way of a request that was sent if there is one, and it ends completed or failed; which of them it
is tells how the call ends. The request is behind a session when the first block was accepted or the
request was acknowledged. What a session says at last goes with the reason for which it failed, and
before that it has said nothing of a failure.
-/

namespace Lockstep

namespace Stage

/-- The one stage may be followed by the other. -/
inductive Next : Stage → Stage → Prop
  | request : Next .idle .requestSent
  | begin : Next .idle .transferring
  | accept : Next .requestSent .transferring
  | complete : Next .transferring .completed
  | fail {stage : Stage} (uncompleted : stage ≠ .completed) (unfailed : stage ≠ .failed) :
    Next stage .failed

/-- The one stage is reached from the other. -/
def Reaches : Stage → Stage → Prop :=
  Relation.ReflTransGen Next

theorem reaches_completed {stage : Stage} (h : stage = .idle ∨ stage.IsUnderWay) :
    stage.Reaches .completed := by
  rcases h with rfl | rfl | rfl
  · exact .tail (.single .begin) .complete
  · exact .tail (.single .accept) .complete
  · exact .single .complete

theorem reaches_failed {stage : Stage} (h : stage = .idle ∨ stage.IsUnderWay) :
    stage.Reaches .failed := by
  rcases h with rfl | rfl | rfl <;> exact .single (.fail nofun nofun)

theorem reaches_transferring {stage : Stage} (h : stage = .idle ∨ stage.IsUnderWay) :
    stage.Reaches .transferring := by
  rcases h with rfl | rfl | rfl
  · exact .single .begin
  · exact .single .accept
  · exact Relation.ReflTransGen.refl

end Stage

namespace Session

/-- The session has not begun. -/
inductive Fresh : Session → Prop
  | accepted (peer : SocketAddress) (mode : Mode) (config : TransferConfig) :
    Fresh (accepted peer mode config)
  | requesting (server : SocketAddress) (mode : Mode) (config : TransferConfig) :
    Fresh (requesting server mode config)

/-- The stages of a session: before it began, whenever it waited for an event, and now. -/
def stages (session : Session) (record : List Reaction) (progress : Progress) : List Stage :=
  session.stage :: record.map (·.session.stage) ++ [progress.session.stage]

/-- A reaction in which the session got what it waited for. -/
def Reaction.Obtains (reaction : Reaction) : Prop :=
  reaction.session.Obtains reaction.exchange reaction.event

/-- What leads a session from its request to the transfer: its peer sends the first block, or
acknowledges the request. -/
def Reaction.Accepts (reaction : Reaction) : Prop :=
  ∃ source datagram, reaction.event = .arrival source datagram ∧
    ¬ reaction.session.IsStranger source ∧
    ((∃ decoder payload, reaction.exchange.awaited = .data decoder ∧
        Packet.decode datagram = .ok (.data 1 payload)) ∨
      reaction.exchange.awaited = .acceptance ∧ Packet.decode datagram = .ok (.ack 0))

/-- What a session may say that has not failed: its stream does as it is asked to, a packet leaves
for the host of the peer that moves the transfer on, or a stranger is told that it is one. -/
inductive Proper (opening? : Option Bytes) (session : Session) : Sigma Answer → Prop
  | used {said : Sigma Answer} {use : SystemError.Use} (used : said.1.use? = some use)
      (succeeded : failure? said.1 said.2 = none) : Proper opening? session said
  | sent {destination : SocketAddress} {packet : Bytes}
      (host_eq : destination.ip = session.peer.ip) (work : IsWork opening? packet) :
    Proper opening? session ⟨.send destination packet, .ok ()⟩
  | disowned {source : SocketAddress} (stranger : session.IsStranger source)
      (answer : Except SystemError Unit) :
    Proper opening? session ⟨.send source unknownTransfer, answer⟩

/-- What a session says at last, when it has come to this. -/
inductive Ending (opening? : Option Bytes) : Progress → Talk → Prop
  | waiting (current : Session) (exchange : Exchange) :
    Ending opening? (.waiting current exchange) []
  | completed (last : Session) (summary : Summary) : Ending opening? (.ended last (.ok summary)) []
  | failed {last : Session} {error : TransferError} {talk : Talk}
      (words : LastWords opening? last.peer error talk) :
    Ending opening? (.ended last (.error error)) talk

/-- What was said last goes with what the session has come to, and nothing of a failure was said
before that. -/
def Concludes (opening? : Option Bytes) (session : Session) (talk : Talk) (progress : Progress) :
    Prop :=
  ∃ before ending, talk = before ++ ending ∧ (∀ said ∈ before, Proper opening? session said) ∧
    Ending opening? progress ending

/-- What the stage tells of a session that began with that opening and has such a history. -/
structure Told (opening? : Option Bytes) (session : Session) (first : Talk)
    (record : List Reaction) (progress : Progress) : Prop where
  /-- The stages come in their order. -/
  ordered : (stages session record progress).IsChain Stage.Reaches
  /-- Whenever the session waits, it is under way. -/
  waited : ∀ reaction ∈ record, reaction.session.stage.IsUnderWay
  waiting : ∀ {current : Session} {exchange : Exchange}, progress = .waiting current exchange →
    current.stage.IsUnderWay
  /-- There is nothing behind the last stages. -/
  final : ∀ {earlier later : List Reaction} {reaction : Reaction},
    record = earlier ++ reaction :: later →
      reaction.progress.session.stage = .completed ∨ reaction.progress.session.stage = .failed →
        later = [] ∧ progress = reaction.progress
  /-- The call succeeds with the one, and fails with the other. -/
  completed_iff : (∃ last summary, progress = .ended last (.ok summary)) ↔
    progress.session.stage = .completed
  failed_iff : (∃ last error, progress = .ended last (.error error)) ↔
    progress.session.stage = .failed
  /-- The first thing that a session gets takes it from the request to the transfer. -/
  accepted : ∀ {earlier later : List Reaction} {reaction : Reaction},
    record = earlier ++ reaction :: later → reaction.session.stage = .requestSent →
      reaction.progress.session.stage = .transferring ∨
        reaction.progress.session.stage = .completed →
      reaction.Accepts ∧ ∀ before ∈ earlier, ¬ before.Obtains
  /-- The last thing it says goes with what it has come to, and is the only one of its kind. -/
  concludes : Concludes opening? progress.session (saying first record) progress

variable {opening? : Option Bytes} {session served later : Session} {exchange : Exchange}
  {event : Event} {now : Nat} {talk : Talk} {progress : Progress} {sound : Progress → Prop}

theorem Fresh.stage_eq (fresh : session.Fresh) : session.stage = .idle := by
  cases fresh <;> rfl

theorem Fresh.block_eq (fresh : session.Fresh) : session.block = 1 := by
  cases fresh <;> rfl

/-! ## The order of the stages -/

/-- The stage of the session tells what it has come to. -/
def Progress.IsMarked : Progress → Prop
  | .waiting current _ => current.stage.IsUnderWay
  | .ended last (.ok _) => last.stage = .completed
  | .ended last (.error _) => last.stage = .failed

theorem Progress.IsMarked.completed_iff (h : progress.IsMarked) :
    (∃ last summary, progress = .ended last (.ok summary)) ↔
      progress.session.stage = .completed := by
  cases progress with
  | waiting current exchange =>
    rcases h with hstage | hstage <;> simp [Progress.session, hstage]
  | ended last result =>
    cases result with
    | ok summary => exact ⟨fun _ ↦ h, fun _ ↦ ⟨last, summary, rfl⟩⟩
    | error error =>
      have hstage : last.stage = .failed := h
      simp [Progress.session, hstage]

theorem Progress.IsMarked.failed_iff (h : progress.IsMarked) :
    (∃ last error, progress = .ended last (.error error)) ↔ progress.session.stage = .failed := by
  cases progress with
  | waiting current exchange =>
    rcases h with hstage | hstage <;> simp [Progress.session, hstage]
  | ended last result =>
    cases result with
    | ok summary =>
      have hstage : last.stage = .completed := h
      simp [Progress.session, hstage]
    | error error => exact ⟨fun _ ↦ h, fun _ ↦ ⟨last, error, rfl⟩⟩

/-- A turn comes to something sound, or the session fails. -/
@[elab_as_elim]
theorem Outcome.elim {motive : Progress → Prop}
    (h : Outcome opening? session sound talk progress)
    (of_sound : ∀ progress, sound progress → motive progress)
    (of_failed : ∀ last error, last.SamePeer session → last.stage = .failed →
      motive (.ended last (.error error))) : motive progress := by
  induction h with
  | rests h | sends work h => exact of_sound _ h
  | fails same stage_eq words => exact of_failed _ _ same stage_eq
  | uses used succeeded rest ih => exact ih

theorem Advances.isMarked (h : session.Advances now progress) : progress.IsMarked := by
  cases h with
  | on anew stage_eq work => exact .inr stage_eq
  | through same stage_eq => exact stage_eq

theorem Advances.samePeer (h : session.Advances now progress) :
    progress.session.SamePeer session := by
  cases h with
  | on anew stage_eq work => exact anew.toSamePeer
  | through same stage_eq => exact same

theorem Advances.ending (h : session.Advances now progress) : Ending opening? progress [] := by
  cases h with
  | on anew stage_eq work => exact .waiting _ _
  | through same stage_eq => exact .completed _ _

theorem Advances.reaches {stage : Stage} (h : session.Advances now progress)
    (begun : stage = .idle ∨ stage.IsUnderWay) : stage.Reaches progress.session.stage := by
  cases h with
  | on anew stage_eq work => exact stage_eq ▸ Stage.reaches_transferring begun
  | through same stage_eq => exact stage_eq ▸ Stage.reaches_completed begun

theorem Starts.isMarked (h : Starts opening? session now progress) : progress.IsMarked := by
  cases h with
  | opened anew block_eq awaits => exact awaits.stage
  | advanced advances => exact advances.isMarked

theorem Starts.samePeer (h : Starts opening? session now progress) :
    progress.session.SamePeer session := by
  cases h with
  | opened anew block_eq awaits => exact anew.toSamePeer
  | advanced advances => exact advances.samePeer

theorem Starts.ending (h : Starts opening? session now progress) :
    Ending opening? progress [] := by
  cases h with
  | opened anew block_eq awaits => exact .waiting _ _
  | advanced advances => exact advances.ending

theorem Starts.reaches (h : Starts opening? session now progress) :
    Stage.idle.Reaches progress.session.stage := by
  cases h with
  | @opened later exchange anew block_eq awaits =>
    change Stage.idle.Reaches later.stage
    rcases awaits.stage with hstage | hstage <;> rw [hstage]
    · exact Relation.ReflTransGen.single .request
    · exact Relation.ReflTransGen.single .begin
  | advanced advances => exact advances.reaches (.inl rfl)

/-- What a session comes to in a reaction shows in its stage. -/
theorem Awaits.isMarked (awaits : Awaits opening? session exchange)
    (leads : (session.react exchange event now).Leads talk progress) : progress.IsMarked := by
  cases reacts_of_leads awaits leads with
  | disowned stranger answer => exact awaits.stage
  | kept serves outcome =>
    refine outcome.elim ?_ fun _ _ _ ↦ id
    rintro _ ⟨-, attempts, deadline, rfl⟩
    have underWay := awaits.stage
    rwa [← serves.stage_eq] at underWay
  | moved serves obtains outcome => exact outcome.elim (fun _ ↦ Advances.isMarked) fun _ _ _ ↦ id

/-- In a reaction the session does not go back. -/
theorem Awaits.reaches (awaits : Awaits opening? session exchange)
    (leads : (session.react exchange event now).Leads talk progress) :
    session.stage.Reaches progress.session.stage := by
  have reaches_failed {last served : Session} {error : TransferError} :
      last.SamePeer served → last.stage = .failed →
        session.stage.Reaches (Progress.ended last (.error error)).session.stage :=
    fun _ stage_eq ↦ stage_eq ▸ Stage.reaches_failed (.inr awaits.stage)
  cases reacts_of_leads awaits leads with
  | disowned stranger answer => exact Relation.ReflTransGen.refl
  | kept serves outcome =>
    refine outcome.elim ?_ fun _ _ ↦ reaches_failed
    rintro _ ⟨-, attempts, deadline, rfl⟩
    exact serves.stage_eq ▸ Relation.ReflTransGen.refl
  | moved serves obtains outcome =>
    exact outcome.elim (fun _ h ↦ h.reaches (.inr awaits.stage)) fun _ _ ↦ reaches_failed

variable {turn : Turn Progress} {first : Talk} {record : List Reaction}

theorem stages_snoc (session : Session) (earlier : List Reaction) (reaction : Reaction) :
    stages session (earlier ++ [reaction]) reaction.progress =
      stages session earlier (.waiting reaction.session reaction.exchange) ++
        [reaction.progress.session.stage] := by
  simp [stages, Progress.session]

theorem Runs.ordered (fresh : session.Fresh) (opens : session.Opens now opening? turn)
    (run : Runs turn first record progress) :
    (stages session record progress).IsChain Stage.Reaches := by
  induction run with
  | begun leads =>
    refine List.isChain_pair.mpr ?_
    refine (comes_of_opens opens _ _ leads).elim ?_ ?_
    · exact fun _ h ↦ fresh.stage_eq ▸ Starts.reaches h
    · exact fun _ _ _ stage_eq ↦ stage_eq ▸ Stage.reaches_failed (.inl fresh.stage_eq)
  | @reacted record current exchange run event now talk progress leads ih =>
    have reaches := (run.awaits opens).reaches leads
    have hsnoc := stages_snoc session record ⟨current, exchange, event, now, talk, progress⟩
    rw [hsnoc]
    refine ih.append (.singleton _) ?_
    intro stage hlast stage' hhead
    have hstage : stage = current.stage := by
      unfold stages at hlast
      rw [List.getLast?_concat] at hlast
      cases hlast
      rfl
    cases hhead
    rw [hstage]
    exact reaches

theorem Runs.isMarked (opens : session.Opens now opening? turn)
    (run : Runs turn first record progress) : progress.IsMarked := by
  cases run with
  | begun leads =>
    exact (comes_of_opens opens _ _ leads).elim (fun _ ↦ Starts.isMarked) fun _ _ _ ↦ id
  | reacted run event now leads => exact (run.awaits opens).isMarked leads

/-! ## The request -/

/-- As long as the request is all that was sent, nothing was got. -/
theorem Runs.unobtained (opens : session.Opens now opening? turn) {current : Session}
    (run : Runs turn first record (.waiting current exchange))
    (requested : current.stage = .requestSent) :
    current.block = session.block ∧ ∀ reaction ∈ record, ¬ reaction.Obtains := by
  generalize hprogress : Progress.waiting current exchange = progress at run
  -- a session never comes back to this stage, so it was in it during the whole history
  induction run generalizing current exchange with
  | begun leads =>
    subst hprogress
    refine ⟨?_, fun reaction hmem ↦ absurd hmem List.not_mem_nil⟩
    cases (comes_of_opens opens _ _ leads).sound_of_waiting with
    | opened anew block_eq awaits => exact block_eq
    | advanced advances =>
      cases advances with
      | on anew stage_eq work => cases stage_eq.symm.trans requested
  | @reacted record earlier exchange' run event now talk progress leads ih =>
    subst hprogress
    have kept (stage_eq : earlier.stage = current.stage) (block_eq : current.block = earlier.block)
        (unobtained : ¬ earlier.Obtains exchange' event) :
        current.block = session.block ∧
          ∀ reaction ∈ record ++ [⟨earlier, exchange', event, now, talk,
            .waiting current exchange⟩], ¬ reaction.Obtains := by
      obtain ⟨block_eq', before⟩ := ih (stage_eq.trans requested) rfl
      refine ⟨block_eq.trans block_eq', fun reaction hmem ↦ ?_⟩
      rcases List.mem_append.mp hmem with hearlier | hnow
      · exact before reaction hearlier
      · cases List.mem_singleton.mp hnow
        exact unobtained
    generalize hprogress : Progress.waiting current exchange = progress at leads
    cases reacts_of_leads (run.awaits opens) leads with
    | disowned stranger answer =>
      cases hprogress
      exact kept rfl rfl (not_obtains_of_stranger stranger)
    | kept serves outcome =>
      subst hprogress
      obtain ⟨unobtained, attempts, deadline, hsame⟩ := outcome.sound_of_waiting
      cases hsame
      exact kept serves.stage_eq.symm serves.block_eq unobtained
    | moved serves obtains outcome =>
      subst hprogress
      cases outcome.sound_of_waiting with
      | on anew stage_eq work => cases stage_eq.symm.trans requested

/-- What takes a session from its request to the transfer. -/
theorem Awaits.accepts (awaits : Awaits opening? session exchange)
    (requested : session.stage = .requestSent) (block_eq : session.block = 1)
    (leads : (session.react exchange event now).Leads talk progress)
    (left : progress.session.stage = .transferring ∨ progress.session.stage = .completed) :
    (⟨session, exchange, event, now, talk, progress⟩ : Reaction).Accepts := by
  have obtains : session.Obtains exchange event := by
    cases reacts_of_leads awaits leads with
    | disowned stranger answer => simp [Progress.session, requested] at left
    | kept serves outcome =>
      revert left
      refine outcome.elim ?_ ?_
      · rintro _ ⟨-, attempts, deadline, rfl⟩
        simp [Progress.session, serves.stage_eq, requested]
      · intro last error _ stage_eq
        simp [Progress.session, stage_eq]
    | moved serves obtains outcome => exact obtains
  obtain ⟨source, datagram, packet, arrived, peer, decoded, due⟩ := obtains
  refine ⟨source, datagram, arrived, peer, ?_⟩
  unfold IsDue at due
  cases hawaited : exchange.awaited with
  | data decoder =>
    rw [hawaited] at due
    obtain ⟨payload, rfl⟩ := due
    exact .inl ⟨decoder, payload, rfl, block_eq ▸ decoded⟩
  | acceptance =>
    rw [hawaited] at due
    subst due
    exact .inr ⟨rfl, decoded⟩
  | ack length supply => cases requested.symm.trans (awaits.ack hawaited)

/-! ## What is said -/

/-- Whoever was a stranger to the session is one later, and its peer is on the same host. -/
structure Follows (later session : Session) : Prop where
  host_eq : later.peer.ip = session.peer.ip
  stranger : ∀ {source : SocketAddress}, session.IsStranger source → later.IsStranger source

theorem Follows.refl (session : Session) : session.Follows session :=
  ⟨rfl, id⟩

theorem Follows.trans (h : later.Follows served) (h' : served.Follows session) :
    later.Follows session :=
  ⟨h.host_eq.trans h'.host_eq, fun stranger ↦ h.stranger (h'.stranger stranger)⟩

theorem SamePeer.follows (same : later.SamePeer session) : later.Follows session := by
  refine ⟨congrArg SocketAddress.ip same.peer_eq, fun stranger ↦ ?_⟩
  unfold IsStranger at stranger ⊢
  rwa [same.peer_eq, same.bound_eq]

theorem Serves.follows (serves : session.Serves served) : served.Follows session := by
  cases serves with
  | itself => exact .refl session
  | @bound source peer =>
    cases hbound : session.bound with
    | true =>
      rw [isStranger_iff_of_bound hbound, Decidable.not_not] at peer
      exact SamePeer.follows ⟨peer, hbound.symm⟩
    | false =>
      -- the port that is bound was one of the host's, none of which was a stranger
      rw [isStranger_iff_of_unbound hbound, Decidable.not_not] at peer
      refine ⟨peer, fun stranger ↦ ?_⟩
      rintro rfl
      exact (isStranger_iff_of_unbound hbound).mp stranger peer

theorem Proper.of_follows {said : Sigma Answer} (h : Proper opening? session said)
    (follows : later.Follows session) : Proper opening? later said := by
  cases h with
  | used used succeeded => exact .used used succeeded
  | sent host_eq work => exact .sent (host_eq.trans follows.host_eq.symm) work
  | disowned stranger answer => exact .disowned (follows.stranger stranger) answer

theorem Concludes.of_follows (h : Concludes opening? session talk progress)
    (follows : later.Follows session) : Concludes opening? later talk progress := by
  obtain ⟨before, ending, htalk, proper, hending⟩ := h
  exact ⟨before, ending, htalk, fun said hmem ↦ (proper said hmem).of_follows follows, hending⟩

/-- A session that waited has said nothing of a failure. -/
theorem Concludes.append {earlier : Talk} {current : Session}
    (h : Concludes opening? session earlier (.waiting current exchange))
    (h' : Concludes opening? session talk progress) :
    Concludes opening? session (earlier ++ talk) progress := by
  obtain ⟨before, ending, rfl, proper, ⟨⟩⟩ := h
  obtain ⟨before', ending', rfl, proper', hending⟩ := h'
  refine ⟨before ++ before', ending', by simp, fun said hmem ↦ ?_, hending⟩
  rcases List.mem_append.mp hmem with hearlier | hnow
  · exact proper said hearlier
  · exact proper' said hnow

/-- What is said in a turn. -/
theorem Outcome.concludes (h : Outcome opening? session sound talk progress)
    (ends : ∀ progress, sound progress → Ending opening? progress []) :
    Concludes opening? session talk progress := by
  induction h with
  | rests h => exact ⟨[], [], rfl, nofun, ends _ h⟩
  | sends work h => exact ⟨[_], [], rfl, by simpa using .sent rfl work, ends _ h⟩
  | fails same stage_eq words => exact ⟨[], _, rfl, nofun, .failed (same.peer_eq ▸ words)⟩
  | @uses said talk progress use used succeeded rest ih =>
    obtain ⟨before, ending, rfl, proper, hending⟩ := ih
    refine ⟨said :: before, ending, rfl, ?_, hending⟩
    intro other hmem
    rcases List.mem_cons.mp hmem with rfl | hlater
    · exact .used used succeeded
    · exact proper other hlater

/-- What is said in a reaction. -/
theorem Awaits.concludes (awaits : Awaits opening? session exchange)
    (leads : (session.react exchange event now).Leads talk progress) :
    progress.session.Follows session ∧ Concludes opening? progress.session talk progress := by
  have concludes {served : Session} {sound : Progress → Prop} (serves : session.Serves served)
      (outcome : Outcome opening? served sound talk progress)
      (same : ∀ progress, sound progress → progress.session.SamePeer served)
      (ends : ∀ progress, sound progress → Ending opening? progress []) :
      progress.session.Follows session ∧ Concludes opening? progress.session talk progress := by
    have hsame : progress.session.SamePeer served := outcome.elim same fun _ _ same _ ↦ same
    exact ⟨hsame.follows.trans serves.follows,
      (outcome.concludes ends).of_follows hsame.follows⟩
  cases reacts_of_leads awaits leads with
  | disowned stranger answer =>
    exact ⟨.refl session, [_], [], rfl, by simpa using .disowned stranger answer, .waiting _ _⟩
  | kept serves outcome =>
    refine concludes serves outcome ?_ ?_
    · rintro _ ⟨-, attempts, deadline, rfl⟩
      exact ⟨rfl, rfl⟩
    · rintro _ ⟨-, attempts, deadline, rfl⟩
      exact .waiting _ _
  | moved serves obtains outcome =>
    exact concludes serves outcome (fun _ ↦ Advances.samePeer) fun _ ↦ Advances.ending

theorem Runs.concludes (opens : session.Opens now opening? turn)
    (run : Runs turn first record progress) :
    Concludes opening? progress.session (saying first record) progress := by
  induction run with
  | @begun progress leads =>
    have outcome := comes_of_opens opens _ _ leads
    have same : progress.session.SamePeer session :=
      outcome.elim (fun _ ↦ Starts.samePeer) fun _ _ same _ ↦ same
    rw [saying, List.flatMap_nil, List.append_nil]
    exact (outcome.concludes fun _ ↦ Starts.ending).of_follows same.follows
  | reacted run event now leads ih =>
    obtain ⟨follows, concludes⟩ := (run.awaits opens).concludes leads
    rw [saying_snoc]
    exact (ih.of_follows follows).append concludes

/-- Whatever a session does and however its surroundings answer, its stage tells what has become of
it. -/
theorem told_of_runs (fresh : session.Fresh) (opens : session.Opens now opening? turn)
    (run : Runs turn first record progress) : Told opening? session first record progress := by
  have marked := run.isMarked opens
  exact {
    ordered := run.ordered fresh opens
    waited := by
      intro reaction hmem
      obtain ⟨earlier, later, rfl⟩ := List.append_of_mem hmem
      exact (run.split.1.awaits opens).stage
    waiting := by
      rintro current exchange rfl
      exact marked
    final := by
      rintro earlier later reaction rfl hstage
      obtain ⟨reached, leads⟩ := run.split
      have marked := (reached.snoc leads).isMarked opens
      obtain ⟨last, result, ended⟩ : ∃ last result, reaction.progress = .ended last result := by
        rcases hstage with hstage | hstage
        · obtain ⟨last, summary, ended⟩ := marked.completed_iff.mpr hstage
          exact ⟨last, _, ended⟩
        · obtain ⟨last, error, ended⟩ := marked.failed_iff.mpr hstage
          exact ⟨last, _, ended⟩
      obtain rfl := run.eq_nil_of_ended ended
      exact ⟨rfl, run.progress_of_snoc.symm⟩
    completed_iff := marked.completed_iff
    failed_iff := marked.failed_iff
    accepted := by
      rintro earlier later reaction rfl requested left
      obtain ⟨reached, leads⟩ := run.split
      obtain ⟨block_eq, unobtained⟩ := reached.unobtained opens requested
      exact ⟨(reached.awaits opens).accepts requested (block_eq.trans fresh.block_eq) leads left,
        unobtained⟩
    concludes := run.concludes opens }

/-- A session that has asked a server on the same host for a file. -/
def localAsker : Session :=
  { Session.requesting ⟨.localhost .four, 69, 0⟩ .octet {} with stage := .requestSent }

def localRequest : Bytes :=
  (Packet.readRequest (.inMode "a" .octet)).encode

/-- Its only block comes from the port that is going to be its peer's. -/
def localAnswer : Reaction where
  session := localAsker
  exchange :=
    { outstanding := localRequest, deadline := 1500, summary := {}, awaited := .data {} }
  event := .arrival ⟨.localhost .four, 1069, 0⟩ (Packet.encodeData 1 [104, 105])
  now := 1000
  talk := [⟨.write [104, 105], .ok ()⟩, ⟨.write [], .ok ()⟩, ⟨.flush, .ok ()⟩,
    ⟨.send ⟨.localhost .four, 1069, 0⟩ (Packet.encodeAck 1), .ok ()⟩]
  progress := .ended
    { localAsker.boundTo ⟨.localhost .four, 1069, 0⟩ with block := 2, stage := .completed }
    (.ok ⟨1, 2⟩)

theorem told_of_answer :
    Fresh (.requesting ⟨.localhost .four, 69, 0⟩ .octet {}) ∧
      Opens (.requesting ⟨.localhost .four, 69, 0⟩ .octet {}) 0 (some localRequest)
        (receive (.requesting ⟨.localhost .four, 69, 0⟩ .octet {}) localRequest 0) ∧
      Runs (receive (.requesting ⟨.localhost .four, 69, 0⟩ .octet {}) localRequest 0)
        [⟨.send ⟨.localhost .four, 69, 0⟩ localRequest, .ok ()⟩] [localAnswer]
        localAnswer.progress ∧
      Told (some localRequest) (.requesting ⟨.localhost .four, 69, 0⟩ .octet {})
        [⟨.send ⟨.localhost .four, 69, 0⟩ localRequest, .ok ()⟩] [localAnswer]
        localAnswer.progress := by
  have fresh : Fresh (.requesting ⟨.localhost .four, 69, 0⟩ .octet {}) := .requesting _ _ _
  have opens : Opens (.requesting ⟨.localhost .four, 69, 0⟩ .octet {}) 0 (some localRequest)
      (receive (.requesting ⟨.localhost .four, 69, 0⟩ .octet {}) localRequest 0) :=
    .receive localRequest
  have begun : Runs (receive (.requesting ⟨.localhost .four, 69, 0⟩ .octet {}) localRequest 0)
      [⟨.send ⟨.localhost .four, 69, 0⟩ localRequest, .ok ()⟩] []
      (.waiting localAnswer.session localAnswer.exchange) :=
    .begun (.ask _ (.done _))
  have leads : (localAnswer.session.react localAnswer.exchange localAnswer.event 1000).Leads
      localAnswer.talk localAnswer.progress :=
    Dialogue.leads_transcript (Stream.reply ⟨.localhost .four, 2069, 0⟩) _ (.sink {}, {})
  have run := Runs.reacted begun localAnswer.event 1000 leads
  exact ⟨fresh, opens, run, told_of_runs fresh opens run⟩

end Session

end Lockstep
