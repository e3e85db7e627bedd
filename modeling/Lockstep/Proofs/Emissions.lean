import Lockstep.Proofs.Encounters
import Lockstep.Proofs.Legibility
import Lockstep.Proofs.Beginnings

/-!
# What a server sends

Whatever reaches a server, at its well-known port or at the sockets of its handlers, everything that it
sends can be read as it was meant. A request that it does not admit, or whose file it can neither open
nor make, is answered with a single notice from a new port, and nothing is changed by it.
-/

namespace Lockstep

open Dialogue FileSystem

/-! ## Streams -/

namespace FileReader

theorem measured_fillWithin (reader : FileReader) (count fuel : Nat) :
    (reader.fillWithin count fuel).Meets (fun _ ↦ True) fun result ↦
      Session.Measured (.fill count) result.1 := by
  induction fuel generalizing reader count with
  | zero => exact List.length_take_le _ _
  | succ fuel ih =>
    unfold fillWithin
    dsimp only
    split
    · exact List.length_take_le _ _
    · refine (meets_question trivial).bind fun answer _ ↦ ?_
      cases answer with
      | error error => exact trivial
      | ok chunk =>
        cases chunk with
        | nil => exact List.length_take_le _ _
        | cons first others =>
          refine (ih _ _).bind fun result hresult ↦ ?_
          obtain ⟨rest, later⟩ := result
          cases rest with
          | error error => exact trivial
          | ok rest =>
            change (_ ++ rest).length ≤ count
            have hready := List.length_take_le count reader.buffer
            have hrest : rest.length ≤ _ := hresult
            rw [List.length_append]
            omega

end FileReader

namespace Source

theorem yield_le (source : Source) (count : Nat) : source.yield count ≤ count := by
  have capped (limit : Option Nat) {amount : Nat} (h : amount ≤ count) :
      (limit.map (min amount ·)).getD amount ≤ count := by
    cases limit with
    | none => exact h
    | some limit => exact Nat.le_trans (Nat.min_le_left _ _) h
  have hleft : min count (source.data.size - source.offset) ≤ count := Nat.min_le_left _ _
  have hpiece := capped source.piece hleft
  have hbroken := capped (source.brokenFrom.map (· - source.offset)) hpiece
  rw [Option.map_map] at hbroken
  exact hbroken

theorem length_read (source : Source) (count : Nat) :
    ∀ chunk, (source.read count).1 = .ok chunk → chunk.length ≤ count := by
  unfold read
  split
  · exact fun _ heq ↦ nomatch heq
  · rintro _ ⟨⟩
    have hyield := source.yield_le count
    rw [Array.length_toList, ByteArray.size_data, ByteArray.size_extract]
    omega

theorem measured_readFully (source : Source) (count fuel : Nat) :
    Session.Measured (.fill count) (source.readFully count fuel).1 := by
  induction fuel generalizing source count with
  | zero => exact Nat.zero_le _
  | succ fuel ih =>
    unfold readFully
    split
    · exact Nat.zero_le _
    · have hread := source.length_read count
      split
      · exact trivial
      · exact Nat.zero_le _
      · next first others later heq =>
        have hchunk : (first :: others).length ≤ count := hread _ (by rw [heq])
        have hrest := ih later (count - (first :: others).length)
        dsimp only
        cases hrest' : (later.readFully (count - (first :: others).length) fuel).1 with
        | error error => exact trivial
        | ok rest =>
          rw [hrest'] at hrest
          change ((first :: others) ++ rest).length ≤ count
          have hshort : rest.length ≤ count - (first :: others).length := hrest
          rw [List.length_append]
          omega

end Source

/-- If the call sends anything, it can be read as it was meant. -/
def Call.IsLegible (call : Call) : Prop :=
  ∀ origin destination packet, call = .send origin destination packet → Packet.IsLegible packet

theorem Call.IsSilent.isLegible {call : Call} (h : call.IsSilent) : call.IsLegible :=
  fun origin destination packet heq ↦ absurd heq (h origin destination packet)

theorem Call.PutsAway.isLegible {call : Call} (h : call.PutsAway) : call.IsLegible := by
  rintro _ _ _ rfl
  exact h.elim

namespace Stream

/-- A stream that is asked for a block yields no more than that. -/
theorem measured_answer (socket : SocketAddress) (stream : Stream) (question : Session.Question) :
    (stream.answer socket question).Meets (stream.Answers socket question) fun result ↦
      Session.Measured question result.1 := by
  have hanswer := stream.answer_meets socket question
  suffices h : (stream.answer socket question).Meets (fun _ ↦ True) fun result ↦
      Session.Measured question result.1 from
    (hanswer.and h).mono (fun _ h ↦ h.1) fun _ h ↦ h.2
  cases question with
  | fill count =>
    cases stream with
    | reader reader =>
      exact (reader.measured_fillWithin count (count + 1)).bind fun _ hresult ↦ hresult
    | source source => exact source.measured_readFully count count
    | sink sink => exact Nat.zero_le _
    | writer writer => exact Nat.zero_le _
  | _ => exact hanswer.mono (fun _ _ ↦ trivial) fun _ _ ↦ trivial

theorem legible_converse {turn : Session.Turn Session.Progress} (legible : Session.Legible turn)
    (socket : SocketAddress) (stream : Stream) :
    (stream.converse socket turn).Meets Call.IsLegible fun result ↦
      Session.Progress.IsLegible result.1 := by
  refine meets_converse (fun stream question asked ↦ ?_) legible stream
  refine (stream.measured_answer socket question).mono ?_ fun _ h ↦ h
  rintro call ⟨-, hquestion⟩ origin destination packet heq
  rw [hquestion origin destination packet heq] at asked
  exact asked

end Stream

/-! ## Notices -/

/-- The notice can be read as it was meant, and it is not too long to leave. -/
structure Notice.IsSendable (notice : Notice) : Prop where
  text : FitsField notice.message
  short : (Packet.error notice).encode.length ≤ maxDatagramSize

theorem Packet.length_encode_error (notice : Notice) :
    (Packet.error notice).encode.length = (Bytes.ofText notice.message).length + 5 := by
  rw [encode, encodeError, List.length_append, List.length_append, List.length_append,
    Bytes.length_ofWord, Bytes.length_ofWord]
  simp only [List.length_singleton]
  omega

theorem Server.IsExplanation.isSendable {notice : Notice} (h : IsExplanation notice) :
    notice.IsSendable := by
  cases h with
  | ofSystem error use =>
    generalize error.code use = code
    refine ⟨code.fitsField_defaultMessage, ?_⟩
    cases code <;> decide +kernel
  | _ => constructor <;> decide +kernel

theorem Server.IsRejection.isSendable {datagram : Bytes} {notice : Notice}
    (h : IsRejection datagram notice) (hlength : datagram.length ≤ requestBuffer) :
    notice.IsSendable := by
  cases h with
  | explained h => exact h.isSendable
  | @refused refusal refused =>
    refine ⟨Admission.fitsField_of_refused refused, ?_⟩
    have hmessage := Admission.length_of_refused refused
    have hbuffer : requestBuffer + 65 ≤ maxDatagramSize := by decide
    change (Bytes.ofText refusal.notice.message).length ≤ _ at hmessage
    rw [Packet.length_encode_error]
    omega

/-! ## Handlers -/

namespace Handler

variable {socket client : SocketAddress} {handler : Handler} {config : TransferConfig}
  {now since : Nat}

/-- What the handler may have to send again can be read as it was meant. -/
def IsLegible (handler : Handler) : Prop :=
  Packet.IsLegible handler.transfer.exchange.outstanding

theorem legible_follow {turn : Session.Turn Session.Progress} (legible : Session.Legible turn)
    (socket client : SocketAddress) (stream : Stream) (upload : Option Upload) (since : Nat) :
    (Transfer.takeTurn socket stream turn since >>= follow socket client upload).Meets
      Call.IsLegible fun handler? ↦ ∀ handler ∈ handler?, handler.IsLegible := by
  have hturn := meets_follow (fun _ h ↦ h.isLegible) (stream.legible_converse legible socket) client
    upload since
  exact hturn.mono (fun _ h ↦ h) fun _ hresult handler hmem ↦ (hresult handler hmem).2.2

theorem IsLegible.react (h : handler.IsLegible) (event : Session.Event) (now since : Nat) :
    (handler.react event now since).Meets Call.IsLegible fun handler? ↦
      ∀ handler ∈ handler?, handler.IsLegible :=
  legible_follow (Session.legible_react h _ now) _ _ _ _ _

/-- A datagram is answered with something that can be read, whatever it is. -/
theorem legible_open? (client : SocketAddress) (datagram : Bytes) (root : Path)
    (config : TransferConfig) (now since : Nat) :
    (open? client (datagram.take requestBuffer) root config now since).Meets Call.IsLegible
      fun handler? ↦ ∀ handler ∈ handler?, handler.IsLegible := by
  have nobody : ∀ handler ∈ (none : Option Handler), handler.IsLegible :=
    fun handler hmem ↦ (Option.not_mem_none handler hmem).elim
  apply meets_open? (fun _ h ↦ h.isLegible) nobody
  intro socket
  apply meets_attend (fun _ h ↦ h.isLegible)
  · intro notice rejection
    apply meets_reject (fun _ h ↦ h.isLegible) _ nobody
    rintro _ _ _ ⟨⟩
    exact Packet.isLegible_encodeError _ (rejection.isSendable (List.length_take_le _ _)).text
  · exact fun mode stream ↦ legible_follow (Session.legible_beginSending _ now) _ _ _ _ _
  · exact fun mode stream upload ↦
      legible_follow (Session.legible_receive _ (Packet.isLegible_encodeAck 0) now) _ _ _ _ _

end Handler

/-! ## Requests that are turned down -/

/-- A socket on any port is the last one that was opened, and its port was free if there was any. -/
theorem Network.exists_opened_of_bind {network : Network} {ip : Ip} {socket : SocketAddress}
    (h : (network.bind ⟨ip, 0, 0⟩).1 = .ok socket) :
    (∃ nextPort, network.bind ⟨ip, 0, 0⟩ = (.ok socket, network.opened socket nextPort)) ∧
      (network.sockets.length < 65536 → network.isTaken socket = false) := by
  constructor
  · unfold bind at h ⊢
    split at h
    · cases h
    · next hlocal =>
      rw [if_pos rfl] at h
      cases h
      rw [if_neg hlocal, if_pos rfl]
      exact ⟨_, rfl⟩
  · intro room
    rcases bind_ephemeral_cases room ip with ⟨-, error, hbind⟩ | ⟨found, nextPort, -, free, hbind⟩
    · rw [hbind] at h
      cases h
    · rw [hbind] at h
      cases h
      exact free

namespace Machine

variable {First Second Result : Type}

theorem posts_bind (machine : Machine) (program : Program First) (next : First → Program Second) :
    machine.posts (program >>= next) =
      machine.posts program ++ (machine.run program).2.posts (next (machine.run program).1) := by
  unfold posts
  rw [log_bind, List.filterMap_append]

theorem posts_of_silent {program : Program Result} {returns : Result → Prop}
    (h : program.Meets Call.IsSilent returns) (machine : Machine) : machine.posts program = [] := by
  apply List.filterMap_eq_nil_iff.mpr
  intro entry hentry
  have silent := log_of_meets h hentry
  cases hpost : entry.2.post? entry.1 with
  | none => rfl
  | some datagram =>
    obtain ⟨socket, hcall, -⟩ := Call.exists_of_post? hpost
    exact absurd hcall (silent _ _ _)

theorem legible_of_meets {program : Program Result} {returns : Result → Prop}
    (h : program.Meets Call.IsLegible returns) (machine : Machine) :
    ∀ datagram ∈ machine.posts program, Packet.IsLegible datagram.payload := by
  intro datagram hmem
  obtain ⟨entry, hentry, socket, hcall, -⟩ := exists_of_mem_posts hmem
  exact log_of_meets h hentry _ _ _ hcall

end Machine

namespace Server

/-- The datagram is a request that is admitted, and its file can be opened or made. -/
def Grants (system : FileSystem) (root : Path) (datagram : Bytes) : Prop :=
  ∃ admission path, Admission.ofDatagram datagram = .ok admission ∧
    Means system root admission.request.filename path ∧
    match admission.role with
    | .sender => system.isRegularFile path = .ok true ∧ ∃ handle, system.openFile path = .ok handle
    | .receiver => ∃ result, system.createFile path = .ok result

end Server

namespace Handler

variable {socket client : SocketAddress} {path root : Path} {datagram : Bytes} {mode : Mode}
  {config : TransferConfig} {now since : Nat} {machine : Machine}

/-- A program has come to the notice, has sent nothing and has changed nothing. -/
structure GivesUp (machine : Machine) (program : Program Commencement) (notice : Notice) : Prop where
  run_eq : machine.run program = (.error notice, machine)
  posts_eq : machine.posts program = []

theorem GivesUp.bind {First : Type} {first : Program First} {next : First → Program Commencement}
    {returns : First → Prop} {notice : Notice} (silent : first.Meets Call.IsSilent returns)
    {result : First} (hrun : machine.run first = (result, machine))
    (h : GivesUp machine (next result) notice) : GivesUp machine (first >>= next) notice where
  run_eq := by
    rw [Machine.run_bind, hrun]
    exact h.run_eq
  posts_eq := by
    rw [Machine.posts_bind, Machine.posts_of_silent silent, hrun]
    exact h.posts_eq

theorem givesUp_of_error (machine : Machine) (notice : Notice) :
    GivesUp machine (pure (.error notice)) notice :=
  ⟨rfl, rfl⟩

/-- A file that cannot be opened is not read. -/
theorem exists_givesUp_read
    (closed : ¬ (machine.files.isRegularFile path = .ok true ∧
      ∃ handle, machine.files.openFile path = .ok handle)) :
    ∃ notice, Server.IsExplanation notice ∧
      GivesUp machine (commenceRead socket client path mode config now since) notice := by
  have explains := Server.explains_openToRead path
  have hsame := run_openToRead machine path
  have hexplained := Machine.returns_of_meets explains machine
  cases hopen : (machine.run (Server.openToRead path)).1 with
  | error notice =>
    refine ⟨notice, hexplained notice hopen, .bind explains (Prod.ext hopen hsame) ?_⟩
    exact givesUp_of_error machine notice
  | ok handle =>
    obtain ⟨regular, opened⟩ := Server.openToRead_eq_ok_iff.mp hopen
    exact absurd ⟨regular, handle, opened⟩ closed

/-- A file that cannot be made is not written. -/
theorem exists_givesUp_write
    (closed : ¬ ∃ result, machine.files.createFile path = .ok result) :
    ∃ notice, Server.IsExplanation notice ∧
      GivesUp machine (commenceWrite socket client path mode config now since) notice := by
  cases hmake : machine.files.createFile path with
  | error error =>
    refine ⟨_, .ofSystem error .writing, .bind (Server.explains_openToWrite path)
      (Server.run_openToWrite_of_error hmake) ?_⟩
    exact givesUp_of_error machine _
  | ok result => exact absurd ⟨result, hmake⟩ closed

/-- A request that is not granted is turned down before anything is sent or changed. -/
theorem exists_givesUp (h : ¬ Server.Grants machine.files root datagram) :
    ∃ notice, Server.IsRejection datagram notice ∧
      GivesUp machine (commence socket client datagram root config now since) notice := by
  unfold commence
  cases admitted : Admission.ofDatagram datagram with
  | error refusal => exact ⟨_, .refused admitted, givesUp_of_error machine _⟩
  | ok admission =>
    have explains := Server.explains_resolve root admission.request.filename
    have hexplained := Machine.returns_of_meets explains machine
    obtain ⟨result, hrun, -⟩ := Server.run_resolve machine root admission.request.filename
    rw [hrun] at hexplained
    cases result with
    | error notice =>
      exact ⟨notice, .explained (hexplained notice rfl),
        .bind explains hrun (givesUp_of_error machine notice)⟩
    | ok path =>
      have closed := fun granted ↦
        h ⟨admission, path, admitted, Server.means_of_run hrun, granted⟩
      suffices ∃ notice, Server.IsExplanation notice ∧ GivesUp machine _ notice by
        obtain ⟨notice, explanation, givesUp⟩ := this
        exact ⟨notice, .explained explanation, .bind explains hrun givesUp⟩
      dsimp only
      cases hrole : admission.role with
      | sender =>
        rw [hrole] at closed
        exact exists_givesUp_read closed
      | receiver =>
        rw [hrole] at closed
        exact exists_givesUp_write closed

/-- For a request that is granted a session is begun. -/
theorem exists_begun (h : Server.Grants machine.files root datagram) :
    ∃ begun, (machine.run (commence socket client datagram root config now since)).1 =
      .ok begun := by
  obtain ⟨admission, path, admitted, means, granted⟩ := h
  unfold commence
  rw [admitted]
  dsimp only
  rw [Machine.run_bind, means.run]
  cases hrole : admission.role with
  | sender =>
    rw [hrole] at granted
    obtain ⟨regular, handle, opened⟩ := granted
    dsimp only
    unfold commenceRead
    rw [Machine.run_bind, Server.openToRead_eq_ok_iff.mpr ⟨regular, opened⟩]
    dsimp only
    rw [Machine.run_bind]
    exact ⟨_, rfl⟩
  | receiver =>
    rw [hrole] at granted
    obtain ⟨⟨files, id⟩, made⟩ := granted
    dsimp only
    unfold commenceWrite
    rw [Machine.run_bind, Server.run_openToWrite_of_ok made]
    dsimp only
    rw [Machine.run_bind]
    exact ⟨_, rfl⟩

/-- A session is begun for the requests that are granted, and for no others. -/
theorem begins_iff_grants :
    (∃ begun, (machine.run (commence socket client datagram root config now since)).1 = .ok begun) ↔
      Server.Grants machine.files root datagram := by
  refine ⟨fun ⟨begun, hbegun⟩ ↦ ?_, exists_begun⟩
  by_contra refused
  obtain ⟨notice, -, givesUp⟩ :=
    @exists_givesUp socket client root datagram config now since machine refused
  rw [givesUp.run_eq] at hbegun
  cases hbegun

/-- A request that is not granted is answered with one notice from the socket that was opened for it,
and no handler stays. -/
theorem exists_turnedDown (h : ¬ Server.Grants machine.files root datagram)
    {bound : Machine}
    (opened : machine.answer (.bind (address client config)) = (.ok socket, bound)) :
    ∃ notice, Server.IsRejection datagram notice ∧
      machine.run (open? client datagram root config now since) =
        (none, { bound with
          network := (bound.network.send bound.now socket client
            (Packet.error notice).encode).2.close socket }) ∧
      machine.posts (open? client datagram root config now since) =
        [⟨bound.now, socket.sourceFor client, client, (Packet.error notice).encode⟩] := by
  have hfiles : bound.files = machine.files := by
    have hsame : (machine.answer (.bind (address client config))).2.files = machine.files := rfl
    rw [opened] at hsame
    exact hsame
  rw [← hfiles] at h
  obtain ⟨notice, rejection, run_eq, posts_eq⟩ :=
    @exists_givesUp socket client root datagram config now since bound h
  refine ⟨notice, rejection, ?_, ?_⟩
  · rw [open?_eq, Machine.run_bind, Machine.run_call, opened]
    dsimp only
    rw [attend_eq, Machine.run_bind, run_eq]
    rfl
  · have silent : machine.posts (Program.call (.bind (address client config))) = [] := rfl
    rw [open?_eq, Machine.posts_bind, silent, Machine.run_call, opened]
    dsimp only
    rw [attend_eq, Machine.posts_bind, posts_eq, run_eq]
    rfl

end Handler

/-! ## Servers -/

namespace Service

variable {service : Service}

/-- What the server sends about a stimulus, whether it leaves or not. -/
def posts (service : Service) (socket : SocketAddress) (stimulus : Stimulus) (now since : Nat) :
    List Datagram :=
  service.machine.posts (service.reaction socket stimulus now since)

/-- What the handlers may have to send again can be read as it was meant. -/
def IsLegible (service : Service) : Prop :=
  ∀ handler ∈ service.server.handlers, handler.IsLegible

/-- About a stimulus nothing is sent that cannot be read as it was meant, and nothing is kept to be sent
again. -/
theorem IsLegible.react (h : service.IsLegible) (socket : SocketAddress) (stimulus : Stimulus)
    (now since : Nat) :
    (∀ datagram ∈ service.posts socket stimulus now since, Packet.IsLegible datagram.payload) ∧
      (service.react socket stimulus now since).IsLegible := by
  have silent {log : List (Machine × Call)} (hlog : log.filterMap (fun entry ↦
      entry.2.post? entry.1) = []) : ∀ datagram ∈ log.filterMap (fun entry ↦
        entry.2.post? entry.1), Packet.IsLegible datagram.payload := by
    rw [hlog]
    exact fun _ hmem ↦ absurd hmem List.not_mem_nil
  unfold posts Machine.posts
  cases service.reacts socket stimulus now since with
  | @opens client datagram at_port stimulus_eq server_eq machine_eq log_eq =>
    have meets := Handler.legible_open? client datagram service.server.root service.server.config
      now since
    rw [log_eq]
    refine ⟨Machine.legible_of_meets meets service.machine, ?_⟩
    unfold IsLegible
    rw [server_eq, List.forall_mem_append]
    refine ⟨h, fun handler hmem ↦ ?_⟩
    exact Machine.returns_of_meets meets service.machine handler (Option.mem_toList.mp hmem)
  | closes at_port stimulus_eq failed server_eq machine_eq log_eq =>
    rw [log_eq]
    refine ⟨silent rfl, ?_⟩
    unfold IsLegible
    rw [server_eq]
    exact h
  | @handles handler front back at_handler handlers_eq server_eq machine_eq log_eq =>
    unfold IsLegible at h ⊢
    rw [handlers_eq, List.forall_mem_append, List.forall_mem_cons] at h
    obtain ⟨hfront, hhandler, hback⟩ := h
    have meets := hhandler.react stimulus.event now since
    rw [log_eq, server_eq]
    refine ⟨Machine.legible_of_meets meets service.machine, ?_⟩
    rw [List.forall_mem_append, List.forall_mem_append]
    refine ⟨⟨hfront, fun handler hmem ↦ ?_⟩, hback⟩
    exact Machine.returns_of_meets meets service.machine handler (Option.mem_toList.mp hmem)
  | ignores nobody unasked server_eq machine_eq log_eq =>
    rw [log_eq]
    refine ⟨silent rfl, ?_⟩
    unfold IsLegible
    rw [server_eq]
    exact h

theorem IsLegible.step (h : service.IsLegible) {after : Service} (hstep : service.Step after) :
    after.IsLegible := by
  cases hstep with
  | reacts socket stimulus now since => exact (h.react socket stimulus now since).2
  | stops =>
    have same : service.stop.server.handlers = service.server.handlers :=
      (files_stop service.server service.machine).1
    unfold IsLegible
    rw [same]
    exact h
  | passes => exact h

theorem IsLegible.run (h : service.IsLegible) {after : Service}
    (steps : Relation.ReflTransGen Step service after) : after.IsLegible := by
  induction steps with
  | refl => exact h
  | tail _ hstep ih => exact ih.step hstep

/-- From the one service to the other a client has been sent one notice from a new port, and nothing
else has become of its request. -/
structure TurnsDown (before after : Service) (posts : List Datagram) (client socket : SocketAddress)
    (notice : Notice) : Prop where
  posts_eq : posts =
    [⟨before.machine.now, socket.sourceFor client, client, (Packet.error notice).encode⟩]
  /-- Whoever gets it reads the notice. -/
  read : Packet.decode (Packet.error notice).encode = .ok (.error notice)
  /-- As long as there is any free port, it is one. -/
  fresh : before.machine.network.sockets.length < 65536 →
    before.machine.network.isTaken socket = false
  files_eq : after.files = before.files
  server_eq : after.server = before.server
  /-- It leaves, unless sends fail or there is no way to the client. -/
  leaves : before.machine.network.faults = [] → socket.ip.family = client.ip.family →
    after.machine.network.outbox = before.machine.network.outbox ++ posts

/-- All that a server sends can be read as it was meant, and requests that open no session are answered
with a notice. -/
structure Speaks (service : Service) : Prop where
  legible : ∀ socket stimulus now since, ∀ datagram ∈ service.posts socket stimulus now since,
    Packet.IsLegible datagram.payload
  /-- Nothing else leaves. -/
  leaves : ∀ socket stimulus now since,
    (service.react socket stimulus now since).machine.network.outbox.Sublist
      (service.machine.network.outbox ++ service.posts socket stimulus now since)
  /-- A server that is told to stop says nothing. -/
  stops : service.machine.posts service.server.stop = []
  turnsDown : ∀ listener client datagram fresh, ∀ now since,
    service.server.listener = some listener →
    ¬ Server.Grants service.files service.server.root (datagram.take requestBuffer) →
    (service.machine.answer (.bind (Handler.address client service.server.config))).1 = .ok fresh →
      ∃ notice, service.TurnsDown
        (service.react listener (.reception (.datagram client datagram)) now since)
        (service.posts listener (.reception (.datagram client datagram)) now since) client fresh
        notice

/-- A request that is not granted is turned down from a new port. -/
theorem exists_turnsDown {listener client fresh : SocketAddress} {datagram : Bytes}
    (now since : Nat) (hlistener : service.server.listener = some listener)
    (refused : ¬ Server.Grants service.files service.server.root (datagram.take requestBuffer))
    (opened : (service.machine.answer (.bind (Handler.address client service.server.config))).1 =
      .ok fresh) :
    ∃ notice, service.TurnsDown
      (service.react listener (.reception (.datagram client datagram)) now since)
      (service.posts listener (.reception (.datagram client datagram)) now since) client fresh
      notice := by
  obtain ⟨⟨nextPort, hbind⟩, free⟩ := Network.exists_opened_of_bind opened
  have hanswer : service.machine.answer (.bind (Handler.address client service.server.config)) =
      (.ok fresh, service.machine.opened fresh nextPort) := congrArg service.machine.withNetwork hbind
  obtain ⟨notice, rejection, hrun, hposts⟩ :=
    @Handler.exists_turnedDown fresh client _ _ _ now since service.machine refused _ hanswer
  have sendable := rejection.isSendable (List.length_take_le _ _)
  refine ⟨notice, ?_⟩
  cases service.reacts listener (.reception (.datagram client datagram)) now since with
  | opens at_port stimulus_eq server_eq machine_eq log_eq =>
    cases stimulus_eq
    unfold opening at machine_eq server_eq
    rw [hrun] at machine_eq server_eq
    have posts_eq : service.posts listener _ now since = _ :=
      (congrArg (List.filterMap _) log_eq).trans hposts
    refine ⟨posts_eq, Packet.IsFaithful.decode_encode sendable.text, free, ?_, ?_, ?_⟩
    · rw [files, machine_eq]
      rfl
    · rw [server_eq]
      simp
    · intro faults family
      have hsent := @Network.send_of_clear (service.machine.network.opened fresh nextPort)
        service.machine.now fresh client _ faults family sendable.short
      rw [machine_eq, posts_eq]
      exact congrArg (fun result ↦ (result.2.close fresh).outbox) hsent
  | closes at_port stimulus_eq => cases stimulus_eq
  | handles at_handler => exact absurd hlistener (not_listener_of_handlerAt? at_handler).1
  | ignores nobody unasked => exact absurd rfl (unasked hlistener _ _)

/-- Whatever has reached a server from its start on. -/
theorem speaks_of_steps (config : ServerConfig) (listener : SocketAddress) (machine : Machine)
    (steps : Relation.ReflTransGen Step (start config listener machine) service) :
    service.Speaks where
  legible socket stimulus now since := by
    have begins : (start config listener machine).IsLegible :=
      fun _ hmem ↦ absurd hmem List.not_mem_nil
    exact ((begins.run steps).react socket stimulus now since).1
  leaves socket stimulus now since := Machine.outbox_run _ _
  stops := by
    unfold Machine.posts
    cases hlistener : service.server.listener with
    | none =>
      rw [(run_stop_of_none hlistener service.machine).2]
      rfl
    | some listener =>
      rw [(run_stop hlistener service.machine).2]
      rfl
  turnsDown listener client datagram fresh now since hlistener refused opened :=
    exists_turnsDown now since hlistener refused opened

/-- A server that is at work on a request, and something that is no request. -/
theorem speaks_of_requests :
    (small.react ⟨.localhost .four, 69, 0⟩ Server.smallStimulus 0 0).Speaks ∧
      ∃ notice, small.TurnsDown
        (small.react ⟨.localhost .four, 69, 0⟩
          (.reception (.datagram ⟨.localhost .four, 1069, 0⟩ [0, 9])) 0 0)
        (small.posts ⟨.localhost .four, 69, 0⟩
          (.reception (.datagram ⟨.localhost .four, 1069, 0⟩ [0, 9])) 0 0)
        ⟨.localhost .four, 1069, 0⟩ ⟨.localhost .four, 50000, 0⟩ notice := by
  have step : small.Step _ := .reacts ⟨.localhost .four, 69, 0⟩ Server.smallStimulus 0 0
  have refused : ¬ Server.Grants small.files small.server.root
      (List.take requestBuffer [0, 9]) := by
    rintro ⟨admission, path, admitted, -⟩
    cases admitted
  refine ⟨speaks_of_steps _ _ _ (.single step), ?_⟩
  exact (speaks_of_steps _ _ _ .refl).turnsDown _ _ _ _ 0 0 rfl refused rfl

end Service

end Lockstep
