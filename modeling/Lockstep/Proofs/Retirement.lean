import Lockstep.Proofs.Usage

/-!
# Servers that stop

A server that is told to stop closes its well-known port at once. The handlers that are at work do not
notice. Two courses of one service are followed here, in one of which the server has been stopped
while in the other it goes on and may be asked for more: whatever reaches a handler that was there,
the handler sends the same datagrams in both, comes to the same result and leaves the same file.
-/

namespace Lockstep

open FileSystem

/-- Something that reaches a socket of the host. -/
structure Incident where
  socket : SocketAddress
  stimulus : Stimulus
  now : Nat
  since : Nat
  /-- The failures that the sends to come run into. -/
  faults : List SystemError

namespace Handler

/-- A handler changes no file but the one that it receives. -/
theorem Proceeds.file?_react {handler : Handler} {journal : FileId → Record} {machine : Machine}
    (h : handler.Proceeds journal machine.files) (event : Session.Event) (now since : Nat)
    {id : FileId} (other : ∀ upload, handler.upload = some upload → id ≠ upload.file) :
    (machine.run (handler.react event now since)).2.files.file? id = machine.files.file? id := by
  cases hupload : handler.upload with
  | none => rw [(files_react_of_reads hupload (h.reads hupload) event now since machine).1]
  | some upload =>
    exact ((h.tends upload hupload).agreesBut_react hupload event now since).files id
      (other upload hupload)

/-- The old files stay when a handler is made. -/
theorem Opens.file?_eq {datagram : Bytes} {before after : FileSystem} {handler? : Option Handler}
    (h : Opens datagram before handler? after) {id : FileId} (old : id < before.nextId) :
    after.file? id = before.file? id := by
  cases h with
  | refused => rfl
  | reads => rfl
  | writes admitted role_eq upload_eq mode_eq file_eq vacant agree =>
    exact agree.files id (Nat.ne_of_lt old)
  | undone vacant gone agree => exact agree.files id (Nat.ne_of_lt old)

/-- What a new handler receives goes to a new file. -/
theorem Opens.upload_file {datagram : Bytes} {before after : FileSystem} {handler : Handler}
    (h : Opens datagram before (some handler) after) {upload : Upload}
    (hupload : handler.upload = some upload) : upload.file = before.nextId := by
  cases h with
  | reads upload_eq => cases upload_eq.symm.trans hupload
  | writes admitted role_eq upload_eq mode_eq file_eq =>
    cases upload_eq.symm.trans hupload
    exact file_eq

end Handler

namespace Service

/-- The service when something is about to happen. -/
def facing (service : Service) (now : Nat) (faults : List SystemError) : Service :=
  { service with machine := service.machine.facing now faults }

/-- What happens, happens. -/
def attend (service : Service) (incident : Incident) : Service :=
  (service.facing incident.now incident.faults).react incident.socket incident.stimulus
    incident.now incident.since

def run (service : Service) (happenings : List Incident) : Service :=
  happenings.foldl attend service

/-- The effect of what happens to a handler. -/
def effect (service : Service) (handler : Handler) (incident : Incident) : Effect :=
  handler.effect (service.machine.facing incident.now incident.faults) incident.stimulus.event
    incident.now incident.since

/-- The effect of what happens, if a handler is there. -/
def effect? (service : Service) (incident : Incident) : Option Effect :=
  (service.server.handlerAt? incident.socket).map (service.effect · incident)

/-- The effects of all that happens, one after the other. -/
def effects (service : Service) : List Incident → List (Option Effect)
  | [] => []
  | incident :: rest => service.effect? incident :: (service.attend incident).effects rest

/-- Nothing that is written when it happens runs out of space. -/
def HasRoom (service : Service) (incident : Incident) : Prop :=
  (service.machine.facing incident.now incident.faults).HasRoom
    (Activity.reactServer service.server incident.socket incident.stimulus incident.now
      incident.since)

/-- There is a port left for another socket. -/
def HasPort (service : Service) : Prop :=
  service.machine.network.sockets.length < 65536

/-- The condition holds whenever something happens. -/
def Throughout (condition : Service → Incident → Prop) (service : Service) : List Incident → Prop
  | [] => True
  | incident :: rest =>
    condition service incident ∧ (service.attend incident).Throughout condition rest

variable {service : Service} {now : Nat} {faults : List SystemError}

theorem Invariant.facing (h : service.Invariant) (now : Nat) (faults : List SystemError) :
    (service.facing now faults).Invariant :=
  ⟨h.sound, h.proceeds, h.apart⟩

theorem mem_of_handlerAt? {socket : SocketAddress} {handler : Handler}
    (h : service.server.handlerAt? socket = some handler) :
    handler ∈ service.server.handlers :=
  List.mem_of_find?_eq_some (not_listener_of_handlerAt? h).2

theorem socket_of_handlerAt? {socket : SocketAddress} {handler : Handler}
    (h : service.server.handlerAt? socket = some handler) : handler.transfer.socket = socket := by
  simpa using List.find?_some (not_listener_of_handlerAt? h).2

theorem Wired.facing (h : service.Wired) (now : Nat) (faults : List SystemError) :
    (service.facing now faults).Wired :=
  ⟨h.opened, h.distinct⟩

/-- A server keeps its port or closes it, and opens no other one. -/
theorem listener_react (service : Service) (socket : SocketAddress) (stimulus : Stimulus)
    (now since : Nat) :
    (service.react socket stimulus now since).server.listener = service.server.listener ∨
      (service.react socket stimulus now since).server.listener = none := by
  cases service.reacts socket stimulus now since with
  | opens at_port stimulus_eq server_eq => exact .inl (by rw [server_eq])
  | closes at_port stimulus_eq failed server_eq => exact .inr (by rw [server_eq])
  | handles at_handler handlers_eq server_eq => exact .inl (by rw [server_eq])
  | ignores nobody unasked server_eq => exact .inl (by rw [server_eq])

theorem Wired.nodup_handlers (h : service.Wired) : service.server.handlers.Nodup :=
  (List.nodup_append.mp h.distinct).2.1.of_map

/-! ## Two courses of a service -/

/-- The two services have the same elder handlers, and the files that these use are stored alike. The
second service may have younger handlers with files of their own, but none if the two devices are to
have exactly the same room. -/
structure Abreast (exact : Prop) (bound : FileId) (retired serving : Service) : Prop where
  handlers : ∃ younger, serving.server.handlers = retired.server.handlers ++ younger ∧
    (exact → younger = []) ∧
    ∀ handler ∈ younger, ∀ upload, handler.upload = some upload → bound ≤ upload.file
  below : ∀ handler ∈ retired.server.handlers, handler.UsesBelow bound
  stored : ∀ id < bound, retired.files.file? id = serving.files.file? id
  room : serving.files.Affords exact retired.files

/-- The first of two services that go side by side has no well-known port any more. -/
structure Alongside (exact : Prop) (bound : FileId) (listener : Option SocketAddress)
    (retired serving : Service) : Prop extends Abreast exact bound retired serving where
  invariant : retired.Invariant
  invariant' : serving.Invariant
  wired : serving.Wired
  closed : retired.server.listener = none
  port : serving.server.listener = listener ∨ serving.server.listener = none
  numbers : bound ≤ serving.files.nextId

namespace Alongside

variable {exact : Prop} {bound : FileId} {listener : Option SocketAddress} {socket : SocketAddress}
  {retired serving : Service} {stimulus : Stimulus} {since : Nat} {handler : Handler}

theorem facing (h : Alongside exact bound listener retired serving) (now : Nat)
    (faults : List SystemError) :
    Alongside exact bound listener (retired.facing now faults) (serving.facing now faults) where
  toAbreast := ⟨h.handlers, h.below, h.stored, h.room⟩
  invariant := h.invariant.facing now faults
  invariant' := h.invariant'.facing now faults
  wired := h.wired.facing now faults
  closed := h.closed
  port := h.port
  numbers := h.numbers

theorem listener_eq (h : Alongside exact bound listener retired serving)
    (hsocket : serving.server.listener = some socket) : listener = some socket := by
  rcases h.port with hsame | hnone
  · exact hsame.symm.trans hsocket
  · exact absurd (hnone.symm.trans hsocket) nofun

/-- A handler that is there in the first service is there in the second. -/
theorem handlerAt?_eq (h : Alongside exact bound listener retired serving)
    (hat : retired.server.handlerAt? socket = some handler) :
    serving.server.handlerAt? socket = some handler := by
  obtain ⟨younger, hhandlers, -, -⟩ := h.handlers
  obtain ⟨-, hfind⟩ := not_listener_of_handlerAt? hat
  have hne : serving.server.listener ≠ some socket := by
    intro hlistener
    apply h.wired.listener_not_mem hlistener
    rw [hhandlers, ← socket_of_handlerAt? hat]
    exact List.mem_map_of_mem (List.mem_append_left _ (List.mem_of_find?_eq_some hfind))
  unfold Server.handlerAt?
  rw [if_neg hne, hhandlers, List.find?_append, hfind]
  rfl

/-- What a handler uses is stored alike. -/
theorem twin (h : Alongside exact bound listener retired serving)
    (hmem : handler ∈ retired.server.handlers) :
    handler.Twin serving.files retired.files handler := by
  have uses : handler.transfer.stream.UsesBelow bound := h.below handler hmem
  have alike : ∀ id, handler.transfer.stream.Uses id →
      retired.files.file? id = serving.files.file? id :=
    fun id huses ↦ h.stored id (uses.below id huses)
  have filed := uses.filed
  refine ⟨rfl, ⟨?_, rfl, rfl, rfl⟩, rfl⟩
  generalize handler.transfer.stream = stream at alike filed
  cases stream with
  | reader reader => exact .reader fun id hid ↦ alike id (.inl (congrArg some hid))
  | writer writer => exact .writer ⟨rfl, alike writer.file (.inr rfl)⟩
  | sink sink => rcases filed with h | h <;> cases h
  | source source => rcases filed with h | h <;> cases h

/-- At a handler that is there in both, the same happens in both. -/
theorem concord (h : Alongside exact bound listener retired serving)
    (hat : retired.server.handlerAt? socket = some handler)
    (machines : serving.machine.Twin exact handler.transfer.socket handler.transfer.socket
      retired.machine)
    (room : exact ∨ serving.machine.HasRoom (serving.reaction socket stimulus now since)) :
    handler.Concord exact handler serving.machine retired.machine stimulus.event now since := by
  have hmem := mem_of_handlerAt? hat
  have hat' := h.handlerAt?_eq hat
  have hlog := (react_of_handler hat' stimulus now since).2.2.2
  have room : exact ∨ serving.machine.HasRoom (handler.react stimulus.event now since) := by
    unfold Machine.HasRoom at room ⊢
    rwa [hlog] at room
  exact (h.twin hmem).react machines (h.invariant'.proceeds handler (mem_of_handlerAt? hat'))
    (h.invariant.proceeds handler hmem) stimulus.event now since room

/-- What becomes of a handler that is there in both. -/
theorem react_eq (h : Alongside exact bound listener retired serving)
    (hat : retired.server.handlerAt? socket = some handler)
    (concord : handler.Concord exact handler serving.machine retired.machine stimulus.event now
      since) :
    (retired.machine.run (handler.react stimulus.event now since)).1 =
      (serving.machine.run (handler.react stimulus.event now since)).1 := by
  have proceeds := h.invariant.proceeds handler (mem_of_handlerAt? hat)
  have proceeds' := h.invariant'.proceeds handler (mem_of_handlerAt? (h.handlerAt?_eq hat))
  have handlers := concord.handlers
  cases hserving : (serving.machine.run (handler.react stimulus.event now since)).1 with
  | none =>
    rw [hserving] at handlers
    cases hretired : (retired.machine.run (handler.react stimulus.event now since)).1 with
    | none => rfl
    | some handler' =>
      rw [hretired] at handlers
      cases handlers
  | some after =>
    rw [hserving] at handlers
    cases hretired : (retired.machine.run (handler.react stimulus.event now since)).1 with
    | none =>
      rw [hretired] at handlers
      cases handlers
    | some after' =>
      rw [hretired] at handlers
      obtain ⟨twin, at_socket, at_socket'⟩ := handlers
      have kept := handler.continues_react retired.machine stimulus.event now since after' hretired
      have kept' := handler.continues_react serving.machine stimulus.event now since after hserving
      have upload := (proceeds.react hretired).1
      have upload' := (proceeds'.react hserving).1
      rw [twin.eq (at_socket'.trans at_socket.symm) (upload.trans upload'.symm)
        (kept.2.trans kept'.2.symm)]

/-- A handler that is there in both does its work. -/
theorem abreast_of_both (h : Alongside exact bound listener retired serving)
    (hat : retired.server.handlerAt? socket = some handler)
    (machines : serving.machine.Twin exact handler.transfer.socket handler.transfer.socket
      retired.machine)
    (room : exact ∨ serving.machine.HasRoom (serving.reaction socket stimulus now since)) :
    Abreast exact bound (retired.react socket stimulus now since)
      (serving.react socket stimulus now since) := by
  have concord := h.concord hat machines room
  have hreact := h.react_eq hat concord
  have hat' := h.handlerAt?_eq hat
  have proceeds := h.invariant.proceeds handler (mem_of_handlerAt? hat)
  have proceeds' := h.invariant'.proceeds handler (mem_of_handlerAt? hat')
  obtain ⟨younger, hyounger, none_younger, apart⟩ := h.handlers
  obtain ⟨front, back, hhandlers, hserver, hmachine, -⟩ := exists_handles hat stimulus now since
  obtain ⟨front', back', hhandlers', hserver', hmachine', -⟩ :=
    exists_handles hat' stimulus now since
  obtain ⟨rfl, rfl⟩ : front' = front ∧ back' = back ++ younger := by
    have hnodup := h.wired.nodup_handlers
    rw [hhandlers', List.nodup_middle, List.nodup_cons, List.mem_append, not_or] at hnodup
    rw [hyounger, hhandlers, List.append_assoc, List.cons_append] at hhandlers'
    obtain ⟨hfront, -, hback⟩ :=
      (List.append_cons_inj_of_notMem hnodup.1.1 hnodup.1.2).mp hhandlers'.symm
    exact ⟨hfront, hback⟩
  refine ⟨⟨younger, ?_, none_younger, apart⟩, ?_, ?_, ?_⟩
  · rw [hserver, hserver', hreact]
    simp
  · have below := h.below
    have uses : handler.UsesBelow bound := below handler (mem_of_handlerAt? hat)
    rw [hhandlers, List.forall_mem_append, List.forall_mem_cons] at below
    rw [hserver]
    refine List.forall_mem_append.mpr ⟨List.forall_mem_append.mpr ⟨below.1, ?_⟩, below.2.2⟩
    intro handler' hnew
    exact handler.usesBelow_react retired.machine stimulus.event now since uses handler'
      (Option.mem_toList.mp hnew)
  · intro id hid
    unfold files
    rw [hmachine, hmachine']
    by_cases hown : ∃ upload, handler.upload = some upload ∧ id = upload.file
    · obtain ⟨upload, hupload, rfl⟩ := hown
      exact concord.stored upload upload hupload hupload
    · have other : ∀ upload, handler.upload = some upload → id ≠ upload.file :=
        fun upload hupload heq ↦ hown ⟨upload, hupload, heq⟩
      exact (proceeds.file?_react stimulus.event now since other).trans
        ((h.stored id hid).trans (proceeds'.file?_react stimulus.event now since other).symm)
  · unfold files
    rw [hmachine, hmachine']
    exact concord.machines.room

/-- Only the second service has anything to do. -/
theorem abreast_of_one (h : Alongside exact bound listener retired serving) (inexact : ¬ exact)
    {retired' serving' : Service} (server_eq : retired'.server = retired.server)
    (machine_eq : retired'.machine = retired.machine)
    (handlers : ∃ younger, serving'.server.handlers = retired.server.handlers ++ younger ∧
      ∀ handler ∈ younger, ∀ upload, handler.upload = some upload → bound ≤ upload.file)
    (stored : ∀ id < bound, serving'.files.file? id = serving.files.file? id)
    (spends : serving.files.Spends serving'.files) : Abreast exact bound retired' serving' := by
  have files_eq : retired'.files = retired.files := congrArg Machine.files machine_eq
  obtain ⟨younger, hyounger, apart⟩ := handlers
  constructor
  · rw [server_eq]
    exact ⟨younger, hyounger, fun hexact ↦ absurd hexact inexact, apart⟩
  · rw [server_eq]
    exact h.below
  · intro id hid
    rw [files_eq, stored id hid]
    exact h.stored id hid
  · rw [files_eq]
    exact h.room.of_less inexact spends.room

/-- A request is made to the second service. -/
theorem abreast_of_opens (h : Alongside exact bound listener retired serving) (inexact : ¬ exact)
    {retired' serving' : Service} {client : SocketAddress} {datagram : Bytes}
    (retired_eq : retired'.server = retired.server)
    (retired_machine_eq : retired'.machine = retired.machine)
    (server_eq : serving'.server = { serving.server with
      handlers := serving.server.handlers ++
        (serving.machine.run (serving.opening client datagram now since)).1.toList })
    (machine_eq : serving'.machine =
      (serving.machine.run (serving.opening client datagram now since)).2) :
    Abreast exact bound retired' serving' := by
  obtain ⟨younger, hyounger, -, apart⟩ := h.handlers
  have opens := Handler.opens_open? serving.machine client (datagram.take requestBuffer)
    serving.server.root serving.server.config now since
  have files_eq : serving'.files =
      (serving.machine.run (serving.opening client datagram now since)).2.files :=
    congrArg Machine.files machine_eq
  apply h.abreast_of_one inexact retired_eq retired_machine_eq
  · refine ⟨younger ++ (serving.machine.run (serving.opening client datagram now
      since)).1.toList, ?_, List.forall_mem_append.mpr ⟨apart, ?_⟩⟩
    · rw [server_eq]
      simp only [hyounger, List.append_assoc]
    · intro handler hnew upload hupload
      unfold opening at hnew
      rw [Option.mem_toList.mp hnew] at opens
      rw [opens.upload_file hupload]
      exact h.numbers
  · intro id hid
    rw [files_eq]
    exact opens.file?_eq (Nat.lt_of_lt_of_le hid h.numbers)
  · rw [files_eq]
    exact Machine.spends_run _ _

/-- A handler that is there in the second service only does its work. -/
theorem abreast_of_younger (h : Alongside exact bound listener retired serving)
    {retired' serving' : Service} {front back : List Handler} {event : Session.Event}
    (nobody : handler ∉ retired.server.handlers)
    (retired_eq : retired'.server = retired.server)
    (retired_machine_eq : retired'.machine = retired.machine)
    (handlers_eq : serving.server.handlers = front ++ handler :: back)
    (server_eq : serving'.server = { serving.server with
      handlers := front ++ (serving.machine.run (handler.react event now since)).1.toList ++ back })
    (machine_eq : serving'.machine = (serving.machine.run (handler.react event now since)).2) :
    Abreast exact bound retired' serving' := by
  obtain ⟨younger, hyounger, none_younger, apart⟩ := h.handlers
  have hmem : handler ∈ serving.server.handlers := by
    rw [handlers_eq]
    exact List.mem_append_right _ List.mem_cons_self
  have proceeds := h.invariant'.proceeds handler hmem
  obtain ⟨between, rfl, rfl⟩ : ∃ between, front = retired.server.handlers ++ between ∧
      younger = between ++ handler :: back := by
    rw [hyounger] at handlers_eq
    rcases List.append_eq_append_iff.mp handlers_eq with
      ⟨between, hfront, hrest⟩ | ⟨between, hretired, hrest⟩
    · exact ⟨between, hfront, hrest⟩
    · cases between with
      | nil => exact ⟨[], by rw [hretired, List.append_nil, List.append_nil], hrest.symm⟩
      | cons first rest =>
        obtain ⟨rfl, -⟩ := List.cons.inj hrest
        rw [hretired] at nobody
        exact absurd (List.mem_append_right _ List.mem_cons_self) nobody
  have inexact : ¬ exact := by
    intro hexact
    have hnil := none_younger hexact
    simp at hnil
  have files_eq : serving'.files =
      (serving.machine.run (handler.react event now since)).2.files :=
    congrArg Machine.files machine_eq
  rw [List.forall_mem_append, List.forall_mem_cons] at apart
  apply h.abreast_of_one inexact retired_eq retired_machine_eq
  · refine ⟨between ++ (serving.machine.run (handler.react event now since)).1.toList ++ back,
      ?_, ?_⟩
    · rw [server_eq]
      simp only [List.append_assoc]
    · refine List.forall_mem_append.mpr ⟨List.forall_mem_append.mpr ⟨apart.1, ?_⟩, apart.2.2⟩
      intro handler' hnew upload hupload
      have hsame := (proceeds.react (Option.mem_toList.mp hnew)).1
      exact apart.2.1 upload (hsame.symm.trans hupload)
  · intro id hid
    rw [files_eq]
    apply proceeds.file?_react
    intro upload hupload heq
    exact absurd (apart.2.1 upload hupload) (Nat.not_le_of_lt (heq ▸ hid))
  · rw [files_eq]
    exact Machine.spends_run _ _

/-- Whatever happens next. -/
theorem abreast (h : Alongside exact bound listener retired serving)
    (machines : ∀ socket, serving.machine.Twin exact socket socket retired.machine)
    (quiet : exact → listener ≠ some socket)
    (room : exact ∨ serving.machine.HasRoom (serving.reaction socket stimulus now since)) :
    Abreast exact bound (retired.react socket stimulus now since)
      (serving.react socket stimulus now since) := by
  cases retired.reacts socket stimulus now since with
  | opens at_port => exact absurd (h.closed.symm.trans at_port) nofun
  | closes at_port => exact absurd (h.closed.symm.trans at_port) nofun
  | handles at_handler => exact h.abreast_of_both at_handler (machines _) room
  | ignores nobody unasked server_eq machine_eq =>
    cases serving.reacts socket stimulus now since with
    | opens at_port stimulus_eq server_eq' machine_eq' =>
      have inexact : ¬ exact := fun hexact ↦ quiet hexact (h.listener_eq at_port)
      exact h.abreast_of_opens inexact server_eq machine_eq server_eq' machine_eq'
    | closes at_port stimulus_eq failed server_eq' machine_eq' =>
      have inexact : ¬ exact := fun hexact ↦ quiet hexact (h.listener_eq at_port)
      obtain ⟨younger, hyounger, -, apart⟩ := h.handlers
      have files_eq : (serving.react socket stimulus now since).files = serving.files :=
        (congrArg Machine.files machine_eq').trans rfl
      apply h.abreast_of_one inexact server_eq machine_eq
      · exact ⟨younger, by rw [server_eq']; exact hyounger, apart⟩
      · exact fun id _ ↦ by rw [files_eq]
      · rw [files_eq]
        exact .refl _
    | @handles handler front back at_handler handlers_eq server_eq' machine_eq' =>
      have absent : handler ∉ retired.server.handlers := by
        intro hmem
        unfold Server.handlerAt? at nobody
        rw [if_neg (h.closed ▸ nofun)] at nobody
        have hne := List.find?_eq_none.mp nobody handler hmem
        exact hne (decide_eq_true (socket_of_handlerAt? at_handler))
      exact h.abreast_of_younger absent server_eq machine_eq handlers_eq server_eq' machine_eq'
    | ignores nobody' unasked' server_eq' machine_eq' =>
      have files_eq : (retired.react socket stimulus now since).files = retired.files :=
        congrArg Machine.files machine_eq
      have files_eq' : (serving.react socket stimulus now since).files = serving.files :=
        congrArg Machine.files machine_eq'
      refine ⟨?_, ?_, ?_, ?_⟩
      · rw [server_eq, server_eq']
        exact h.handlers
      · rw [server_eq]
        exact h.below
      · rw [files_eq, files_eq']
        exact h.stored
      · rw [files_eq, files_eq']
        exact h.room

/-- The two services stay side by side. -/
theorem attend (h : Alongside exact bound listener retired serving) (incident : Incident)
    (sockets : serving.machine.network.sockets.length < 65536)
    (quiet : exact → listener ≠ some incident.socket)
    (room : exact ∨ serving.HasRoom incident) :
    Alongside exact bound listener (retired.attend incident) (serving.attend incident) := by
  have facing := h.facing incident.now incident.faults
  have machines : ∀ socket, Machine.Twin exact socket socket
      (serving.facing incident.now incident.faults).machine
      (retired.facing incident.now incident.faults).machine :=
    fun socket ↦ .facing rfl h.room incident.now incident.faults
  refine ⟨facing.abreast machines quiet room, facing.invariant.of_react _ _ _ _,
    facing.invariant'.of_react _ _ _ _, facing.wired.react sockets _ _ _ _, ?_, ?_, ?_⟩
  · rcases (retired.facing incident.now incident.faults).listener_react incident.socket
      incident.stimulus incident.now incident.since with hsame | hnone
    · exact hsame.trans facing.closed
    · exact hnone
  · rcases (serving.facing incident.now incident.faults).listener_react incident.socket
      incident.stimulus incident.now incident.since with hsame | hnone
    · exact facing.port.imp hsame.trans hsame.trans
    · exact .inr hnone
  · exact Nat.le_trans facing.numbers (Machine.spends_run _ _).numbers

/-- What a handler that is there in both does when something happens to it. -/
theorem effect?_of_mem (h : Alongside exact bound listener retired serving) {incident : Incident}
    (room : exact ∨ serving.HasRoom incident) {effect : Effect}
    (heffect : retired.effect? incident = some effect) : serving.effect? incident = some effect := by
  obtain ⟨handler, hat, rfl⟩ := Option.map_eq_some_iff.mp heffect
  have facing := h.facing incident.now incident.faults
  have concord := facing.concord hat (.facing rfl h.room incident.now incident.faults) room
  unfold effect?
  rw [h.handlerAt?_eq hat, Option.map_some]
  exact congrArg some (concord.effect_eq_of_socket rfl rfl).symm

/-- The two services stay side by side, whatever happens. -/
theorem run (h : Alongside exact bound listener retired serving) (later : List Incident)
    (ports : serving.Throughout (fun service _ ↦ service.HasPort) later)
    (quiet : exact → ∀ incident ∈ later, listener ≠ some incident.socket)
    (room : exact ∨ serving.Throughout HasRoom later) :
    Alongside exact bound listener (retired.run later) (serving.run later) ∧
      (retired.effects later).Forall₂ (fun first second ↦ ∀ effect, first = some effect →
        second = some effect) (serving.effects later) := by
  induction later generalizing retired serving with
  | nil => exact ⟨h, .nil⟩
  | cons incident rest ih =>
    have hroom : exact ∨ serving.HasRoom incident := room.imp_right And.left
    obtain ⟨hrun, heffects⟩ := ih
      (h.attend incident ports.1 (fun hexact ↦ quiet hexact _ List.mem_cons_self) hroom) ports.2
      (fun hexact other hother ↦ quiet hexact other (List.mem_cons_of_mem _ hother))
      (room.imp_right And.right)
    exact ⟨hrun, .cons (fun effect heffect ↦ h.effect?_of_mem hroom heffect) heffects⟩

end Alongside

/-- What a server has to keep to between any two things that happen. -/
structure Orderly (service : Service) : Prop where
  invariant : service.Invariant
  wired : service.Wired
  numbered : service.IsNumbered

namespace Orderly

theorem react (h : service.Orderly) (port : service.HasPort) (socket : SocketAddress)
    (stimulus : Stimulus) (now since : Nat) : (service.react socket stimulus now since).Orderly where
  invariant := h.invariant.of_react socket stimulus now since
  wired := h.wired.react port socket stimulus now since
  numbered := h.numbered.react h.invariant.sound socket stimulus now since

theorem stop (h : service.Orderly) : service.stop.Orderly :=
  ⟨h.invariant.of_stop, h.wired.stop, h.numbered.stop⟩

theorem passes (h : service.Orderly) (now : Nat) (network : Network) (free : Option Nat)
    (kept : ∀ socket ∈ service.server.sockets, socket ∈ network.sockets) :
    Orderly { service with machine := { now, network, files := { service.files with free } } } where
  invariant := h.invariant.of_passes now network free
  wired := ⟨kept, h.wired.distinct⟩
  numbered := h.numbered

theorem start (config : ServerConfig) (listener : SocketAddress) {machine : Machine}
    (sound : machine.files.Sound) (opened : listener ∈ machine.network.sockets) :
    (start config listener machine).Orderly where
  invariant := invariant_start config listener sound
  wired := by
    refine ⟨?_, List.nodup_singleton listener⟩
    intro socket hsocket
    rwa [List.mem_singleton.mp hsocket]
  numbered _ hmem := absurd hmem List.not_mem_nil

/-- A server that has just been stopped goes side by side with the same server that has not. -/
theorem alongside (h : service.Orderly) (exact : Prop) :
    Alongside exact service.files.nextId service.server.listener service.stop service := by
  obtain ⟨hhandlers, hfiles⟩ := files_stop service.server service.machine
  change service.stop.server.handlers = _ at hhandlers
  change service.stop.files = service.files at hfiles
  refine ⟨⟨⟨[], ?_, fun _ ↦ rfl, fun _ hmem ↦ absurd hmem List.not_mem_nil⟩, ?_, ?_, ?_⟩,
    h.invariant.of_stop, h.invariant, h.wired, ?_,
    .inl rfl, Nat.le_refl _⟩
  · rw [hhandlers, List.append_nil]
  · rw [hhandlers]
    exact h.numbered
  · rw [hfiles]
    exact fun _ _ ↦ rfl
  · rw [hfiles]
    exact .refl exact service.files
  · unfold Service.stop
    cases hlistener : service.server.listener with
    | none => rw [(run_stop_of_none hlistener service.machine).1, hlistener]
    | some listener => rw [(run_stop hlistener service.machine).1]

/-- The handlers of a server that has been stopped are those of the same server that has not, apart
from younger ones, and whatever happens to them has the same effect. This asks for enough room on the
device, unless nobody is served but them. -/
theorem undisturbed (h : service.Orderly) (later : List Incident)
    (ports : service.Throughout (fun service _ ↦ service.HasPort) later)
    (room : (∀ incident ∈ later, service.server.listener ≠ some incident.socket) ∨
      service.Throughout HasRoom later) :
    (service.stop.run later).server.handlers <+: (service.run later).server.handlers ∧
      (service.stop.effects later).Forall₂ (fun first second ↦ ∀ effect, first = some effect →
        second = some effect) (service.effects later) := by
  obtain ⟨side, effects⟩ := (h.alongside (∀ incident ∈ later,
    service.server.listener ≠ some incident.socket)).run later ports id room
  obtain ⟨younger, hyounger, -⟩ := side.handlers
  exact ⟨⟨younger, hyounger.symm⟩, effects⟩

end Orderly

end Service

end Lockstep
