import Lockstep.Proofs.Hosting

/-!
# Requests that do not interfere

Many clients ask one server for files, and what happens to their handlers is interleaved in any way.
If the requests keep out of each other's way, each client is sent the same datagrams, its request comes
to the same end, and its file is left the same as if the server had been asked by this client alone.
For this it is not enough that they are about different paths: a link can lead through a file that
somebody else puts there.
-/

namespace Lockstep

open FileSystem

/-! ## What is the same at two sockets -/

theorem SocketAddress.host_sourceFor {socket socket' : SocketAddress}
    (h : socket'.host = socket.host) (destination : SocketAddress) :
    (socket'.sourceFor destination).host = (socket.sourceFor destination).host := by
  have ip := ip_eq_of_host h
  unfold sourceFor
  rw [ip]
  split
  · have scope : socket'.scope = socket.scope := by
      have hscope := congrArg SocketAddress.scope h
      exact hscope
    rw [host, host, scope]
  · exact h

/-- The same has been sent to every client, if ports are left out. -/
theorem Machine.Twin.replies_eq {exact : Prop} {socket socket' : SocketAddress}
    {machine machine' : Machine} (h : machine.Twin exact socket socket' machine')
    (host : socket'.host = socket.host) (client : SocketAddress) :
    (machine'.network.outbox.filter (·.destination = client)).map (·.fromHost) =
      (machine.network.outbox.filter (·.destination = client)).map (·.fromHost) := by
  rw [h.outbox, List.filter_map, List.map_map]
  apply List.map_congr_left
  intro datagram hmem
  have own := h.own datagram (List.mem_filter.mp hmem).1
  have hsource : datagram.source = socket.sourceFor datagram.destination :=
    (congrArg Datagram.source own).symm
  simp only [Function.comp, Datagram.fromHost, Datagram.sentFrom, hsource,
    SocketAddress.host_sourceFor host]

namespace Service

/-! ## The server and one client -/

variable {first service solo : Service} {handled : List Inquiry} {client : SocketAddress}
  {occasion : Occasion}

/-- One server is asked by many clients, the other one only by the client, and for the client it makes
no difference. -/
structure Accord (first : Service) (client : SocketAddress) (handled : List Inquiry)
    (service solo : Service) : Prop where
  hosts : first.Hosts handled service
  hosts' : first.Hosts (handled.filter (·.client = client)) solo
  room : service.files.Affords False solo.files
  early : (∀ inquiry ∈ handled, inquiry.client ≠ client) → solo = first
  handlers : ∃ socket socket', socket'.host = socket.host ∧
    Handler.Agreed socket socket' service.files solo.files (service.handlerOf? client)
      (solo.handlerOf? client)
  files : ∀ location, (∀ inquiry ∈ handled, inquiry.client ≠ client →
      ¬ inquiry.Fills first location) →
    solo.files.fileAt? location = service.files.fileAt? location

theorem ending?_of_nobody (h : service.incident? occasion = none) :
    service.ending? occasion = none := by
  unfold incident? at h
  unfold ending?
  cases hmatter : occasion.matter with
  | request datagram =>
    rw [hmatter] at h
    dsimp only
    rw [Option.map_eq_none_iff.mp h, Option.bind_none]
  | stimulus stimulus =>
    rw [hmatter] at h
    dsimp only
    rw [Option.map_eq_none_iff.mp h, Option.bind_none]

namespace Accord

theorem start (orderly : first.Orderly) (nobody : first.server.handlers = [])
    (client : SocketAddress) : Accord first client [] first first where
  hosts := .start orderly nobody
  hosts' := .start orderly nobody
  room := .refl False first.files
  early _ := rfl
  handlers := by
    refine ⟨client, client, rfl, ?_⟩
    rw [handlerOf?, nobody]
    exact .ended
  files _ _ := rfl

/-! ### What happens to somebody else -/

theorem hear_of_ne (h : Accord first client handled service solo) (hne : occasion.client ≠ client)
    (port : occasion.inquiry?.isSome → service.HasPort)
    (fresh : ∀ inquiry ∈ occasion.inquiry?, ∀ other ∈ handled, other.client ≠ inquiry.client)
    (avoids : ∀ inquiry ∈ occasion.inquiry?, ∀ other ∈ handled, other.Avoids inquiry first) :
    Accord first client (handled ++ occasion.inquiry?.toList) (service.hear occasion) solo where
  hosts := h.hosts.hear occasion port fresh avoids
  hosts' := by
    have hnone : occasion.inquiry?.toList.filter (·.client = client) = [] := by
      refine List.filter_eq_nil_iff.mpr fun inquiry hmem heq ↦ hne ?_
      rw [← Occasion.client_of_inquiry? (Option.mem_toList.mp hmem)]
      exact of_decide_eq_true heq
    rw [List.filter_append, hnone, List.append_nil]
    exact h.hosts'
  room := h.room.of_less id (service.spends_hear occasion).room
  early hnone := h.early fun inquiry hmem ↦ hnone inquiry (List.mem_append_left _ hmem)
  handlers := by
    obtain ⟨socket, socket', host, agreed⟩ := h.handlers
    refine ⟨socket, socket', host, ?_⟩
    -- The handler is still there, and nobody else touches the files that it reads or writes.
    rw [h.hosts.handlerOf?_of_ne occasion hne]
    have same (handler : Handler) (hfound : service.handlerOf? client = some handler) (id : FileId)
        (huses : handler.transfer.stream.Uses id) :
        (service.hear occasion).files.file? id = service.files.file? id := by
      obtain ⟨hmem, hclient⟩ := mem_of_handlerOf? hfound
      exact h.hosts.file?_of_ne occasion hmem (hclient ▸ hne) huses
    generalize service.handlerOf? client = handler? at agreed same ⊢
    generalize solo.handlerOf? client = handler'? at agreed ⊢
    cases agreed with
    | ended => exact .ended
    | goesOn twin at_socket at_socket' =>
      exact .goesOn (twin.of_files (same _ rfl) fun _ _ ↦ rfl) at_socket at_socket'
  files location hlocation := by
    rw [h.files location fun inquiry hmem ↦ hlocation inquiry (List.mem_append_left _ hmem)]
    refine (h.hosts.fileAt?_of_hear occasion avoids ?_).symm
    exact fun inquiry hmem heq ↦ hlocation inquiry hmem (heq ▸ hne)

/-! ### What happens to the client -/

/-- Before the client has asked for anything the other server is as it was at the start. -/
theorem solo_eq (h : Accord first occasion.client handled service solo) {inquiry : Inquiry}
    (hinquiry : occasion.inquiry? = some inquiry)
    (fresh : ∀ inquiry ∈ occasion.inquiry?, ∀ other ∈ handled, other.client ≠ inquiry.client) :
    solo = first :=
  h.early fun other hother ↦ Occasion.client_of_inquiry? hinquiry ▸ fresh inquiry hinquiry other hother

theorem hosts_hear (h : Accord first occasion.client handled service solo) (port : first.HasPort)
    (fresh : ∀ inquiry ∈ occasion.inquiry?, ∀ other ∈ handled, other.client ≠ inquiry.client)
    (avoids : ∀ inquiry ∈ occasion.inquiry?, ∀ other ∈ handled, other.Avoids inquiry first) :
    first.Hosts ((handled ++ occasion.inquiry?.toList).filter (·.client = occasion.client))
      (solo.hear occasion) := by
  have hown : occasion.inquiry?.toList.filter (·.client = occasion.client) =
      occasion.inquiry?.toList :=
    List.filter_eq_self.mpr fun inquiry hmem ↦
      decide_eq_true (Occasion.client_of_inquiry? (Option.mem_toList.mp hmem))
  rw [List.filter_append, hown]
  apply h.hosts'.hear occasion
  · intro isRequest
    obtain ⟨inquiry, hinquiry⟩ := Option.isSome_iff_exists.mp isRequest
    rw [h.solo_eq hinquiry fresh]
    exact port
  · exact fun inquiry hinquiry other hother ↦
      fresh inquiry hinquiry other (List.mem_filter.mp hother).1
  · exact fun inquiry hinquiry other hother ↦
      avoids inquiry hinquiry other (List.mem_filter.mp hother).1

/-- The two servers do the same about the occasion. -/
structure HearsAlike (first : Service) (handled : List Inquiry) (occasion : Occasion)
    (service solo : Service) : Prop where
  accord : Accord first occasion.client (handled ++ occasion.inquiry?.toList)
    (service.hear occasion) (solo.hear occasion)
  replies : solo.repliesTo occasion.client occasion = service.repliesTo occasion.client occasion
  ending : solo.ending? occasion = service.ending? occasion

/-- What is done from two sockets is alike, and the handlers and the files are left alike. -/
theorem hearsAlike_of_twins {socket socket' : SocketAddress}
    (hosts : first.Hosts (handled ++ occasion.inquiry?.toList) (service.hear occasion))
    (hosts' : first.Hosts ((handled ++ occasion.inquiry?.toList).filter
      (·.client = occasion.client)) (solo.hear occasion))
    (asked : ∃ inquiry ∈ handled ++ occasion.inquiry?.toList, inquiry.client = occasion.client)
    (host : socket'.host = socket.host)
    (machines : (service.hear occasion).machine.Twin False socket socket'
      (solo.hear occasion).machine)
    (sent_eq : service.sent occasion = (service.hear occasion).machine.network.outbox)
    (sent_eq' : solo.sent occasion = (solo.hear occasion).machine.network.outbox)
    (agreed : Handler.Agreed socket socket' (service.hear occasion).files (solo.hear occasion).files
      ((service.hear occasion).handlerOf? occasion.client)
      ((solo.hear occasion).handlerOf? occasion.client))
    (files : ∀ location, (∀ inquiry ∈ handled, inquiry.client ≠ occasion.client →
        ¬ inquiry.Fills first location) →
      (solo.hear occasion).files.fileAt? location = (service.hear occasion).files.fileAt? location)
    (ending : solo.ending? occasion = service.ending? occasion) :
    HearsAlike first handled occasion service solo where
  accord :=
    { hosts, hosts'
      room := machines.room
      early hnone := by
        obtain ⟨inquiry, hmem, hclient⟩ := asked
        exact absurd hclient (hnone inquiry hmem)
      handlers := ⟨socket, socket', host, agreed⟩
      files location hlocation :=
        files location fun inquiry hmem ↦ hlocation inquiry (List.mem_append_left _ hmem) }
  replies := by
    rw [repliesTo, repliesTo, sent_eq, sent_eq']
    exact machines.replies_eq host occasion.client
  ending := ending

/-- Nobody takes any notice in either server. -/
theorem hearsAlike_of_nobody (h : Accord first occasion.client handled service solo)
    (nobody : service.incident? occasion = none) (nobody' : solo.incident? occasion = none) :
    HearsAlike first handled occasion service solo := by
  have hhear : service.hear occasion = service := by rw [hear, nobody]
  have hhear' : solo.hear occasion = solo := by rw [hear, nobody']
  refine ⟨?_, ?_, ?_⟩
  · rw [hhear, hhear']
    refine ⟨h.hosts.more _, ?_, h.room, ?_, h.handlers, ?_⟩
    · rw [List.filter_append]
      exact h.hosts'.more _
    · exact fun hnone ↦ h.early fun inquiry hmem ↦ hnone inquiry (List.mem_append_left _ hmem)
    · exact fun location hlocation ↦ h.files location fun inquiry hmem ↦
        hlocation inquiry (List.mem_append_left _ hmem)
  · rw [repliesTo, repliesTo, sent, sent, nobody, nobody']
  · rw [ending?_of_nobody nobody, ending?_of_nobody nobody']

/-- A handler is made for the request of the client. -/
theorem hearsAlike_of_request (h : Accord first occasion.client handled service solo)
    {datagram : Bytes} (matter_eq : occasion.matter = .request datagram)
    (port : first.HasPort) (enough : service.Suffices occasion)
    (fresh : ∀ inquiry ∈ occasion.inquiry?, ∀ other ∈ handled, other.client ≠ inquiry.client)
    (avoids : ∀ inquiry ∈ occasion.inquiry?, ∀ other ∈ handled, other.Avoids inquiry first) :
    HearsAlike first handled occasion service solo := by
  have hinquiry : occasion.inquiry? = some ⟨occasion.client, datagram⟩ := by
    rw [Occasion.inquiry?, matter_eq]
  have hosts := h.hosts.hear occasion enough.port fresh avoids
  have hosts' := h.hosts_hear port fresh avoids
  -- The client has not asked for anything yet, so nothing has happened at the other server.
  obtain rfl : first = solo := (h.solo_eq hinquiry fresh).symm
  have port_at : service.HasPort := enough.port (by rw [hinquiry]; rfl)
  have fresh : ∀ other ∈ handled, other.client ≠ occasion.client := fresh _ hinquiry
  have avoids := avoids _ hinquiry
  have fresh' : ∀ other ∈ handled.filter (·.client = occasion.client),
      other.client ≠ occasion.client := fun other hother ↦ fresh other (List.mem_filter.mp hother).1
  have avoids' : ∀ other ∈ handled.filter (·.client = occasion.client),
      other.Avoids ⟨occasion.client, datagram⟩ first :=
    fun other hother ↦ avoids other (List.mem_filter.mp hother).1
  have hopening : service.opening occasion.client datagram occasion.now occasion.since =
      first.opening occasion.client datagram occasion.now occasion.since := by
    rw [opening, opening, h.hosts.root_eq, h.hosts.config_eq]
  have hnobody : service.incident? occasion = none ↔ first.incident? occasion = none := by
    simp only [incident?, matter_eq, h.hosts.listener_eq, Option.map_eq_none_iff]
  cases h.hosts.hears occasion with
  | ignored nobody => exact h.hearsAlike_of_nobody nobody (hnobody.mp nobody)
  | works matter_eq' => cases matter_eq.symm.trans matter_eq'
  | opens matter_eq' listens server_eq machine_eq sent_eq room =>
    cases matter_eq.symm.trans matter_eq'
    cases h.hosts'.hears occasion with
    | ignored nobody' => exact h.hearsAlike_of_nobody (hnobody.mpr nobody') nobody'
    | works matter_eq' => cases matter_eq.symm.trans matter_eq'
    | opens matter_eq' listens' server_eq' machine_eq' sent_eq' =>
      cases matter_eq.symm.trans matter_eq'
      have own := h.hosts.handlerOf?_of_opens fresh server_eq
      have own' := h.hosts'.handlerOf?_of_opens fresh' server_eq'
      rw [hopening] at machine_eq room own
      obtain ⟨socket, socket', alike⟩ := Handler.exists_opensAlike occasion.client
        first.server.config occasion.now occasion.since
        (fun _ _ ip ↦ Machine.Twin.facing ip h.room occasion.now occasion.faults) port_at port
        (fun admission admitted ↦ h.hosts.findsAlike avoids admitted) (.inr (room enough))
      have machines : (service.hear occasion).machine.Twin False socket socket'
          (first.hear occasion).machine := by
        rw [machine_eq, machine_eq']
        exact alike.machines
      have agreed : Handler.Agreed socket socket' (service.hear occasion).files
          (first.hear occasion).files ((service.hear occasion).handlerOf? occasion.client)
          ((first.hear occasion).handlerOf? occasion.client) := by
        rw [own, own', Service.files, Service.files, machine_eq, machine_eq']
        exact alike.handlers
      apply hearsAlike_of_twins hosts hosts' _ alike.host machines sent_eq sent_eq' agreed
      · intro location hlocation
        by_cases fills : (⟨occasion.client, datagram⟩ : Inquiry).Fills first location
        · obtain ⟨path, writes, rfl⟩ := fills
          rw [Service.files, Service.files, machine_eq, machine_eq']
          exact alike.file path writes
        · rw [h.hosts.fileAt?_of_request matter_eq avoids fills,
            h.hosts'.fileAt?_of_request matter_eq avoids' fills]
          exact h.files location hlocation
      · simp only [ending?, matter_eq, listens, listens', Option.bind_some, h.hosts.root_eq,
          h.hosts.config_eq]
        exact alike.ending
      · rw [hinquiry]
        exact ⟨_, List.mem_append_right _ (List.mem_singleton_self _), rfl⟩

/-- Two handlers of the client that do the same leave the same at the place of their file, and they
leave all other places alone. -/
theorem fileAt?_of_concord (h : Accord first client handled service solo) {handler handler' : Handler}
    (hmem : handler ∈ service.server.handlers) (hmem' : handler' ∈ solo.server.handlers)
    (twin : handler.Twin service.files solo.files handler') {event : Session.Event} {now since : Nat}
    (concord : Handler.Concord False handler handler' (service.machineAt occasion)
      (solo.machineAt occasion) event now since) {location : Location}
    (hlocation : ∀ inquiry ∈ handled, inquiry.client ≠ client → ¬ inquiry.Fills first location) :
    ((solo.machineAt occasion).run (handler'.react event now since)).2.files.fileAt? location =
      ((service.machineAt occasion).run (handler.react event now since)).2.files.fileAt? location := by
  by_cases hown : ∃ upload, handler.upload = some upload ∧ location = upload.location
  · obtain ⟨upload, hupload, rfl⟩ := hown
    exact concord.file upload hupload
  · have apart (upload : Upload) (hupload : handler.upload = some upload) :
        location ≠ upload.location := fun heq ↦ hown ⟨upload, hupload, heq⟩
    have apart' (upload' : Upload) (hupload' : handler'.upload = some upload') :
        location ≠ upload'.location := by
      obtain ⟨upload, hupload, hsame⟩ := twin.exists_upload hupload'
      exact hsame ▸ apart upload hupload
    rw [h.hosts.fileAt?_of_works hmem (service.files_machineAt occasion) apart,
      h.hosts'.fileAt?_of_works hmem' (solo.files_machineAt occasion) apart']
    exact h.files location hlocation

/-- Something happens to the handler of the client. -/
theorem hearsAlike_of_stimulus (h : Accord first occasion.client handled service solo)
    {stimulus : Stimulus} (matter_eq : occasion.matter = .stimulus stimulus)
    (port : first.HasPort) (enough : service.Suffices occasion) :
    HearsAlike first handled occasion service solo := by
  have hinquiry : occasion.inquiry? = none := by
    rw [Occasion.inquiry?, matter_eq]
  have noInquiry {condition : Inquiry → Prop} : ∀ inquiry ∈ occasion.inquiry?, condition inquiry := by
    intro inquiry hmem
    rw [hinquiry] at hmem
    exact (Option.not_mem_none inquiry hmem).elim
  have hosts := h.hosts.hear occasion enough.port noInquiry noInquiry
  have hosts' := h.hosts_hear port noInquiry noInquiry
  obtain ⟨socket, socket', host, agreed⟩ := h.handlers
  have hnobody : service.incident? occasion = none ↔ solo.incident? occasion = none := by
    simp only [incident?, matter_eq, Option.map_eq_none_iff]
    generalize service.handlerOf? occasion.client = handler? at agreed ⊢
    generalize solo.handlerOf? occasion.client = handler'? at agreed ⊢
    cases agreed with
    | ended => exact Iff.rfl
    | goesOn => simp
  cases h.hosts.hears occasion with
  | ignored nobody => exact h.hearsAlike_of_nobody nobody (hnobody.mp nobody)
  | opens matter_eq' => cases matter_eq.symm.trans matter_eq'
  | @works _ handler front back matter_eq' found handlers_eq server_eq machine_eq sent_eq room =>
    cases matter_eq.symm.trans matter_eq'
    cases h.hosts'.hears occasion with
    | ignored nobody' => exact h.hearsAlike_of_nobody (hnobody.mpr nobody') nobody'
    | opens matter_eq' => cases matter_eq.symm.trans matter_eq'
    | @works _ handler' front' back' matter_eq' found' handlers_eq' server_eq' machine_eq' sent_eq' =>
      cases matter_eq.symm.trans matter_eq'
      obtain ⟨hmem, hclient⟩ := mem_of_handlerOf? found
      obtain ⟨hmem', hclient'⟩ := mem_of_handlerOf? found'
      have own := h.hosts.handlerOf?_of_works handlers_eq server_eq
      have own' := h.hosts'.handlerOf?_of_works handlers_eq' server_eq'
      rw [hclient] at own
      rw [hclient'] at own'
      rw [found, found'] at agreed
      obtain ⟨twin, rfl, rfl⟩ := agreed
      -- There is less room where others have written, so it is there that there has to be enough.
      have twin_at : handler.Twin (service.machineAt occasion).files (solo.machineAt occasion).files
          handler' := twin
      have concord := twin_at.react (.facing (SocketAddress.ip_eq_of_host host) h.room occasion.now
        occasion.faults) (h.hosts.proceeds hmem) (h.hosts'.proceeds hmem') stimulus.event
        occasion.now occasion.since (.inr (room enough))
      have machines : (service.hear occasion).machine.Twin False handler.transfer.socket
          handler'.transfer.socket (solo.hear occasion).machine := by
        rw [machine_eq, machine_eq']
        exact concord.machines
      have agreed : Handler.Agreed handler.transfer.socket handler'.transfer.socket
          (service.hear occasion).files (solo.hear occasion).files
          ((service.hear occasion).handlerOf? occasion.client)
          ((solo.hear occasion).handlerOf? occasion.client) := by
        rw [own, own', Service.files, Service.files, machine_eq, machine_eq']
        exact concord.handlers
      apply hearsAlike_of_twins hosts hosts' _ host machines sent_eq sent_eq' agreed
      · intro location hlocation
        rw [Service.files, Service.files, machine_eq, machine_eq']
        exact h.fileAt?_of_concord hmem hmem' twin concord hlocation
      · simp only [ending?, matter_eq, found, found', Option.bind_some]
        exact congrArg (Option.map Ending.transferred) concord.result
      · obtain ⟨inquiry, hasked, heq, -⟩ := (h.hosts.hosted handler hmem).asked
        exact ⟨inquiry, List.mem_append_left _ hasked, heq.trans hclient⟩

theorem hearsAlike (h : Accord first occasion.client handled service solo) (port : first.HasPort)
    (enough : service.Suffices occasion)
    (fresh : ∀ inquiry ∈ occasion.inquiry?, ∀ other ∈ handled, other.client ≠ inquiry.client)
    (avoids : ∀ inquiry ∈ occasion.inquiry?, ∀ other ∈ handled, other.Avoids inquiry first) :
    HearsAlike first handled occasion service solo := by
  cases hmatter : occasion.matter with
  | request datagram => exact h.hearsAlike_of_request hmatter port enough fresh avoids
  | stimulus stimulus => exact h.hearsAlike_of_stimulus hmatter port enough

/-! ### Whatever happens -/

/-- What happens to somebody else sends nothing to the client. -/
theorem repliesTo_of_ne (h : Accord first client handled service solo)
    (hne : occasion.client ≠ client) {inquiries : List Inquiry} (direct : occasion.IsDirect inquiries)
    (asks : ∃ inquiry ∈ inquiries, inquiry.client = client) :
    service.repliesTo client occasion = [] := by
  have hnone : (service.sent occasion).filter (·.destination = client) = [] := by
    apply List.filter_eq_nil_iff.mpr
    intro datagram hmem heq
    have hclient : datagram.destination = client := of_decide_eq_true heq
    have bound := fun handler hmem ↦ (h.hosts.hosted handler hmem).bound
    rcases addressee_of_mem_sent h.hosts.orderly.wired bound hmem with hown | ⟨payload, hmatter⟩
    · exact hne (hown.symm.trans hclient)
    · rcases direct _ payload hmatter with hown | hforeign
      · exact hne (hown.symm.trans hclient)
      · obtain ⟨inquiry, hinquiry, hasked⟩ := asks
        exact hforeign inquiry hinquiry (hasked.trans hclient.symm)
  rw [repliesTo, hnone, List.map_nil]

theorem run (h : Accord first client handled service solo) (port : first.HasPort)
    {occasions : List Occasion} {inquiries : List Inquiry}
    (all : inquiries = handled ++ Occasion.inquiries occasions)
    (distinct : (inquiries.map (·.client)).Nodup)
    (direct : ∀ occasion ∈ occasions, occasion.IsDirect inquiries)
    (avoids : ∀ one ∈ inquiries, ∀ other ∈ inquiries, one.client ≠ other.client →
      one.Avoids other first)
    (asks : ∃ inquiry ∈ inquiries, inquiry.client = client)
    (enough : service.Always Suffices occasions) :
    Accord first client inquiries (service.hearAll occasions)
        (solo.hearAll (Occasion.concerning client occasions)) ∧
      solo.replies client (Occasion.concerning client occasions) =
        service.replies client occasions ∧
      solo.endings client (Occasion.concerning client occasions) =
        service.endings client occasions := by
  induction occasions generalizing handled service solo with
  | nil =>
    have hall : inquiries = handled := all.trans (List.append_nil handled)
    rw [hall]
    exact ⟨h, rfl, rfl⟩
  | cons occasion rest ih =>
    rw [Occasion.inquiries_cons, ← List.append_assoc] at all
    have known {inquiry : Inquiry} (hmem : inquiry ∈ handled ++ occasion.inquiry?.toList) :
        inquiry ∈ inquiries := all ▸ List.mem_append_left _ hmem
    have fresh : ∀ inquiry ∈ occasion.inquiry?, ∀ other ∈ handled,
        other.client ≠ inquiry.client := by
      intro inquiry hinquiry other hother
      rw [all, List.append_assoc, List.map_append, List.nodup_append] at distinct
      exact distinct.2.2 _ (List.mem_map_of_mem hother) _ (List.mem_map_of_mem
        (List.mem_append_left _ (Option.mem_toList.mpr hinquiry)))
    have avoids_now : ∀ inquiry ∈ occasion.inquiry?, ∀ other ∈ handled,
        other.Avoids inquiry first :=
      fun inquiry hinquiry other hother ↦ avoids other (known (List.mem_append_left _ hother))
        inquiry (known (List.mem_append_right _ (Option.mem_toList.mpr hinquiry)))
        (fresh inquiry hinquiry other hother)
    have direct' := fun other hmem ↦ direct other (List.mem_cons_of_mem _ hmem)
    -- What happens to the client happens in both servers, everything else in the first one only.
    by_cases hclient : occasion.client = client
    · subst hclient
      have alike := h.hearsAlike port enough.1 fresh avoids_now
      obtain ⟨accord, replies, endings⟩ := ih alike.accord all direct' enough.2
      rw [Occasion.concerning_cons_self]
      refine ⟨accord, ?_, ?_⟩
      · rw [Service.replies, Service.replies, alike.replies, replies]
      · rw [Service.endings, Service.endings, alike.ending, endings]
    · have accord := h.hear_of_ne hclient enough.1.port fresh avoids_now
      obtain ⟨accord, replies, endings⟩ := ih accord all direct' enough.2
      rw [Occasion.concerning_cons_of_ne hclient]
      refine ⟨accord, ?_, ?_⟩
      · rw [replies, Service.replies,
          h.repliesTo_of_ne hclient (direct occasion List.mem_cons_self) asks, List.nil_append]
      · rw [endings, Service.endings, if_neg hclient, List.nil_append]

end Accord

/-! ## Independence -/

/-- For the client it makes no difference that others have asked the server, too: it is sent the same
datagrams, its request comes to the same end, and what is left of its file, and of all others that no
other request has put there, is the same. -/
structure Independent (service : Service) (client : SocketAddress) (occasions : List Occasion) :
    Prop where
  replies : service.replies client (Occasion.concerning client occasions) =
    service.replies client occasions
  endings : service.endings client (Occasion.concerning client occasions) =
    service.endings client occasions
  files : ∀ location, (∀ inquiry ∈ Occasion.inquiries occasions, inquiry.client ≠ client →
      ¬ inquiry.Fills service location) →
    (service.hearAll (Occasion.concerning client occasions)).files.fileAt? location =
      (service.hearAll occasions).files.fileAt? location

/-- There is a port at the start if there is one when the first request comes. -/
theorem hasPort_of_always (nobody : service.server.handlers = []) {occasions : List Occasion}
    (enough : service.Always Suffices occasions) {inquiry : Inquiry}
    (hmem : inquiry ∈ Occasion.inquiries occasions) : service.HasPort := by
  induction occasions with
  | nil => exact absurd hmem List.not_mem_nil
  | cons occasion rest ih =>
    cases hmatter : occasion.matter with
    | request datagram => exact enough.1.port (by rw [Occasion.inquiry?, hmatter]; rfl)
    | stimulus stimulus =>
      have hincident : service.incident? occasion = none := by
        rw [incident?, hmatter, handlerOf?, nobody]
        rfl
      have hhear : service.hear occasion = service := by rw [hear, hincident]
      have hnone : occasion.inquiry? = none := by rw [Occasion.inquiry?, hmatter]
      rw [Occasion.inquiries_cons, hnone] at hmem
      exact ih (hhear ▸ enough.2) hmem

/-- Requests that keep out of each other's way do not interfere, however what happens to them is
interleaved. -/
theorem independent_of_avoids (config : ServerConfig) (listener : SocketAddress) {machine : Machine}
    (sound : machine.files.Sound) (opened : listener ∈ machine.network.sockets)
    (occasions : List Occasion)
    (distinct : ((Occasion.inquiries occasions).map (·.client)).Nodup)
    (direct : ∀ occasion ∈ occasions, occasion.IsDirect (Occasion.inquiries occasions))
    (avoids : ∀ first ∈ Occasion.inquiries occasions, ∀ second ∈ Occasion.inquiries occasions,
      first.client ≠ second.client → first.Avoids second (start config listener machine))
    (enough : (start config listener machine).Always Suffices occasions) :
    ∀ inquiry ∈ Occasion.inquiries occasions,
      (start config listener machine).Independent inquiry.client occasions := by
  intro inquiry hmem
  have port := hasPort_of_always rfl enough hmem
  have orderly := Orderly.start config listener sound opened
  obtain ⟨accord, replies, endings⟩ := (Accord.start orderly rfl inquiry.client).run port
    (List.nil_append _).symm distinct direct avoids ⟨inquiry, hmem, rfl⟩ enough
  exact ⟨replies, endings, accord.files⟩

/-! ### Two clients -/

/-- What holds of two different requests holds of all of them if there are no others. -/
theorem forall_pair {condition : Inquiry → Inquiry → Prop} {one other : Inquiry}
    (forth : condition one other) (back : condition other one) :
    ∀ first ∈ [one, other], ∀ second ∈ [one, other], first.client ≠ second.client →
      condition first second := by
  intro first hfirst second hsecond hne
  rw [List.mem_pair] at hfirst hsecond
  rcases hfirst with rfl | rfl <;> rcases hsecond with rfl | rfl
  · exact absurd rfl hne
  · exact forth
  · exact back
  · exact absurd rfl hne

/-- A server with one directory on a machine with these files. -/
def holding (files : FileSystem) : Service :=
  start { root := ['/', 's'] } ⟨.localhost .four, 69, 0⟩
    { files, network := { sockets := [⟨.localhost .four, 69, 0⟩] } }

theorem opened_holding (files : FileSystem) :
    ⟨.localhost .four, 69, 0⟩ ∈ (holding files).machine.network.sockets :=
  List.mem_singleton_self _

/-- A client asks for a file. -/
def asking (port : UInt16) (opcode : Opcode) (filename : String) : Occasion where
  client := ⟨.localhost .four, port, 0⟩
  matter := .request (Packet.encodeRequest opcode ⟨filename, "octet"⟩)
  now := 0
  since := 0
  faults := []

theorem isDirect_asking (port : UInt16) (opcode : Opcode) (filename : String)
    (others : List Inquiry) : (asking port opcode filename).IsDirect others :=
  fun _ _ heq ↦ nomatch heq

/-- One client sends a file while another one is sent a file, and each of them is heard of again. -/
def smallOccasions : List Occasion :=
  [asking 1069 .writeRequest "a", asking 1070 .readRequest "b",
    { asking 1069 .writeRequest "a" with
      matter := .stimulus (.reception (.datagram ⟨.localhost .four, 1069, 0⟩
        (Packet.encodeData 1 [65]))) },
    { asking 1070 .readRequest "b" with matter := .stimulus .alarm }]

theorem independent_small :
    (holding Server.smallTree).Independent ⟨.localhost .four, 1069, 0⟩ smallOccasions ∧
      (holding Server.smallTree).Independent ⟨.localhost .four, 1070, 0⟩ smallOccasions := by
  have sound : (holding Server.smallTree).machine.files.Sound :=
    (Sound.empty.install [['s']] (.directory true true)).addFile [['s'], ['b']] { contents := {} }
  have opened := opened_holding Server.smallTree
  have file : Server.smallTree.Reaches [(['b'], .file 0),
      (['s'], .directory true true [(['b'], .file 0)])] := by
    have hname : Path.IsName ['b'] := Path.isName_singleton (by decide) (by decide)
    exact ⟨.step Server.reaches_smallTree.passes rfl rfl hname (by decide) fun _ ↦ Node.noConfusion,
      Server.reaches_smallTree.root⟩
  have rootAt : Server.smallTree.canonicalize ['/', 's'] = .ok [['s']] :=
    Server.reaches_smallTree.canonicalize_path rfl
  have canonical : Server.smallTree.canonicalize ['/', 's', '/', 'b'] = .ok [['s'], ['b']] :=
    file.canonicalize_path rfl
  have distinct : ((Occasion.inquiries smallOccasions).map (·.client)).Nodup := by decide
  have direct : ∀ occasion ∈ smallOccasions,
      occasion.IsDirect (Occasion.inquiries smallOccasions) := by
    simp only [smallOccasions, List.forall_mem_cons]
    refine ⟨isDirect_asking _ _ _ _, isDirect_asking _ _ _ _, ?_, ?_,
      fun _ hmem ↦ absurd hmem List.not_mem_nil⟩
    · rintro _ _ ⟨⟩
      exact .inl rfl
    · rintro _ _ ⟨⟩
  have enough : (holding Server.smallTree).Always Suffices smallOccasions :=
    (Orderly.start _ _ sound opened).always_suffices rfl smallOccasions (by decide)
  have independent := independent_of_avoids { root := ['/', 's'] } _ sound opened smallOccasions
    distinct direct (forall_pair (Inquiry.avoids_of_found rfl rootAt canonical)
      (Inquiry.avoids_of_sender rfl rfl)) enough
  exact ⟨independent _ List.mem_cons_self, independent _ (List.mem_cons_of_mem _ List.mem_cons_self)⟩

/-! ### A link that leads through somebody else's file -/

/-- A directory that holds a link. Nothing stands where the link leads through. -/
def linkTree : FileSystem :=
  (({} : FileSystem).install [['s']] (.directory true true)).install [['s'], ['l']]
    (.link ['x', '/', 'y'])

theorem reaches_linkTree : linkTree.Reaches
    [(['s'], .directory true true [(['l'], .link ['x', '/', 'y'])])] := by
  have hname : Path.IsName ['s'] := Path.isName_singleton (by decide) (by decide)
  exact ⟨.step .root rfl rfl hname (by decide) fun _ ↦ Node.noConfusion, _, _, _, rfl⟩

/-- Neither the link nor what it leads through is found. -/
theorem walk_linkTree {name : Char} (h : name = 'l' ∨ name = 'x') :
    linkTree.walk ['/', 's', '/', name] = .error .notFound := by
  have hname : Path.IsName [name] := by
    rcases h with rfl | rfl <;> exact Path.isName_singleton (by decide) (by decide)
  have hwalk := reaches_linkTree.walk_path_append hname
  change linkTree.walk ['/', 's', '/', name] = _ at hwalk
  rcases h with rfl | rfl
  · rw [hwalk, follow]
    change linkTree.follow 39 _ [['x'], ['y']] = _
    rw [follow]
    rfl
  · rw [hwalk, follow]
    rfl

theorem run_resolve_linkTree {name : Char} (h : name = 'l' ∨ name = 'x') (machine : Machine)
    (files_eq : machine.files = linkTree) {filename : String}
    (text : Path.ofText filename = [name]) :
    machine.run (Server.resolve ['/', 's'] filename) = (.ok ['/', 's', '/', name], machine) := by
  have rootAt : machine.files.canonicalize ['/', 's'] = .ok [['s']] := by
    rw [files_eq]
    exact reaches_linkTree.canonicalize_path rfl
  have requested : Path.push (Location.path [['s']]) (Path.ofText filename) =
      ['/', 's', '/', name] := by
    rw [text]
    rcases h with rfl | rfl <;> rfl
  have missing : machine.files.canonicalize
      (Path.push (Location.path [['s']]) (Path.ofText filename)) = .error .notFound := by
    rw [files_eq, requested, canonicalize, walk_linkTree h]
    rfl
  rw [Server.run_resolve_of_missing rootAt missing, requested]
  rfl

/-- The tree when what the link leads through is there. -/
def grownTree : FileSystem :=
  (linkTree.addFile [['s'], ['x']] { contents := {}, isOpen := true }).1

theorem reaches_grownTree : grownTree.Reaches
    [(['s'], .directory true true [(['x'], .file 0), (['l'], .link ['x', '/', 'y'])])] := by
  have hname : Path.IsName ['s'] := Path.isName_singleton (by decide) (by decide)
  exact ⟨.step .root rfl rfl hname (by decide) fun _ ↦ Node.noConfusion, _, _, _, rfl⟩

/-- Now the link leads nowhere for another reason. -/
theorem walk_grownTree : grownTree.walk ['/', 's', '/', 'l'] = .error .notDirectory := by
  have hname : Path.IsName ['l'] := Path.isName_singleton (by decide) (by decide)
  have hwalk := reaches_grownTree.walk_path_append hname
  change grownTree.walk ['/', 's', '/', 'l'] = _ at hwalk
  rw [hwalk, follow]
  change grownTree.follow 39 _ [['x'], ['y']] = _
  rw [follow]
  change grownTree.follow 39 _ [['y']] = _
  rw [follow]
  rfl

/-- A client asks to write what the link leads through, and another one to read through the link. -/
def crossing : List Occasion :=
  [asking 1069 .writeRequest "x", asking 1070 .readRequest "l"]

/-- The request to read through the link is turned down for the reason that the link leads nowhere
for. -/
theorem ending?_of_walk {service : Service} {socket : SocketAddress} {error : SystemError}
    (root_eq : service.server.root = ['/', 's']) (listens : service.server.listener.isSome)
    (opened : ((service.machineAt (asking 1070 .readRequest "l")).answer
      (.bind (Handler.address ⟨.localhost .four, 1070, 0⟩ service.server.config))).1 = .ok socket)
    (rootAt : service.files.canonicalize ['/', 's'] = .ok [['s']])
    (lost : service.files.walk ['/', 's', '/', 'l'] = .error error) :
    service.ending? (asking 1070 .readRequest "l") =
      some (.turnedDown (Notice.ofCode (error.code .reading))) := by
  obtain ⟨listener, listens⟩ := Option.isSome_iff_exists.mp listens
  have admitted : Admission.ofDatagram ((Packet.encodeRequest .readRequest ⟨"l", "octet"⟩).take
      requestBuffer) = .ok ⟨.sender, .inMode "l" .octet, .octet⟩ := rfl
  simp only [ending?, asking, listens, Option.bind_some, root_eq]
  exact Handler.openingEnd?_of_lost opened admitted rfl rootAt lost

/-- What the link leads through is made for the first request. -/
theorem exists_run_writing : ∃ handler machine,
    ((holding linkTree).machineAt (asking 1069 .writeRequest "x")).run
        ((holding linkTree).opening ⟨.localhost .four, 1069, 0⟩
          (Packet.encodeRequest .writeRequest ⟨"x", "octet"⟩) 0 0) = (some handler, machine) ∧
      machine.files = grownTree ∧
      ((machine.facing 0 []).answer (.bind ⟨.localhost .four, 0, 0⟩)).1 =
        .ok ⟨.localhost .four, 50001, 0⟩ := by
  have hname : Path.IsName ['x'] := Path.isName_singleton (by decide) (by decide)
  have hcreate : linkTree.createFile ['/', 's', '/', 'x'] = .ok (grownTree, 0) :=
    (reaches_linkTree.createFile_path_append hname rfl).trans rfl
  let machine := (holding linkTree).machineAt (asking 1069 .writeRequest "x")
  let network := (machine.network.bind ⟨.localhost .four, 0, 0⟩).2
  have hserve : Machine.run { machine with network } (Handler.serve ⟨.localhost .four, 50000, 0⟩
      ⟨.localhost .four, 1069, 0⟩ ['/', 's'] (holding linkTree).server.config
      ⟨.receiver, .inMode "x" .octet, .octet⟩ 0 0) = (some _, _) :=
    Handler.run_serve_write (run_resolve_linkTree (.inr rfl) _ rfl rfl) hcreate rfl
  exact ⟨_, _, (Handler.run_open? rfl rfl rfl).trans hserve, rfl, rfl⟩

theorem ending?_of_writing (wired : (holding linkTree).Wired) :
    ((holding linkTree).hear (asking 1069 .writeRequest "x")).ending?
        (asking 1070 .readRequest "l") =
      some (.turnedDown (Notice.ofCode (SystemError.notDirectory.code .reading))) := by
  obtain ⟨handler, machine, hrun, hfiles, hbind⟩ := exists_run_writing
  cases (holding linkTree).hears wired (asking 1069 .writeRequest "x") with
  | ignored nobody => cases nobody
  | works matter_eq => cases matter_eq
  | opens matter_eq listens server_eq machine_eq =>
    cases matter_eq
    have hmachine := machine_eq.trans (congrArg Prod.snd hrun)
    refine @ending?_of_walk _ ⟨.localhost .four, 50001, 0⟩ _ ?_ ?_ ?_ ?_ ?_
    · rw [server_eq]
      rfl
    · rw [server_eq]
      rfl
    · have hat : ((holding linkTree).hear (asking 1069 .writeRequest "x")).machineAt
          (asking 1070 .readRequest "l") = machine.facing 0 [] := congrArg (·.facing 0 []) hmachine
      rw [server_eq, hat]
      exact hbind
    · rw [files, hmachine, hfiles]
      exact reaches_grownTree.canonicalize_path rfl
    · rw [files, hmachine, hfiles]
      exact walk_grownTree

/-- The path that the one request writes is not the one that the other one means. -/
theorem not_names_of_writes {path : Path}
    (writes : Inquiry.Writes ⟨⟨.localhost .four, 1069, 0⟩,
      Packet.encodeRequest .writeRequest ⟨"x", "octet"⟩⟩ (holding linkTree) path) :
    ¬ Inquiry.Names ⟨⟨.localhost .four, 1070, 0⟩,
      Packet.encodeRequest .readRequest ⟨"l", "octet"⟩⟩ (holding linkTree) path := by
  rintro ⟨admission, admitted, means⟩
  obtain ⟨admission', admitted', -, means'⟩ := writes.requested
  cases admitted
  cases admitted'
  have hread := congrArg Prod.fst (run_resolve_linkTree (.inl rfl) { files := linkTree } rfl
    (show Path.ofText "l" = ['l'] from rfl))
  have hwrite := congrArg Prod.fst (run_resolve_linkTree (.inr rfl) { files := linkTree } rfl
    (show Path.ofText "x" = ['x'] from rfl))
  cases (means.symm.trans hread).symm.trans (means'.symm.trans hwrite)

/-- It is not enough that no request writes the path that another one means: which reason a path
leads nowhere for may depend on a file that stands on the way. -/
theorem not_independent_of_paths :
    ¬ ∀ (config : ServerConfig) (listener : SocketAddress) (machine : Machine)
      (occasions : List Occasion), machine.files.Sound → listener ∈ machine.network.sockets →
      ((Occasion.inquiries occasions).map (·.client)).Nodup →
      (∀ occasion ∈ occasions, occasion.IsDirect (Occasion.inquiries occasions)) →
      (∀ first ∈ Occasion.inquiries occasions, ∀ second ∈ Occasion.inquiries occasions,
        first.client ≠ second.client → ∀ path, first.Writes (start config listener machine) path →
          ¬ second.Names (start config listener machine) path) →
      (start config listener machine).Always Suffices occasions →
      ∀ inquiry ∈ Occasion.inquiries occasions,
        (start config listener machine).Independent inquiry.client occasions := by
  intro claim
  have sound : (holding linkTree).machine.files.Sound :=
    (Sound.empty.install [['s']] (.directory true true)).install [['s'], ['l']] (.link _)
  have opened := opened_holding linkTree
  have orderly : (holding linkTree).Orderly := .start _ _ sound opened
  have direct : ∀ occasion ∈ crossing, occasion.IsDirect (Occasion.inquiries crossing) := by
    simp only [crossing, List.forall_mem_cons]
    exact ⟨isDirect_asking _ _ _ _, isDirect_asking _ _ _ _,
      fun _ hmem ↦ absurd hmem List.not_mem_nil⟩
  have independent := claim { root := ['/', 's'] } _ _ crossing sound opened (by decide) direct
    (forall_pair (fun _ ↦ not_names_of_writes)
      (fun _ writes ↦ absurd writes (Inquiry.not_writes_of_sender rfl rfl)))
    (orderly.always_suffices rfl crossing (by decide)) _
    (List.mem_cons_of_mem _ List.mem_cons_self)
  have ends : ((holding linkTree).ending? (asking 1070 .readRequest "l")).toList ++ [] =
      [] ++ ((((holding linkTree).hear (asking 1069 .writeRequest "x")).ending?
        (asking 1070 .readRequest "l")).toList ++ []) := independent.endings
  have alone : (holding linkTree).ending? (asking 1070 .readRequest "l") =
      some (.turnedDown (Notice.ofCode (SystemError.notFound.code .reading))) :=
    @ending?_of_walk _ ⟨.localhost .four, 50000, 0⟩ _ rfl rfl rfl
      (reaches_linkTree.canonicalize_path rfl) (walk_linkTree (.inl rfl))
  rw [alone, ending?_of_writing orderly.wired] at ends
  cases ends

end Service

end Lockstep
