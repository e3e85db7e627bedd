import Lockstep.Proofs.Lookups
import Lockstep.Proofs.Usage

/-!
# Requests that are begun alike

The same request is made to a server on two machines. If the file that it names is found, opened and
made alike on both, then the two requests are turned down with the same notice, or two transfers begin
that run alike from then on.
-/

namespace Lockstep

open Dialogue FileSystem

/-- Parts of a dialogue can be put together in any order. -/
theorem Dialogue.bind_assoc {Question : Type} {Answer : Question → Type} {First Second Third : Type}
    (dialogue : Dialogue Question Answer First) (next : First → Dialogue Question Answer Second)
    (last : Second → Dialogue Question Answer Third) :
    dialogue >>= next >>= last = dialogue >>= fun first ↦ next first >>= last := by
  change (dialogue.andThen next).andThen last = dialogue.andThen fun first ↦ (next first).andThen last
  induction dialogue with
  | done result => rfl
  | ask question rest ih =>
    simp only [andThen, ih]

/-! ## What a request comes to at first -/

namespace Handler

/-- What a request comes to at first: why it is turned down, or the file that is received for it and
where the first turn of the transfer leads. -/
abbrev Commencement := Except Notice (Option Upload × Course)

def commenceRead (socket client : SocketAddress) (path : Path) (mode : Mode)
    (config : TransferConfig) (now since : Nat) : Program Commencement := do
  match ← Server.openToRead path with
  | .error notice => return .error notice
  | .ok handle =>
    return .ok (none, ← Transfer.takeTurn socket (.reader { handle })
      ((Session.accepted client mode config).send none now) since)

def commenceWrite (socket client : SocketAddress) (path : Path) (mode : Mode)
    (config : TransferConfig) (now since : Nat) : Program Commencement := do
  match ← Server.openToWrite path with
  | .error notice => return .error notice
  | .ok file =>
    return .ok (some { path, file }, ← Transfer.takeTurn socket (.writer { file })
      ((Session.accepted client mode config).receive (Packet.encodeAck 0) now) since)

/-- Looks at the datagram and for the file, and takes the first turn. -/
def commence (socket client : SocketAddress) (datagram : Bytes) (root : Path)
    (config : TransferConfig) (now since : Nat) : Program Commencement :=
  match Admission.ofDatagram datagram with
  | .error refusal => return .error refusal.notice
  | .ok admission => do
    match ← Server.resolve root admission.request.filename with
    | .error notice => return .error notice
    | .ok path =>
      match admission.role with
      | .sender => commenceRead socket client path admission.mode config now since
      | .receiver => commenceWrite socket client path admission.mode config now since

/-- What is left to be done when it is known what the request has come to. -/
def carryOn (socket client : SocketAddress) : Commencement → Program (Option Handler)
  | .error notice => reject socket client notice
  | .ok (upload, course) => follow socket client upload course

variable {socket client : SocketAddress} {path root : Path} {mode : Mode} {config : TransferConfig}
  {now since : Nat} {datagram : Bytes}

theorem serveRead_eq : serveRead socket client path mode config now since =
    commenceRead socket client path mode config now since >>= carryOn socket client := by
  unfold serveRead commenceRead
  rw [bind_assoc]
  congr 1
  funext answer
  cases answer with
  | error notice => rfl
  | ok handle =>
    dsimp only
    rw [bind_assoc]
    rfl

theorem serveWrite_eq : serveWrite socket client path mode config now since =
    commenceWrite socket client path mode config now since >>= carryOn socket client := by
  unfold serveWrite commenceWrite
  rw [bind_assoc]
  congr 1
  funext answer
  cases answer with
  | error notice => rfl
  | ok file =>
    dsimp only
    rw [bind_assoc]
    rfl

/-- A request is served by what it comes to at first and what is left to be done then. -/
theorem attend_eq : attend socket client datagram root config now since =
    commence socket client datagram root config now since >>= carryOn socket client := by
  unfold attend commence
  cases Admission.ofDatagram datagram with
  | error refusal => rfl
  | ok admission =>
    dsimp only
    unfold serve
    rw [bind_assoc]
    congr 1
    funext answer
    cases answer with
    | error notice => rfl
    | ok path =>
      cases admission.role with
      | sender => exact serveRead_eq
      | receiver => exact serveWrite_eq

/-! ## On two machines -/

/-- Two requests have come to the same at first. -/
inductive CommencesAlike (socket socket' : SocketAddress) (files files' : FileSystem) :
    Commencement → Commencement → Prop
  | turnedDown (notice : Notice) :
    CommencesAlike socket socket' files files' (.error notice) (.error notice)
  | reads {course course' : Course} (courses : course.Twin socket socket' files files' course') :
    CommencesAlike socket socket' files files' (.ok (none, course)) (.ok (none, course'))
  | writes {upload upload' : Upload} {course course' : Course}
      (courses : course.Twin socket socket' files files' course')
      (path_eq : upload'.path = upload.path)
      (stands : ∃ directory name, files.Stands upload.path upload.file directory name)
      (stands' : ∃ directory name, files'.Stands upload'.path upload'.file directory name)
      (stored : files'.file? upload'.file = files.file? upload.file) :
    CommencesAlike socket socket' files files' (.ok (some upload, course))
      (.ok (some upload', course'))

end Handler

/-- A socket is closed on both machines. -/
theorem Machine.Twin.close {exact : Prop} {socket socket' : SocketAddress}
    {machine machine' : Machine} (h : machine.Twin exact socket socket' machine') :
    Machine.Twin exact socket socket'
      { machine with network := machine.network.close socket }
      { machine' with network := machine'.network.close socket' } :=
  ⟨h.ip, h.now, h.general, h.faults, h.own, h.outbox, h.room⟩

/-- A file that was made is empty and open. -/
theorem FileSystem.file?_of_createFile {before after : FileSystem} {path : Path} {id : FileId}
    (h : before.createFile path = .ok (after, id)) :
    after.file? id = some { contents := {}, isOpen := true } ∧ after.free = before.free := by
  obtain ⟨place, hresult⟩ := exists_eq_addFile h
  cases hresult
  exact ⟨(file?_addFile _ _ _ _).trans (if_pos rfl), rfl⟩

namespace Server

variable {before after : FileSystem} {root path : Path} {filename : String} {machine : Machine}

theorem FindsAlike.symm (h : FindsAlike before after root filename) :
    FindsAlike after before root filename where
  resolve := h.resolve.symm
  regular path hpath := (h.regular path (h.resolve.symm.trans hpath)).symm
  opened path hpath := (h.opened path (h.resolve.symm.trans hpath)).symm
  stored path id hpath hopen := by
    have hpath' := h.resolve.symm.trans hpath
    rw [h.opened path hpath'] at hopen
    exact (h.stored path id hpath' hopen).symm
  makes path hpath := (h.makes path (h.resolve.symm.trans hpath)).symm

theorem FindsAlike.means (h : FindsAlike before after root filename)
    (hpath : Means before root filename path) : Means after root filename path :=
  h.resolve.trans hpath

/-- What a name means depends on the files alone, and to ask for it changes nothing. -/
theorem run_resolve_eq (machine : Machine) (root : Path) (filename : String) :
    machine.run (Server.resolve root filename) =
      ((Machine.run { files := machine.files } (Server.resolve root filename)).1, machine) := by
  obtain ⟨result, hrun, -⟩ := Server.run_resolve machine root filename
  have hsame : (Machine.run { files := machine.files } (resolve root filename)).1 =
      (machine.run (resolve root filename)).1 :=
    @run_resolve_congr machine { files := machine.files } rfl root filename
  rw [hsame, hrun]

theorem means_of_run (h : machine.run (Server.resolve root filename) = (.ok path, machine)) :
    Means machine.files root filename path :=
  congrArg Prod.fst ((run_resolve_eq machine root filename).symm.trans h)

theorem Means.run (h : Means machine.files root filename path) :
    machine.run (Server.resolve root filename) = (.ok path, machine) := by
  rw [Means] at h
  rw [run_resolve_eq, h]

/-- What the name means on the two machines. -/
theorem FindsAlike.run_resolve {machine' : Machine}
    (h : FindsAlike machine'.files machine.files root filename) {result : Except Notice Path}
    (hrun : machine'.run (Server.resolve root filename) = (result, machine')) :
    machine.run (Server.resolve root filename) = (result, machine) := by
  rw [run_resolve_eq] at hrun ⊢
  rw [h.resolve, (Prod.mk.inj hrun).1]

/-- The datagram is a request to write a file, and the file can be made at the path. -/
structure Writes (system : FileSystem) (root : Path) (datagram : Bytes) (path : Path) : Prop where
  requested : ∃ admission, Admission.ofDatagram datagram = .ok admission ∧
    admission.role = .receiver ∧ Means system root admission.request.filename path
  made : ∃ result, system.createFile path = .ok result

namespace Writes

variable {system : FileSystem} {datagram : Bytes}

/-- Nothing stands where the file is made. -/
theorem vacant (h : Writes system root datagram path) :
    system.labelAt? (Location.ofPath path) = none := by
  obtain ⟨admission, admitted, -, means⟩ := h.requested
  obtain ⟨⟨made, id⟩, hmake⟩ := h.made
  exact (means.resolved.makes (Admission.isName_of_ofDatagram admitted) hmake).vacant

/-- It is made just as well in a file system in which everything is found alike. -/
theorem of_findsAlike (h : Writes after root datagram path)
    (finds : ∀ admission, Admission.ofDatagram datagram = .ok admission →
      FindsAlike before after root admission.request.filename) :
    Writes before root datagram path := by
  obtain ⟨admission, admitted, hrole, means⟩ := h.requested
  obtain ⟨result, hmake⟩ := h.made
  have finds := finds admission admitted
  have means' : Means before root admission.request.filename path := finds.resolve.symm.trans means
  refine ⟨⟨admission, admitted, hrole, means'⟩, ?_⟩
  have alike := finds.makes path means'
  cases hmake' : before.createFile path with
  | ok result' => exact ⟨result', rfl⟩
  | error error =>
    rw [hmake, hmake'] at alike
    cases alike

end Writes

end Server

namespace Handler

variable {exact : Prop} {socket socket' client : SocketAddress} {path root : Path} {mode : Mode}
  {config : TransferConfig} {now since : Nat} {datagram : Bytes} {filename : String}
  {machine machine' : Machine}

theorem run_openToRead_congr
    (finds : Server.FindsAlike machine'.files machine.files root filename)
    (means : Server.Means machine'.files root filename path) :
    (machine.run (Server.openToRead path)).1 = (machine'.run (Server.openToRead path)).1 := by
  unfold Server.openToRead
  rw [Machine.run_bind, Machine.run_bind, Machine.run_call, Machine.run_call,
    Machine.answer_isRegularFile, Machine.answer_isRegularFile, finds.regular path means]
  cases machine'.files.isRegularFile path with
  | error error => rfl
  | ok isRegular =>
    cases isRegular with
    | false => rfl
    | true =>
      dsimp only
      rw [Machine.run_bind, Machine.run_bind, Machine.run_call, Machine.run_call,
        Machine.answer_openFile, Machine.answer_openFile, finds.opened path means]
      cases machine'.files.openFile path <;> rfl

theorem twin_commenceRead (machines : machine.Twin exact socket socket' machine')
    (finds : Server.FindsAlike machine'.files machine.files root filename)
    (means : Server.Means machine'.files root filename path)
    (room : exact ∨ machine.HasRoom (commenceRead socket client path mode config now since)) :
    let outcome := machine.run (commenceRead socket client path mode config now since)
    let outcome' := machine'.run (commenceRead socket' client path mode config now since)
    CommencesAlike socket socket' outcome.2.files outcome'.2.files outcome.1 outcome'.1 ∧
      outcome.2.Twin exact socket socket' outcome'.2 := by
  unfold commenceRead at room ⊢
  replace room := (room_bind room).2
  simp only [Machine.run_bind]
  rw [run_openToRead] at room ⊢
  rw [run_openToRead, run_openToRead_congr finds means] at *
  cases hopen : (machine'.run (Server.openToRead path)).1 with
  | error notice => exact ⟨.turnedDown notice, machines⟩
  | ok handle =>
    rw [hopen] at room
    have alike : Stream.Twin machine.files machine'.files (.reader { handle })
        (.reader { handle }) := by
      apply Stream.Twin.reader
      rintro id rfl
      exact (finds.stored path id means (Server.openToRead_eq_ok_iff.mp hopen).2).symm
    obtain ⟨courses, machines⟩ := Transfer.twin_takeTurn machines alike _ since (room_bind room).1
    dsimp only
    rw [Machine.run_bind, Machine.run_bind]
    exact ⟨.reads courses, machines⟩

/-- The first turn of a transfer into a new file leaves the files as they are. -/
theorem files_takeTurn_receive (socket client : SocketAddress) (mode : Mode)
    (config : TransferConfig) (now since : Nat) {id : FileId} (empty : machine.files.Stores id []) :
    (machine.run (Transfer.takeTurn socket (.writer { file := id })
      ((Session.accepted client mode config).receive (Packet.encodeAck 0) now) since)).2.files =
        machine.files :=
  (run_takeTurn_receive machine socket now since rfl empty _).1

theorem twin_commenceWrite (machines : machine.Twin exact socket socket' machine')
    (finds : Server.FindsAlike machine'.files machine.files root filename)
    (hname : (Path.ofText filename).IsName)
    (means : Server.Means machine'.files root filename path)
    (room : exact ∨ machine.HasRoom (commenceWrite socket client path mode config now since)) :
    let outcome := machine.run (commenceWrite socket client path mode config now since)
    let outcome' := machine'.run (commenceWrite socket' client path mode config now since)
    CommencesAlike socket socket' outcome.2.files outcome'.2.files outcome.1 outcome'.1 ∧
      outcome.2.Twin exact socket socket' outcome'.2 := by
  have alike := finds.makes path means
  unfold commenceWrite at room ⊢
  replace room := (room_bind room).2
  simp only [Machine.run_bind]
  cases hmake' : machine'.files.createFile path with
  | error error =>
    cases hmake : machine.files.createFile path with
    | ok result =>
      rw [hmake, hmake'] at alike
      cases alike
    | error other =>
      rw [hmake, hmake'] at alike
      cases alike
      rw [Server.run_openToWrite_of_error hmake, Server.run_openToWrite_of_error hmake']
      exact ⟨.turnedDown _, machines⟩
  | ok result' =>
    cases hmake : machine.files.createFile path with
    | error error =>
      rw [hmake, hmake'] at alike
      cases alike
    | ok result =>
      obtain ⟨files, id⟩ := result
      obtain ⟨files', id'⟩ := result'
      have makes := (finds.means means).resolved.makes hname hmake
      have makes' := means.resolved.makes hname hmake'
      obtain ⟨stored, free⟩ := file?_of_createFile hmake
      obtain ⟨stored', free'⟩ := file?_of_createFile hmake'
      rw [Server.run_openToWrite_of_ok hmake] at room ⊢
      rw [Server.run_openToWrite_of_ok hmake']
      have twins : Stream.Twin files files' (.writer { file := id }) (.writer { file := id' }) :=
        .writer ⟨rfl, stored'.trans stored.symm⟩
      have machines := machines.of_files ((machines.room.of_free_eq free).of_free_eq' free')
      obtain ⟨courses, machines⟩ := Transfer.twin_takeTurn machines twins
        ((Session.accepted client mode config).receive (Packet.encodeAck 0) now) since
        (room_bind room).1
      have same : (Machine.run { machine with files } _).2.files = files :=
        files_takeTurn_receive socket client mode config now since makes.empty
      have same' : (Machine.run { machine' with files := files' } _).2.files = files' :=
        files_takeTurn_receive socket' client mode config now since makes'.empty
      dsimp only
      rw [Machine.run_bind, Machine.run_bind]
      refine ⟨.writes courses rfl ?_ ?_ ?_, machines⟩
      · exact same.symm ▸ makes.stands
      · exact same'.symm ▸ makes'.stands
      · have hstored := stored'.trans stored.symm
        rw [← same, ← same'] at hstored
        exact hstored

/-- The same request comes to the same at first. -/
theorem twin_commence (machines : machine.Twin exact socket socket' machine')
    (finds : ∀ admission, Admission.ofDatagram datagram = .ok admission →
      Server.FindsAlike machine'.files machine.files root admission.request.filename)
    (room : exact ∨ machine.HasRoom (commence socket client datagram root config now since)) :
    let outcome := machine.run (commence socket client datagram root config now since)
    let outcome' := machine'.run (commence socket' client datagram root config now since)
    CommencesAlike socket socket' outcome.2.files outcome'.2.files outcome.1 outcome'.1 ∧
      outcome.2.Twin exact socket socket' outcome'.2 := by
  unfold commence at room ⊢
  cases admitted : Admission.ofDatagram datagram with
  | error refusal => exact ⟨.turnedDown _, machines⟩
  | ok admission =>
    rw [admitted] at room
    have finds := finds admission admitted
    have hname := Admission.isName_of_ofDatagram admitted
    obtain ⟨result, hrun, -⟩ := Server.run_resolve machine' root admission.request.filename
    have hsame := finds.run_resolve hrun
    dsimp only at room ⊢
    replace room := (room_bind room).2
    rw [Machine.run_bind, Machine.run_bind]
    rw [hsame] at room ⊢
    rw [hrun]
    cases result with
    | error notice => exact ⟨.turnedDown notice, machines⟩
    | ok path =>
      have means := Server.means_of_run hrun
      cases hrole : admission.role with
      | sender =>
        simp only [hrole] at room ⊢
        exact twin_commenceRead machines finds means room
      | receiver =>
        simp only [hrole] at room ⊢
        exact twin_commenceWrite machines finds hname means room

/-- A file that can be made is made. -/
theorem exists_upload_of_writes (h : Server.Writes machine.files root datagram path) :
    ∃ file course, (machine.run (commence socket client datagram root config now since)).1 =
      .ok (some { path, file }, course) := by
  obtain ⟨admission, admitted, hrole, means⟩ := h.requested
  obtain ⟨⟨files, id⟩, hmake⟩ := h.made
  unfold commence
  rw [admitted]
  dsimp only
  rw [Machine.run_bind, means.run, hrole]
  dsimp only
  unfold commenceWrite
  rw [Machine.run_bind, Server.run_openToWrite_of_ok hmake]
  dsimp only
  rw [Machine.run_bind]
  exact ⟨id, _, rfl⟩

/-- What is left to be done comes to the same, too, and the files that are received are stored
alike. -/
theorem agreed_carryOn {first first' : Commencement}
    (alike : CommencesAlike socket socket' machine.files machine'.files first first')
    (machines : machine.Twin exact socket socket' machine') :
    let outcome := machine.run (carryOn socket client first)
    let outcome' := machine'.run (carryOn socket' client first')
    Agreed socket socket' outcome.2.files outcome'.2.files outcome.1 outcome'.1 ∧
      outcome.2.Twin exact socket socket' outcome'.2 ∧
      ∀ upload course, first' = .ok (some upload, course) →
        outcome'.2.files.fileAt? upload.location = outcome.2.files.fileAt? upload.location := by
  cases alike with
  | turnedDown notice =>
    have sent := (machines.send client (Packet.error notice).encode).2
    exact ⟨.ended, sent.close, fun _ _ heq ↦ nomatch heq⟩
  | reads courses =>
    obtain ⟨handlers, machines⟩ := agreed_follow_of_reads client courses machines
    exact ⟨handlers, machines, fun _ _ heq ↦ nomatch heq⟩
  | @writes upload upload' course course' courses path_eq stands stands' stored =>
    obtain ⟨handlers, machines, -, file⟩ :=
      agreed_follow_of_writes client courses machines path_eq stands stands' stored
    refine ⟨handlers, machines, ?_⟩
    rintro _ _ ⟨⟩
    have hlocation : upload'.location = upload.location := congrArg Location.ofPath path_eq
    rw [hlocation]
    exact file

/-- The same is done about the same request. -/
theorem agreed_attend (machines : machine.Twin exact socket socket' machine')
    (finds : ∀ admission, Admission.ofDatagram datagram = .ok admission →
      Server.FindsAlike machine'.files machine.files root admission.request.filename)
    (room : exact ∨ machine.HasRoom (attend socket client datagram root config now since)) :
    let outcome := machine.run (attend socket client datagram root config now since)
    let outcome' := machine'.run (attend socket' client datagram root config now since)
    Agreed socket socket' outcome.2.files outcome'.2.files outcome.1 outcome'.1 ∧
      outcome.2.Twin exact socket socket' outcome'.2 ∧
      ∀ path, Server.Writes machine'.files root datagram path →
        outcome'.2.files.fileAt? (Location.ofPath path) =
          outcome.2.files.fileAt? (Location.ofPath path) := by
  rw [attend_eq] at room ⊢
  rw [attend_eq]
  obtain ⟨alike, machines⟩ := twin_commence machines finds (room_bind room).1
  obtain ⟨handlers, machines, file⟩ := agreed_carryOn alike machines
  simp only [Machine.run_bind]
  refine ⟨handlers, machines, ?_⟩
  intro path writes
  obtain ⟨id, course, hwritten⟩ := exists_upload_of_writes writes
  exact file _ _ hwritten

end Handler

/-! ## New handlers -/

/-- The address without its port. -/
def SocketAddress.host (address : SocketAddress) : SocketAddress :=
  { address with port := 0 }

theorem SocketAddress.ip_eq_of_host {first second : SocketAddress} (h : second.host = first.host) :
    second.ip = first.ip := by
  have hip := congrArg SocketAddress.ip h
  exact hip

/-- A socket is opened at an address of the host, and at most its port is another one. -/
theorem Network.host_of_bind {network : Network} {address socket : SocketAddress}
    (h : (network.bind address).1 = .ok socket) :
    address.ip.isLocal = true ∧ socket.host = address.host := by
  unfold bind at h
  split at h
  · cases h
  · next hlocal =>
    refine ⟨by simpa using hlocal, ?_⟩
    split at h
    · cases h
      rfl
    · split at h
      · cases h
      · cases h
        rfl

/-- How a request ends: it is turned down, or its transfer comes to a result. -/
inductive Ending where
  | turnedDown (notice : Notice)
  | transferred (result : Except TransferError Summary)

namespace Handler

/-- The end, if the request has come to one at first. -/
def ending? : Commencement → Option Ending
  | .error notice => some (.turnedDown notice)
  | .ok (_, course) => course.result?.map .transferred

theorem CommencesAlike.ending?_eq {socket socket' : SocketAddress} {files files' : FileSystem}
    {first first' : Commencement} (h : CommencesAlike socket socket' files files' first first') :
    ending? first' = ending? first := by
  cases h with
  | turnedDown notice => rfl
  | reads courses => exact congrArg (Option.map Ending.transferred) courses.result?_eq
  | writes courses => exact congrArg (Option.map Ending.transferred) courses.result?_eq

/-- The end of the request in a datagram at the well-known port, if it has come to one at first.
Nothing comes of it if no socket can be opened. -/
def openingEnd? (client : SocketAddress) (datagram : Bytes) (root : Path) (config : TransferConfig)
    (now since : Nat) (machine : Machine) : Option Ending :=
  match machine.answer (.bind (address client config)) with
  | (.error _, _) => none
  | (.ok socket, bound) =>
    ending? (bound.run (commence socket client datagram root config now since)).1

/-- A request to read a file that its name does not lead to is turned down, whatever the reason. -/
theorem openingEnd?_of_lost {client socket : SocketAddress} {datagram : Bytes} {root : Path}
    {config : TransferConfig} {now since : Nat} {machine : Machine} {admission : Admission}
    {rootLocation : Location} {error : SystemError}
    (opened : (machine.answer (.bind (address client config))).1 = .ok socket)
    (admitted : Admission.ofDatagram datagram = .ok admission) (role_eq : admission.role = .sender)
    (rootAt : machine.files.canonicalize root = .ok rootLocation)
    (lost : machine.files.walk (rootLocation.path.push (Path.ofText admission.request.filename)) =
      .error error) :
    openingEnd? client datagram root config now since machine =
      some (.turnedDown (Notice.ofCode (error.code .reading))) := by
  have hfiles : (machine.answer (.bind (address client config))).2.files = machine.files := rfl
  rw [openingEnd?]
  rw [← hfiles] at rootAt lost
  generalize machine.answer (.bind (address client config)) = answered at opened rootAt lost
  obtain ⟨bound, machine⟩ := answered
  obtain rfl : bound = .ok socket := opened
  have canonical : machine.files.canonicalize
      (rootLocation.path.push (Path.ofText admission.request.filename)) = .error error := by
    rw [canonicalize, lost]
    rfl
  have hrun := Server.run_resolve_of_missing rootAt canonical
  dsimp only
  unfold commence
  rw [admitted]
  dsimp only
  rw [Machine.run_bind, hrun, role_eq]
  by_cases missing : error.kind = .notFound
  · rw [if_pos missing]
    dsimp only
    have regular : machine.files.isRegularFile
        (rootLocation.path.push (Path.ofText admission.request.filename)) = .error error := by
      rw [isRegularFile, nodeAt, lost]
      rfl
    unfold commenceRead Server.openToRead
    rw [Machine.run_bind, Machine.run_bind, Machine.run_call, Machine.answer_isRegularFile, regular]
    rfl
  · rw [if_neg missing]
    rfl

/-- The same has become of a datagram at the well-known port on two machines, from sockets that
differ at most in their ports. -/
structure OpensAlike (exact : Prop) (socket socket' client : SocketAddress) (datagram : Bytes)
    (root : Path) (config : TransferConfig) (now since : Nat) (machine machine' : Machine) :
    Prop where
  host : socket'.host = socket.host
  handlers : Agreed socket socket'
    (machine.run (open? client datagram root config now since)).2.files
    (machine'.run (open? client datagram root config now since)).2.files
    (machine.run (open? client datagram root config now since)).1
    (machine'.run (open? client datagram root config now since)).1
  machines : (machine.run (open? client datagram root config now since)).2.Twin exact socket
    socket' (machine'.run (open? client datagram root config now since)).2
  ending : openingEnd? client datagram root config now since machine' =
    openingEnd? client datagram root config now since machine
  file : ∀ path, Server.Writes machine'.files root datagram path →
    (machine'.run (open? client datagram root config now since)).2.files.fileAt?
        (Location.ofPath path) =
      (machine.run (open? client datagram root config now since)).2.files.fileAt?
        (Location.ofPath path)

theorem exists_opensAlike {exact : Prop} {machine machine' : Machine} (client : SocketAddress)
    {datagram : Bytes} {root : Path} (config : TransferConfig) (now since : Nat)
    (machines : ∀ socket socket' : SocketAddress, socket'.ip = socket.ip →
      machine.Twin exact socket socket' machine')
    (port : machine.network.sockets.length < 65536)
    (port' : machine'.network.sockets.length < 65536)
    (finds : ∀ admission, Admission.ofDatagram datagram = .ok admission →
      Server.FindsAlike machine'.files machine.files root admission.request.filename)
    (room : exact ∨ machine.HasRoom (open? client datagram root config now since)) :
    ∃ socket socket', OpensAlike exact socket socket' client datagram root config now since machine
      machine' := by
  rcases open?_cases port client datagram root config now since with
    ⟨away, error, hanswer, hrun, -⟩ | ⟨socket, nextPort, hip, -, hanswer, hrun, hlog⟩
  · rcases open?_cases port' client datagram root config now since with
      ⟨-, error', hanswer', hrun', -⟩ | ⟨socket', nextPort', -, -, hanswer', -, -⟩
    · refine ⟨client, client, rfl, ?_, ?_, ?_, ?_⟩
      · rw [hrun, hrun']
        exact .ended
      · rw [hrun, hrun']
        exact machines client client rfl
      · rw [openingEnd?, openingEnd?, hanswer, hanswer']
      · intro path writes
        have writes' := writes.of_findsAlike fun admission admitted ↦ (finds admission admitted).symm
        rw [hrun, hrun', fileAt?_of_none writes.vacant, fileAt?_of_none writes'.vacant]
    · have hlocal := (Network.host_of_bind (congrArg Prod.fst hanswer')).1
      rw [away] at hlocal
      cases hlocal
  · rcases open?_cases port' client datagram root config now since with
      ⟨away, -, -, -, -⟩ | ⟨socket', nextPort', hip', -, hanswer', hrun', -⟩
    · have hlocal := (Network.host_of_bind (congrArg Prod.fst hanswer)).1
      rw [away] at hlocal
      cases hlocal
    · have host := (Network.host_of_bind (congrArg Prod.fst hanswer)).2
      have host' := (Network.host_of_bind (congrArg Prod.fst hanswer')).2
      obtain ⟨ip, now_eq, general, faults, own, outbox, affords⟩ :=
        machines socket socket' (hip'.trans hip.symm)
      have bound : Machine.Twin exact socket socket' (machine.opened socket nextPort)
          (machine'.opened socket' nextPort') :=
        ⟨ip, now_eq, general, faults, own, outbox, affords⟩
      have room : exact ∨ (machine.opened socket nextPort).HasRoom
          (attend socket client datagram root config now since) := by
        refine room.imp_right fun hroom entry hentry ↦ hroom entry ?_
        rw [hlog]
        exact List.mem_cons_of_mem _ hentry
      obtain ⟨handlers, machines, file⟩ := agreed_attend bound finds room
      rw [attend_eq] at room
      have alike := (twin_commence bound finds (room_bind room).1).1
      rw [← hrun, ← hrun'] at handlers machines file
      refine ⟨socket, socket', host'.trans host.symm, handlers, machines, ?_, file⟩
      rw [openingEnd?, openingEnd?, hanswer, hanswer']
      exact alike.ending?_eq

end Handler

end Lockstep
