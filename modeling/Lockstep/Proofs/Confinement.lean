import Lockstep.Proofs.Conduct
import Lockstep.Proofs.Places

/-!
# Confinement to the root

Every call of a server that opens a file opens a regular file below the canonical root, and every
call that makes a file makes it directly in the canonical root, under a name where nothing stood.
Both only happen for a datagram at the well-known port that is admitted as a request of the fitting
kind. The file system is any tree at all: the argument follows the ways that were found in it.
-/

namespace Lockstep

open Dialogue FileSystem

namespace Filename

/-- A filename that is accepted is the name of something in a directory. -/
theorem isName_of_check {filename : String} (h : check filename = .ok ()) :
    (Path.ofText filename).IsName := by
  unfold check at h
  split at h
  · cases h
  · next nonempty =>
    split at h
    · cases h
    · next noTraversal =>
      split at h
      · cases h
      · next unreserved =>
        rw [Bool.or_eq_true, decide_eq_true_eq, decide_eq_true_eq, not_or] at noTraversal
        have hback : ∀ name : Path, Path.ofText filename = name → filename = String.ofList name := by
          intro name hname
          rw [← hname, Path.ofText, String.ofList_toList]
        refine ⟨?_, ?_, ?_, ?_⟩
        · intro hnil
          rw [hback _ hnil] at nonempty
          exact nonempty rfl
        · intro hslash
          exact unreserved (List.any_eq_true.mpr ⟨'/', hslash, rfl⟩)
        · intro hdot
          exact noTraversal.1 (hback _ hdot)
        · intro hdotDot
          exact noTraversal.2 (hback _ hdotDot)

end Filename

theorem Admission.isName_of_ofRequest {role : Role} {request : FileRequest} {admission : Admission}
    (h : ofRequest role request = .ok admission) :
    (Path.ofText admission.request.filename).IsName := by
  unfold ofRequest at h
  cases hmode : request.mode? with
  | none =>
    rw [hmode] at h
    cases h
  | some mode =>
    cases hcheck : Filename.check request.filename with
    | error fault =>
      simp only [hmode, hcheck] at h
      cases h
    | ok _ =>
      simp only [hmode, hcheck] at h
      cases h
      exact Filename.isName_of_check hcheck

theorem Admission.isName_of_ofDatagram {datagram : Bytes} {admission : Admission}
    (h : ofDatagram datagram = .ok admission) :
    (Path.ofText admission.request.filename).IsName := by
  unfold ofDatagram at h
  split at h
  · cases h
  · exact isName_of_ofRequest h
  · exact isName_of_ofRequest h
  · cases h

namespace Server

/-! ## What a filename means -/

/-- The path that is used for a name: the canonical path of what is there, which lies under the
canonical root, or the path of the name in the canonical root, if nothing is found there. -/
inductive Resolved (files : FileSystem) (root name : Path) : Path → Prop where
  | found {rootLocation location : Location} (rootAt : files.canonicalize root = .ok rootLocation)
      (canonical : files.canonicalize (rootLocation.path.push name) = .ok location)
      (under : rootLocation <+: location) : Resolved files root name location.path
  | missing {rootLocation : Location} {error : SystemError}
      (rootAt : files.canonicalize root = .ok rootLocation)
      (canonical : files.canonicalize (rootLocation.path.push name) = .error error) :
      Resolved files root name (rootLocation.path.push name)

section

variable {machine : Machine} {root : Path} {filename : String} {rootLocation : Location}

theorem run_resolve_of_unavailable {error : SystemError}
    (rootAt : machine.files.canonicalize root = .error error) :
    machine.run (resolve root filename) = (.error rootUnavailable, machine) := by
  unfold resolve
  rw [Machine.run_bind, Machine.run_call, Machine.answer_canonicalize, rootAt]
  rfl

/-- What is found has to lie under the root. -/
theorem run_resolve_of_found (rootAt : machine.files.canonicalize root = .ok rootLocation)
    {location : Location} (canonical : machine.files.canonicalize
      (rootLocation.path.push (Path.ofText filename)) = .ok location) :
    machine.run (resolve root filename) =
      (if rootLocation.isPrefixOf location then .ok location.path else .error outsideRoot,
        machine) := by
  unfold resolve
  rw [Machine.run_bind, Machine.run_call, Machine.answer_canonicalize, rootAt]
  dsimp only
  rw [Machine.run_bind, Machine.run_call, Machine.answer_canonicalize, canonical]
  dsimp only
  split <;> rfl

theorem run_resolve_of_missing (rootAt : machine.files.canonicalize root = .ok rootLocation)
    {error : SystemError} (canonical : machine.files.canonicalize
      (rootLocation.path.push (Path.ofText filename)) = .error error) :
    machine.run (resolve root filename) =
      (if error.kind = .notFound then .ok (rootLocation.path.push (Path.ofText filename))
        else .error (Notice.ofCode (error.code .reading)), machine) := by
  unfold resolve
  rw [Machine.run_bind, Machine.run_call, Machine.answer_canonicalize, rootAt]
  dsimp only
  rw [Machine.run_bind, Machine.run_call, Machine.answer_canonicalize, canonical]
  dsimp only
  split <;> rfl

end

/-- What a name means depends on the file system alone. -/
theorem run_resolve_congr {first second : Machine} (same : second.files = first.files)
    (root : Path) (filename : String) :
    (second.run (resolve root filename)).1 = (first.run (resolve root filename)).1 := by
  cases rootAt : first.files.canonicalize root with
  | error error =>
    have rootAt' := rootAt
    rw [← same] at rootAt'
    rw [run_resolve_of_unavailable rootAt, run_resolve_of_unavailable rootAt']
  | ok rootLocation =>
    have rootAt' := rootAt
    rw [← same] at rootAt'
    cases canonical : first.files.canonicalize
      (rootLocation.path.push (Path.ofText filename)) with
    | error error =>
      have canonical' := canonical
      rw [← same] at canonical'
      rw [run_resolve_of_missing rootAt canonical, run_resolve_of_missing rootAt' canonical']
    | ok location =>
      have canonical' := canonical
      rw [← same] at canonical'
      rw [run_resolve_of_found rootAt canonical, run_resolve_of_found rootAt' canonical']

/-- Resolving looks and changes nothing. -/
theorem run_resolve (machine : Machine) (root : Path) (filename : String) :
    ∃ result, machine.run (resolve root filename) = (result, machine) ∧
      ∀ path, result = .ok path → Resolved machine.files root (Path.ofText filename) path := by
  cases rootAt : machine.files.canonicalize root with
  | error error =>
    refine ⟨_, run_resolve_of_unavailable rootAt, ?_⟩
    intro path hpath
    cases hpath
  | ok rootLocation =>
    cases canonical : machine.files.canonicalize
      (rootLocation.path.push (Path.ofText filename)) with
    | ok location =>
      refine ⟨_, run_resolve_of_found rootAt canonical, ?_⟩
      intro path hpath
      split at hpath
      · next under =>
        cases hpath
        exact .found rootAt canonical (List.isPrefixOf_iff_prefix.mp under)
      · cases hpath
    | error error =>
      refine ⟨_, run_resolve_of_missing rootAt canonical, ?_⟩
      intro path hpath
      split at hpath
      · cases hpath
        exact .missing rootAt canonical
      · cases hpath

/-- Resolving makes no other calls than to look. -/
theorem resolve_meets (root : Path) (filename : String) :
    (resolve root filename).Meets (fun call ↦ ∃ path, call = .canonicalize path)
      fun _ ↦ True := by
  have hcall : ∀ path, (Program.call (.canonicalize path)).Meets
      (fun call ↦ ∃ path, call = .canonicalize path) fun _ ↦ True :=
    fun path ↦ meets_question ⟨path, rfl⟩
  apply (hcall root).bind
  intro rootAnswer _
  cases rootAnswer with
  | error error => exact meets_pure trivial
  | ok rootLocation =>
    apply (hcall _).bind
    intro answer _
    cases answer with
    | ok location =>
      dsimp only
      split <;> exact meets_pure trivial
    | error error =>
      dsimp only
      split <;> exact meets_pure trivial

/-! ## What can be opened and made -/

theorem canonicalize_of_nodeAt {files : FileSystem} {path : Path} {node : Node}
    (h : files.nodeAt path = .ok node) :
    ∃ trail, files.walk path = .ok trail ∧ trail.node files.root = node ∧
      files.canonicalize path = .ok trail.location := by
  rw [nodeAt] at h
  rw [canonicalize]
  cases hwalk : files.walk path with
  | error error =>
    rw [hwalk] at h
    cases h
  | ok trail =>
    rw [hwalk] at h
    cases h
    exact ⟨trail, rfl, rfl, rfl⟩

theorem nodeAt_of_isRegularFile {files : FileSystem} {path : Path}
    (h : files.isRegularFile path = .ok true) : ∃ id, files.nodeAt path = .ok (.file id) := by
  rw [isRegularFile] at h
  cases hnode : files.nodeAt path with
  | error error =>
    rw [hnode] at h
    cases h
  | ok node =>
    rw [hnode] at h
    cases node with
    | file id => exact ⟨id, rfl⟩
    | directory isSearchable isWritable entries => cases h
    | link target => cases h

/-- The path of a regular file that a name means is canonical, and the file lies below the root. -/
theorem Resolved.regular {files : FileSystem} {root name path : Path}
    (h : Resolved files root name path) (hname : name.IsName)
    (regular : files.isRegularFile path = .ok true) :
    ∃ rootLocation location id, files.canonicalize root = .ok rootLocation ∧
      path = location.path ∧ files.canonicalize path = .ok location ∧
      rootLocation <+: location ∧ rootLocation ≠ location ∧
      files.node? location = some (.file id) := by
  obtain ⟨id, hnode⟩ := nodeAt_of_isRegularFile regular
  obtain ⟨last, hlast, hfile, hcanonical⟩ := canonicalize_of_nodeAt hnode
  cases h with
  | missing rootAt canonical =>
    rw [canonical] at hcanonical
    cases hcanonical
  | @found rootLocation location rootAt canonical under =>
    obtain ⟨rootTrail, -, hroot, rfl⟩ := exists_reaches_of_canonicalize rootAt
    obtain ⟨trail, hwalk, htrail, rfl⟩ := exists_reaches_of_canonicalize canonical
    have hsame : last = trail := by
      rw [htrail.walk_path] at hlast
      cases hcheck : checkPath trail.location.path with
      | error error =>
        rw [hcheck] at hlast
        cases hlast
      | ok _ =>
        rw [hcheck] at hlast
        cases hlast
        rfl
    subst hsame
    have hfileAt := htrail.passes.node?
    rw [hfile] at hfileAt
    refine ⟨rootTrail.location, last.location, id, rootAt, rfl, hcanonical, under, ?_, hfileAt⟩
    intro heq
    rw [Location.path_push hroot.passes.isProper hname, hroot.walk_path_append hname] at hwalk
    cases hcheck : checkPath (rootTrail.location ++ [name]).path with
    | error error =>
      rw [hcheck] at hwalk
      cases hwalk
    | ok _ =>
      rw [hcheck] at hwalk
      obtain ⟨isSearchable, isWritable, entries, hdirectory⟩ := exists_directory_of_follow hwalk
      have hdirectoryAt := hroot.passes.node?
      rw [hdirectory, heq, hfileAt] at hdirectoryAt
      cases hdirectoryAt

/-- A file that is made for a name stands directly in the root, where nothing stood. -/
theorem Resolved.made {files : FileSystem} {root name path : Path}
    (h : Resolved files root name path) (hname : name.IsName) {result : FileSystem × FileId}
    (hcreate : files.createFile path = .ok result) :
    ∃ rootLocation, files.canonicalize root = .ok rootLocation ∧
      path = Location.path (rootLocation ++ [name]) ∧
      files.node? (rootLocation ++ [name]) = none ∧
      result = files.addFile (rootLocation ++ [name]) { contents := {}, isOpen := true } := by
  cases h with
  | found rootAt canonical under =>
    obtain ⟨trail, -, htrail, rfl⟩ := exists_reaches_of_canonicalize canonical
    exact absurd hcreate (htrail.createFile_path_ne_ok result)
  | @missing rootLocation error rootAt canonical =>
    obtain ⟨rootTrail, -, hroot, rfl⟩ := exists_reaches_of_canonicalize rootAt
    have hpath := Location.path_push hroot.passes.isProper hname
    rw [hpath] at hcreate
    obtain ⟨isSearchable, isWritable, entries, above⟩ :=
      hroot.exists_directory_of_createFile hname hcreate
    obtain ⟨-, -, -, -, hnone, hresult⟩ := hroot.of_createFile hname above hcreate
    exact ⟨rootTrail.location, rootAt, hpath, hnone, hresult⟩

/-! ## The calls of a request -/

/-- Only a regular file is opened. -/
theorem log_openToRead (machine : Machine) (path : Path) {entry : Machine × Call}
    (hentry : entry ∈ machine.log (openToRead path)) :
    entry.2.OpensNothing ∨
      entry = (machine, .openFile path) ∧ machine.files.isRegularFile path = .ok true := by
  unfold openToRead at hentry
  rw [Machine.log_bind, Machine.log_call, Machine.run_call, Machine.answer_isRegularFile] at hentry
  rcases List.mem_append.mp hentry with hlook | hentry
  · rw [List.mem_singleton.mp hlook]
    exact .inl trivial
  · cases regular : machine.files.isRegularFile path with
    | error error =>
      rw [regular] at hentry
      exact absurd hentry List.not_mem_nil
    | ok isRegular =>
      rw [regular] at hentry
      cases isRegular with
      | false => exact absurd hentry List.not_mem_nil
      | true =>
        dsimp only at hentry
        rw [Machine.log_bind, Machine.log_call] at hentry
        rcases List.mem_append.mp hentry with hopen | hentry
        · exact .inr ⟨List.mem_singleton.mp hopen, rfl⟩
        · split at hentry <;> exact absurd hentry List.not_mem_nil

end Server

namespace Handler

open Server

variable {machine : Machine} {entry : Machine × Call}

theorem log_serveRead {socket client : SocketAddress} {path : Path} {mode : Mode}
    {config : TransferConfig} {now since : Nat}
    (hentry : entry ∈ machine.log (serveRead socket client path mode config now since)) :
    entry.2.OpensNothing ∨
      entry = (machine, .openFile path) ∧ machine.files.isRegularFile path = .ok true := by
  unfold serveRead at hentry
  rw [Machine.log_bind] at hentry
  rcases List.mem_append.mp hentry with hopen | hentry
  · exact log_openToRead machine path hopen
  · left
    split at hentry
    · exact Machine.log_of_meets (reject_meets _ _ _) hentry
    · exact Machine.log_of_meets (follow_takeTurn_meets _ _ _ _ _ _) hentry

theorem log_serveWrite {socket client : SocketAddress} {path : Path} {mode : Mode}
    {config : TransferConfig} {now since : Nat}
    (hentry : entry ∈ machine.log (serveWrite socket client path mode config now since)) :
    entry.2.OpensNothing ∨ entry = (machine, .createFile path) := by
  unfold serveWrite openToWrite at hentry
  rw [Machine.log_bind, Machine.log_bind, Machine.log_call, List.append_assoc] at hentry
  rcases List.mem_append.mp hentry with hcreate | hentry
  · exact .inr (List.mem_singleton.mp hcreate)
  · left
    rcases List.mem_append.mp hentry with hnone | hentry
    · split at hnone <;> exact absurd hnone List.not_mem_nil
    · split at hentry
      · exact Machine.log_of_meets (reject_meets _ _ _) hentry
      · exact Machine.log_of_meets (follow_takeTurn_meets _ _ _ _ _ _) hentry

/-- What a call of a request that is served can be: looking, opening a regular file to send it, or
making a file to receive it. -/
theorem log_serve {socket client : SocketAddress} {root : Path} {config : TransferConfig}
    {admission : Admission} {now since : Nat}
    (hentry : entry ∈ machine.log (serve socket client root config admission now since)) :
    entry.2.OpensNothing ∨ ∃ path,
      Resolved machine.files root (Path.ofText admission.request.filename) path ∧
        (admission.role = .sender ∧ entry = (machine, .openFile path) ∧
            machine.files.isRegularFile path = .ok true ∨
          admission.role = .receiver ∧ entry = (machine, .createFile path)) := by
  unfold serve at hentry
  rw [Machine.log_bind] at hentry
  obtain ⟨result, hrun, hresolved⟩ := run_resolve machine root admission.request.filename
  rcases List.mem_append.mp hentry with hlook | hentry
  · obtain ⟨path, hpath⟩ := Machine.log_of_meets (resolve_meets root _) hlook
    left
    rw [hpath]
    trivial
  · rw [hrun] at hentry
    cases result with
    | error notice => exact .inl (Machine.log_of_meets (reject_meets _ _ _) hentry)
    | ok path =>
      have hpath := hresolved path rfl
      cases hrole : admission.role with
      | sender =>
        simp only [hrole] at hentry
        rcases log_serveRead hentry with hlook | ⟨hopen, regular⟩
        · exact .inl hlook
        · exact .inr ⟨path, hpath, .inl ⟨rfl, hopen, regular⟩⟩
      | receiver =>
        simp only [hrole] at hentry
        rcases log_serveWrite hentry with hlook | hcreate
        · exact .inl hlook
        · exact .inr ⟨path, hpath, .inr ⟨rfl, hcreate⟩⟩

end Handler

namespace Server

/-! ## Confinement -/

/-- The path is that of a regular file below the canonical root, and the datagram is an admitted
request to read. -/
structure OpensBelowRoot (root : Path) (datagram : Bytes) (files : FileSystem) (path : Path) :
    Prop where
  admitted : ∃ admission, Admission.ofDatagram (datagram.take requestBuffer) = .ok admission ∧
    admission.role = .sender
  regular : ∃ rootLocation location id, files.canonicalize root = .ok rootLocation ∧
    path = location.path ∧ files.canonicalize path = .ok location ∧
    rootLocation <+: location ∧ rootLocation ≠ location ∧
    files.node? location = some (.file id)

/-- The file is made directly in the canonical root at a name where nothing stands, and the datagram
is an admitted request to write a file of this name. -/
structure MakesInRoot (root : Path) (datagram : Bytes) (files : FileSystem) (path : Path)
    (result : FileSystem × FileId) : Prop where
  made : ∃ admission rootLocation name,
    Admission.ofDatagram (datagram.take requestBuffer) = .ok admission ∧
      admission.role = .receiver ∧ name = Path.ofText admission.request.filename ∧
      files.canonicalize root = .ok rootLocation ∧ path = Location.path (rootLocation ++ [name]) ∧
      files.node? (rootLocation ++ [name]) = none ∧
      result = files.addFile (rootLocation ++ [name]) { contents := {}, isOpen := true }

/-- Whatever a server is told, a call that it makes either opens and makes nothing, or it is made
for a datagram at the well-known port and stays within the root. -/
theorem confined (server : Server) (socket : SocketAddress) (stimulus : Stimulus)
    (now since : Nat) (machine : Machine) :
    ∀ entry ∈ machine.log (Activity.reactServer server socket stimulus now since),
      entry.2.OpensNothing ∨
        ∃ client datagram path, server.listener = some socket ∧
          stimulus = .reception (.datagram client datagram) ∧ entry.1.files = machine.files ∧
          (entry.2 = .openFile path ∧ OpensBelowRoot server.root datagram machine.files path ∨
            entry.2 = .createFile path ∧ ∀ result, machine.files.createFile path = .ok result →
              MakesInRoot server.root datagram machine.files path result) := by
  intro entry hentry
  unfold Activity.reactServer at hentry
  split at hentry
  · next hlistener =>
    split at hentry
    · next client datagram =>
      unfold dispatch Handler.open? bindEphemeral at hentry
      rw [Machine.log_bind, Machine.log_bind, Machine.log_call, Machine.run_call] at hentry
      rcases List.mem_append.mp hentry with hentry | hentry
      · rcases List.mem_append.mp hentry with hbind | hentry
        · rw [List.mem_singleton.mp hbind]
          exact .inl trivial
        · split at hentry
          · exact absurd hentry List.not_mem_nil
          · split at hentry
            · exact .inl (Machine.log_of_meets (Handler.reject_meets _ _ _) hentry)
            · next admission hadmitted =>
              have hname := Admission.isName_of_ofDatagram hadmitted
              rcases Handler.log_serve hentry with hlook | ⟨path, hresolved, hrole⟩
              · exact .inl hlook
              · right
                refine ⟨client, datagram, path, hlistener, rfl, ?_⟩
                rcases hrole with ⟨hsender, rfl, regular⟩ | ⟨hreceiver, rfl⟩
                · exact ⟨rfl, .inl ⟨rfl, ⟨admission, hadmitted, hsender⟩,
                    hresolved.regular hname regular⟩⟩
                · refine ⟨rfl, .inr ⟨rfl, ?_⟩⟩
                  intro result hcreate
                  obtain ⟨rootLocation, rootAt, hpath, hnone, hresult⟩ :=
                    hresolved.made hname hcreate
                  exact ⟨admission, rootLocation, _, hadmitted, hreceiver, rfl, rootAt, hpath,
                    hnone, hresult⟩
      · exact absurd hentry List.not_mem_nil
    · exact .inl (Machine.log_of_meets (trip_meets server _) hentry)
    · exact absurd hentry List.not_mem_nil
  · exact .inl (Machine.log_of_meets (react_meets server socket _ now since) hentry)

/-- A tree with one directory, which holds one file. -/
def smallTree : FileSystem :=
  { root := .directory true true [(['s'], .directory true true [(['b'], .file 0)])]
    files := [(0, { contents := {} })]
    nextId := 1 }

def smallServer : Server :=
  { root := ['/', 's'], config := {}, listener := some ⟨.localhost .four, 69, 0⟩ }

theorem reaches_smallTree :
    smallTree.Reaches [(['s'], .directory true true [(['b'], .file 0)])] := by
  have hname : Path.IsName ['s'] := ⟨by decide, by decide, by decide, by decide⟩
  exact ⟨.step .root rfl rfl hname (by decide) fun _ ↦ Node.noConfusion, _, _, _, rfl⟩

theorem run_resolve_smallTree (machine : Machine) (h : machine.files = smallTree) :
    machine.run (resolve ['/', 's'] "a") = (.ok ['/', 's', '/', 'a'], machine) := by
  have hroot : machine.files.canonicalize ['/', 's'] = .ok [['s']] := by
    have hwalk := reaches_smallTree.walk_path
    change smallTree.walk ['/', 's'] = _ at hwalk
    rw [h, canonicalize, hwalk]
    rfl
  have hmissing : machine.files.canonicalize
      (Path.push (Location.path [['s']]) (Path.ofText "a")) = .error .notFound := by
    have hname : Path.IsName ['a'] := ⟨by decide, by decide, by decide, by decide⟩
    have hwalk := reaches_smallTree.walk_path_append hname
    change smallTree.walk (Path.push (Location.path [['s']]) (Path.ofText "a")) = _ at hwalk
    rw [h, canonicalize, hwalk, follow]
    rfl
  exact run_resolve_of_missing hroot hmissing

/-- The request to write a file that is not there, at the well-known port. -/
def smallStimulus : Stimulus :=
  .reception (.datagram ⟨.localhost .four, 1069, 0⟩
    (Packet.encodeRequest .writeRequest ⟨"a", "octet"⟩))

/-- The file is made in the directory that is the root. -/
theorem confined_creation :
    ∃ entry ∈ ({ files := smallTree } : Machine).log (Activity.reactServer smallServer
        ⟨.localhost .four, 69, 0⟩ smallStimulus 0 0), ∃ datagram result,
      MakesInRoot smallServer.root datagram smallTree ['/', 's', '/', 'a'] result := by
  have hname : Path.IsName ['a'] := ⟨by decide, by decide, by decide, by decide⟩
  have hcreate := reaches_smallTree.createFile_path_append hname rfl
  let bound : Machine := (({ files := smallTree } : Machine).answer
    (.bind ⟨.unspecified .four, 0, 0⟩)).2
  have hmem : (bound, Call.createFile ['/', 's', '/', 'a']) ∈
      ({ files := smallTree } : Machine).log (Activity.reactServer smallServer
        ⟨.localhost .four, 69, 0⟩ smallStimulus 0 0) := by
    change _ ∈ ({ files := smallTree } : Machine).log (smallServer.dispatch _ _ 0 0)
    unfold dispatch Handler.open?
    rw [Machine.log_bind, Machine.log_bind]
    apply List.mem_append_left
    apply List.mem_append_right
    change _ ∈ bound.log (Handler.serve _ _ _ _
      ⟨.receiver, ⟨"a", "octet"⟩, .octet⟩ 0 0)
    unfold Handler.serve
    rw [Machine.log_bind]
    apply List.mem_append_right
    have hresolve : bound.run (resolve smallServer.root "a") = _ := run_resolve_smallTree bound rfl
    rw [hresolve]
    exact List.mem_cons_self
  have hconfined := confined smallServer ⟨.localhost .four, 69, 0⟩ smallStimulus 0 0
    { files := smallTree } _ hmem
  rcases hconfined with hnothing | ⟨client, datagram, path, -, -, -, hcall⟩
  · exact hnothing.elim
  · rcases hcall with ⟨hopen, -⟩ | ⟨hmake, hmade⟩
    · cases hopen
    · cases hmake
      exact ⟨_, hmem, datagram, _, hmade _ hcreate⟩

end Server

end Lockstep
