import Lockstep.Proofs.Calls

/-!
# Round trips

A file that a client sends to a server and receives again. The server listens at an address of its
own and nothing is lost on the way; then the file arrives as it was, whatever it holds, whichever
name it gets there, and whichever modes the two calls use. The second call finds the server as the
first one did.
-/

namespace Lockstep

open Session FileSystem Activity

/-! ## Names in the root -/

section

variable {machine : Machine} {root : Path} {remote : String} {rootLocation : Location}

/-- A name under which a file can be made is taken as it stands. -/
theorem Server.run_resolve_of_vacant (rootAt : machine.files.canonicalize root = .ok rootLocation)
    {trail : Trail} {name : Path}
    (vacant : machine.files.Vacant (rootLocation.path.push (Path.ofText remote)) trail name) :
    machine.run (Server.resolve root remote) =
      (.ok (rootLocation.path.push (Path.ofText remote)), machine) := by
  rw [Server.run_resolve_of_missing rootAt vacant.canonicalize_eq]
  rfl

/-- A name that leads to a place below the root is taken for this place. -/
theorem Server.run_resolve_of_under (rootAt : machine.files.canonicalize root = .ok rootLocation)
    {location : Location} (canonical : machine.files.canonicalize
      (rootLocation.path.push (Path.ofText remote)) = .ok location)
    (under : rootLocation <+: location) :
    machine.run (Server.resolve root remote) = (.ok location.path, machine) := by
  rw [Server.run_resolve_of_found rootAt canonical, List.isPrefixOf_iff_prefix.mpr under]
  rfl

end

namespace World.Hosts

variable {world : World} {station : Station} {config : ClientConfig} {remote : String}
  {rootLocation : Location} {made : FileSystem} {file : FileId} {content : Bytes} {spare : Nat}

/-- A file can be sent under every name under which the server can make one. -/
theorem exists_upload (hosts : world.Hosts station) (fits : config.Fits station)
    (sound : world.machine.files.Sound) (accepted : Filename.check remote = .ok ())
    (rootAt : world.machine.files.canonicalize station.server.root = .ok rootLocation)
    (creatable : world.machine.files.createFile
      (rootLocation.path.push (Path.ofText remote)) = .ok (made, file))
    {path : Path} {handle : Handle} (readable : world.machine.files.openFile path = .ok handle)
    (offers : world.machine.files.Offers handle content)
    (room : world.machine.files.free.all (content.length + spare ≤ ·)) (id : String) :
    ∃ last, World.Comes (world.start (startWriteFile id config path remote false)) last ∧
      World.Moved station id (config.mode.wire content) made file content spare world last := by
  obtain ⟨meeting, rfl, rfl, rfl⟩ := exists_meeting hosts fits
  obtain ⟨trail, name, vacant, makes⟩ := exists_makesAt_of_createFile creatable
  have short : textLength remote.toList ≤ maxNameLength := by
    obtain ⟨rfl, -, -⟩ := vacant.of_push rootAt (Filename.isName_of_check accepted)
    exact vacant.short
  have resolves : meeting.Resolves meeting.world.machine.files remote
      (rootLocation.path.push (Path.ofText remote)) :=
    Server.run_resolve_of_vacant rootAt vacant
  have untouched : handle ≠ .file file := by
    rintro rfl
    obtain ⟨location, hlabel⟩ := exists_label_of_openFile readable
    exact Nat.lt_irrefl _ (makes.fresh ▸ sound.nodes _ _ hlabel)
  exact meeting.exists_uploaded id readable offers accepted short resolves creatable makes untouched
    room

/-- A file below the root can be received under every path under which one can be made. -/
theorem exists_download (hosts : world.Hosts station) (fits : config.Fits station)
    (sound : world.machine.files.Sound) (accepted : Filename.check remote = .ok ())
    (short : textLength remote.toList ≤ maxNameLength)
    (rootAt : world.machine.files.canonicalize station.server.root = .ok rootLocation)
    {location : Location} (canonical : world.machine.files.canonicalize
      (rootLocation.path.push (Path.ofText remote)) = .ok location)
    (under : rootLocation <+: location) {stored : FileId}
    (leads : world.machine.files.nodeAt location.path = .ok (.file stored)) {contents : Contents}
    (hfile : world.machine.files.file? stored = some { contents })
    {path : Path} (creatable : world.machine.files.createFile path = .ok (made, file))
    (room : world.machine.files.free.all (contents.toBytes.length + spare ≤ ·)) (id : String) :
    ∃ last, World.Comes (world.start (startReadFile id config remote path false)) last ∧
      World.Moved station id (config.mode.wire contents.toBytes) made file contents.toBytes spare
        world last := by
  obtain ⟨meeting, rfl, rfl, rfl⟩ := exists_meeting hosts fits
  obtain ⟨trail, name, vacant, makes⟩ := exists_makesAt_of_createFile creatable
  have hother : stored ≠ file := by
    intro heq
    have hless := sound.files stored (by rw [hfile]; rfl)
    rw [heq, makes.fresh] at hless
    exact Nat.lt_irrefl _ hless
  have hfile' := (makes.agrees.files stored hother).trans hfile
  have leads' := makes.grows.nodeAt leads
  have resolves : meeting.Resolves made remote location.path :=
    Server.run_resolve_of_under (makes.grows.canonicalize rootAt)
      (makes.grows.canonicalize canonical) under
  exact meeting.exists_downloaded id creatable makes accepted short resolves
    (isRegularFile_of_nodeAt leads') (openFile_of_nodeAt leads' hfile') (.of_stored hfile' rfl)
    (fun heq ↦ hother (Handle.file.inj heq)) room

/-- A server that waits for a request waits for nothing else. -/
theorem isSettled (hosts : world.Hosts station) : world.IsSettled := by
  refine IsCalm.isSettled ?_ hosts.outbox
  intro activity hactivity alarm halarm
  rw [hosts.activities] at hactivity
  obtain rfl := List.mem_singleton.mp hactivity
  rw [station.alarms_activity] at halarm
  exact absurd halarm List.not_mem_nil

end World.Hosts

/-- Who looks there sees a file that holds the bytes, and that nobody is writing. -/
def FileSystem.Shows (files : FileSystem) (path : Path) (content : Bytes) : Prop :=
  ∃ node, files.nodeAt path = .ok node ∧ files.sight node = .file content

/-- A file that was moved to where it was made can be seen there. -/
theorem World.Moved.shows {station : Station} {id : String} {stream content : Bytes}
    {before made : FileSystem} {file : FileId} {spare : Nat} {world last : World} {path : Path}
    (creatable : before.createFile path = .ok (made, file))
    (moved : World.Moved station id stream made file content spare world last) :
    last.machine.files.Shows path content := by
  obtain ⟨trail, name, vacant, makes⟩ := exists_makesAt_of_createFile creatable
  have leaf : last.machine.files.labelAt? (trail.location ++ [name]) = some (.file file) := by
    rw [moved.files.labelAt?, makes.leaf]
  obtain ⟨-, hnode⟩ := vacant.of_leaf (makes.grows.trans (.of_root_eq moved.files.root)) leaf
  obtain ⟨contents, hfile, hbytes⟩ := moved.stored
  refine ⟨.file file, hnode, ?_⟩
  simp only [sight, hfile, Bool.false_eq_true, if_false, hbytes]

/-- What was sent to the server is received from it again, whatever the two modes are. -/
theorem exists_round_trip {world : World} {station : Station} (hosts : world.Hosts station)
    {uploading downloading : ClientConfig} (fits : uploading.Fits station)
    (fits' : downloading.Fits station) (sound : world.machine.files.Sound)
    {remote : String} (accepted : Filename.check remote = .ok ()) {rootLocation : Location}
    (rootAt : world.machine.files.canonicalize station.server.root = .ok rootLocation)
    {made : FileSystem} {stored : FileId} (creatable : world.machine.files.createFile
      (rootLocation.path.push (Path.ofText remote)) = .ok (made, stored))
    {source : Path} {handle : Handle} {content : Bytes}
    (readable : world.machine.files.openFile source = .ok handle)
    (offers : world.machine.files.Offers handle content)
    (room : world.machine.files.free.all (content.length + content.length ≤ ·))
    {target : Path} {result : FileSystem × FileId} (new : made.createFile target = .ok result)
    (first second : String) :
    ∃ uploaded downloaded : World,
      (world.start (startWriteFile first uploading source remote false)).SettlesAt uploaded ∧
      uploaded.reports = ⟨first, world.now, .fileCallEnded (.ok
        ⟨(uploading.mode.wire content).length / blockSize + 1,
          (uploading.mode.wire content).length⟩)⟩ :: world.reports ∧
      uploaded.machine.files.Shows (rootLocation.path.push (Path.ofText remote)) content ∧
      (uploaded.start (startReadFile second downloading remote target false)).SettlesAt downloaded ∧
      downloaded.reports = ⟨second, world.now, .fileCallEnded (.ok
        ⟨(downloading.mode.wire content).length / blockSize + 1,
          (downloading.mode.wire content).length⟩)⟩ :: uploaded.reports ∧
      downloaded.machine.files.Shows target content := by
  obtain ⟨uploaded, hupload, moved⟩ := hosts.exists_upload fits sound accepted rootAt creatable
    readable offers room first
  obtain ⟨trail, name, vacant, makes⟩ := exists_makesAt_of_createFile creatable
  obtain ⟨rfl, rfl, hpath⟩ := vacant.of_push rootAt (Filename.isName_of_check accepted)
  have hroot : uploaded.machine.files.root = made.root := moved.files.root
  have grows : world.machine.files.Extends uploaded.machine.files :=
    makes.grows.trans (.of_root_eq hroot)
  have leaf : uploaded.machine.files.labelAt? (trail.location ++ [Path.ofText remote]) =
      some (.file stored) := by
    rw [moved.files.labelAt?, makes.leaf]
  obtain ⟨canonical, hnode⟩ := vacant.of_leaf grows leaf
  obtain ⟨contents, hfile, rfl⟩ := moved.stored
  -- The local path is still free, since the upload has changed nothing but what is stored.
  obtain ⟨grown, own⟩ := result
  obtain ⟨localTrail, localName, localVacant, -⟩ := exists_makesAt_of_createFile new
  obtain ⟨localTrail', localVacant', -⟩ := localVacant.of_extends (.of_root_eq hroot) (by
    rw [node?, hroot]
    exact localVacant.nothing)
  have sound' := (makes.sound sound).of_sameBut moved.files
  have room' : uploaded.machine.files.free.all (contents.toBytes.length + 0 ≤ ·) := moved.room
  obtain ⟨downloaded, hdownload, moved'⟩ := moved.hosts.exists_download fits' sound' accepted
    vacant.short (grows.canonicalize rootAt) canonical (List.prefix_append _ _) (hpath ▸ hnode)
    hfile localVacant'.createFile room' second
  refine ⟨uploaded, downloaded, hupload.settlesAt moved.hosts.isSettled, moved.reports,
    moved.shows creatable, hdownload.settlesAt moved'.hosts.isSettled, ?_,
    moved'.shows localVacant'.createFile⟩
  rw [moved'.reports, moved.now]
  rfl

/-- A server at an address of its own, with the root below. -/
def smallStation : Station :=
  .started "server" { root := ['/', 's'] } ⟨.localhost .four, 69, 0⟩ .none rfl rfl rfl (by decide)

/-- An empty root and one file beside it. -/
def smallFiles : FileSystem :=
  (({} : FileSystem).install [['s']] (.directory true true)).install [['a']]
    (.file ⟨#[104, 105, 10]⟩ false none)

def smallWorld : World where
  machine := { files := smallFiles, network := { sockets := [smallStation.listener] } }
  activities := [smallStation.activity]

/-- The file is sent as text and received as it stands. -/
theorem round_trip_greeting :
    ∃ uploaded downloaded : World,
      (smallWorld.start (startWriteFile "put" { server := smallStation.listener, mode := .netascii }
        ['/', 'a'] "b" false)).SettlesAt uploaded ∧
      uploaded.machine.files.Shows ['/', 's', '/', 'b'] [104, 105, 10] ∧
      (uploaded.start (startReadFile "get" { server := smallStation.listener } "b" ['/', 'c']
        false)).SettlesAt downloaded ∧
      downloaded.machine.files.Shows ['/', 'c'] [104, 105, 10] := by
  have hosts : smallWorld.Hosts smallStation :=
    ⟨rfl, List.mem_singleton_self _, by decide, rfl, rfl⟩
  have fits : ∀ mode, ClientConfig.Fits { server := smallStation.listener, mode } smallStation :=
    fun mode ↦ ⟨rfl, rfl, show 0 < 1500 by decide⟩
  have sound : smallFiles.Sound := (Sound.empty.install _ _).install _ _
  have root : smallFiles.Reaches [(['s'], .plain)] :=
    ⟨.step .root rfl rfl (Path.isName_singleton (by decide) (by decide)) (by decide) nofun,
      _, _, _, rfl⟩
  have rootAt : smallFiles.canonicalize smallStation.server.root = .ok [['s']] :=
    root.canonicalize_path rfl
  let made := smallFiles.addFile [['s'], ['b']] { contents := {}, isOpen := true }
  have creatable : smallFiles.createFile ((Location.path [['s']]).push (Path.ofText "b")) =
      .ok made :=
    root.createFile_path_append (Path.isName_singleton (by decide) (by decide)) rfl
  have readable : smallFiles.openFile ['/', 'a'] = .ok (.file 0) := by
    have file : smallFiles.Reaches [(['a'], .file 0)] :=
      ⟨.step .root rfl rfl (Path.isName_singleton (by decide) (by decide)) (by decide) nofun,
        _, _, _, rfl⟩
    exact openFile_of_nodeAt (file.nodeAt_path rfl) rfl
  have offers : smallFiles.Offers (.file 0) [104, 105, 10] := by
    have stored : smallFiles.file? 0 = some { contents := .ofByteArray ⟨#[104, 105, 10]⟩ } := rfl
    exact FileSystem.Offers.of_stored stored rfl
  have new : made.1.createFile ['/', 'c'] =
      .ok (made.1.addFile [['c']] { contents := {}, isOpen := true }) := by
    have top : made.1.Reaches [] := ⟨.root, true, true, _, rfl⟩
    have isName : Path.IsName ['c'] := Path.isName_singleton (by decide) (by decide)
    exact top.createFile_path_append isName rfl
  obtain ⟨uploaded, downloaded, hupload, -, hstored, hdownload, -, hlocal⟩ :=
    exists_round_trip hosts (fits .netascii) (fits .octet) sound rfl rootAt creatable readable
      offers rfl new "put" "get"
  exact ⟨uploaded, downloaded, hupload, hstored, hdownload, hlocal⟩

end Lockstep
