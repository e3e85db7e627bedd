import Lockstep.Proofs.Service

/-!
# Transfers that run alike

The same transfer is run twice, each time on a machine and at a socket of its own. The two files that
it reads or writes are stored alike, and as long as the devices do not fill up the two runs take the
same turns: they send the same packets at the same times, and leave files that are stored alike.
-/

namespace Lockstep

open FileSystem

/-! ## Room on a device -/

namespace FileSystem

/-- There is at most as much room in the first file system as in the second, and exactly as much if
that is asked for. -/
structure Affords (exact : Prop) (first second : FileSystem) : Prop where
  same : exact → second.free = first.free
  less : ∀ room, second.free = some room → ∃ rest ≤ room, first.free = some rest

namespace Affords

variable {exact : Prop} {first second third : FileSystem}

theorem refl (exact : Prop) (system : FileSystem) : system.Affords exact system where
  same _ := rfl
  less room hroom := ⟨room, Nat.le_refl room, hroom⟩

theorem of_free_eq {after : FileSystem} (h : first.Affords exact second)
    (hfirst : after.free = first.free) : after.Affords exact second where
  same hexact := (h.same hexact).trans hfirst.symm
  less room hroom := hfirst ▸ h.less room hroom

theorem of_free_eq' {after : FileSystem} (h : first.Affords exact second)
    (hsecond : after.free = second.free) : first.Affords exact after where
  same hexact := hsecond.trans (h.same hexact)
  less room hroom := h.less room (hsecond ▸ hroom)

/-- Less room in the first one is no matter unless there has to be the same. -/
theorem of_less {after : FileSystem} (h : first.Affords exact second) (inexact : ¬ exact)
    (hless : after.Affords False first) : after.Affords exact second where
  same hexact := absurd hexact inexact
  less room hroom := by
    obtain ⟨rest, hrest, hfree⟩ := h.less room hroom
    obtain ⟨rest', hrest', hfree'⟩ := hless.less rest hfree
    exact ⟨rest', Nat.le_trans hrest' hrest, hfree'⟩

end Affords

theorem free_removeFile {system after : FileSystem} {path : Path}
    (h : system.removeFile path = .ok after) : after.free = system.free := by
  obtain ⟨place, rfl⟩ := exists_eq_removeNode h
  rfl

theorem free_appendFile (system : FileSystem) (id : FileId) (bytes : Bytes) :
    (system.appendFile id bytes).2.free =
      system.free.map (· - (system.free.map (min bytes.length ·)).getD bytes.length) := rfl

/-- As much is added to the file as there is room for. -/
theorem file?_appendFile_self (system : FileSystem) (id : FileId) (bytes : Bytes) :
    (system.appendFile id bytes).2.file? id = (system.file? id).map fun file ↦
      let fitting := (system.free.map (min bytes.length ·)).getD bytes.length
      { file with contents := file.contents.append (bytes.take fitting) } := by
  have hupdate := file?_updateFile system id (fun file ↦
    let fitting := (system.free.map (min bytes.length ·)).getD bytes.length
    { file with contents := file.contents.append (bytes.take fitting) }) id
  rwa [if_pos rfl] at hupdate

/-- There is room for everything that is added to the file. -/
theorem appendFile_eq_ok_iff {system : FileSystem} {id : FileId} {bytes : Bytes} :
    (system.appendFile id bytes).1 = .ok () ↔ ∀ room, system.free = some room → bytes.length ≤ room := by
  unfold appendFile
  dsimp only
  cases system.free with
  | none => simp
  | some room =>
    simp only [Option.map_some, Option.getD_some, Option.some.injEq, forall_eq']
    split
    · simp only [reduceCtorEq, false_iff]
      omega
    · simp only [true_iff]
      omega

/-- The same is added to two files that are stored alike. -/
theorem Affords.appendFile {exact : Prop} {first second : FileSystem} {id id' : FileId}
    {bytes : Bytes} (h : first.Affords exact second) (alike : second.file? id' = first.file? id)
    (fits : exact ∨ (first.appendFile id bytes).1 = .ok ()) :
    (second.appendFile id' bytes).1 = (first.appendFile id bytes).1 ∧
      (second.appendFile id' bytes).2.file? id' = (first.appendFile id bytes).2.file? id ∧
      (first.appendFile id bytes).2.Affords exact (second.appendFile id' bytes).2 := by
  rcases Classical.em exact with hexact | inexact
  · have hfree := h.same hexact
    refine ⟨?_, ?_, fun _ ↦ ?_, ?_⟩
    · simp only [FileSystem.appendFile, hfree]
    · rw [file?_appendFile_self, file?_appendFile_self, alike, hfree]
    · rw [free_appendFile, free_appendFile, hfree]
    · rw [free_appendFile, free_appendFile, hfree]
      intro room hroom
      exact ⟨room, Nat.le_refl room, hroom⟩
  · have hfirst := fits.resolve_left inexact
    have hsecond : (second.appendFile id' bytes).1 = .ok () := by
      rw [appendFile_eq_ok_iff] at hfirst ⊢
      intro room hroom
      obtain ⟨rest, hrest, hfree⟩ := h.less room hroom
      exact Nat.le_trans (hfirst rest hfree) hrest
    refine ⟨hsecond.trans hfirst.symm, ?_, fun hexact ↦ absurd hexact inexact, ?_⟩
    · rw [file?_appendFile hfirst, file?_appendFile hsecond, alike]
    · rw [free_appendFile, free_appendFile]
      intro room hroom
      obtain ⟨room', hroom', rfl⟩ := Option.map_eq_some_iff.mp hroom
      obtain ⟨rest, hrest, hfree⟩ := h.less room' hroom'
      rw [appendFile_eq_ok_iff] at hfirst hsecond
      have hfits := hfirst rest hfree
      have hfits' := hsecond room' hroom'
      refine ⟨rest - bytes.length, ?_, ?_⟩
      · rw [hroom', Option.map_some, Option.getD_some, Nat.min_eq_left hfits']
        exact Nat.sub_le_sub_right hrest _
      · rw [hfree, Option.map_some, Option.map_some, Option.getD_some, Nat.min_eq_left hfits]

end FileSystem

/-- The call does not run out of space on the machine that it finds. -/
def Call.Fits (machine : Machine) : Call → Prop
  | .appendFile id bytes => (machine.files.appendFile id bytes).1 = .ok ()
  | _ => True

namespace Machine

variable {First Second Result : Type}

/-- Nothing that the program writes runs out of space. -/
def HasRoom (machine : Machine) (program : Program Result) : Prop :=
  ∀ entry ∈ machine.log program, entry.2.Fits entry.1

theorem hasRoom_pure (machine : Machine) (result : Result) :
    machine.HasRoom (pure result : Program Result) :=
  fun _ hentry ↦ absurd hentry List.not_mem_nil

theorem hasRoom_bind {machine : Machine} {program : Program First}
    {next : First → Program Second} :
    machine.HasRoom (program >>= next) ↔
      machine.HasRoom program ∧
        (machine.run program).2.HasRoom (next (machine.run program).1) := by
  unfold HasRoom
  rw [log_bind, List.forall_mem_append]

theorem hasRoom_call {machine : Machine} {call : Call} :
    machine.HasRoom (Program.call call) ↔ call.Fits machine :=
  List.forall_mem_singleton

end Machine

/-! ## Machines -/

/-- The same datagram, sent from another socket. -/
def Datagram.sentFrom (socket : SocketAddress) (datagram : Datagram) : Datagram :=
  { datagram with source := socket.sourceFor datagram.destination }

/-- Two machines on which the same has happened at two sockets: it is the same time, the same
failures are due, and the same packets have been sent. -/
structure Machine.Twin (exact : Prop) (socket socket' : SocketAddress)
    (machine machine' : Machine) : Prop where
  ip : socket'.ip = socket.ip
  now : machine'.now = machine.now
  general : ∀ fault ∈ machine.network.faults, fault.socket = none
  faults : machine'.network.faults = machine.network.faults
  own : ∀ datagram ∈ machine.network.outbox, datagram.sentFrom socket = datagram
  outbox : machine'.network.outbox = machine.network.outbox.map (·.sentFrom socket')
  room : machine.files.Affords exact machine'.files

namespace Machine.Twin

variable {exact : Prop} {socket socket' : SocketAddress} {machine machine' : Machine}

/-- A failure that concerns every socket is the next one for each. -/
theorem takeFault?_general {faults : List SendFault} (h : ∀ fault ∈ faults, fault.socket = none)
    (socket : SocketAddress) :
    Network.takeFault? socket faults = faults.head?.map fun fault ↦ (fault.error, faults.tail) := by
  cases faults with
  | nil => rfl
  | cons fault rest =>
    have hsocket := h fault List.mem_cons_self
    rw [Network.takeFault?, hsocket]
    rfl

theorem send (h : Twin exact socket socket' machine machine') (destination : SocketAddress)
    (packet : Bytes) :
    (machine'.network.send machine'.now socket' destination packet).1 =
        (machine.network.send machine.now socket destination packet).1 ∧
      Twin exact socket socket'
        { machine with
          network := (machine.network.send machine.now socket destination packet).2 }
        { machine' with
          network := (machine'.network.send machine'.now socket' destination packet).2 } := by
  obtain ⟨now', files', network'⟩ := machine'
  obtain rfl : now' = machine.now := h.now
  have hgeneral' : ∀ fault ∈ network'.faults, fault.socket = none := by
    rw [show network'.faults = machine.network.faults from h.faults]
    exact h.general
  dsimp only [Network.send]
  rw [takeFault?_general h.general, takeFault?_general hgeneral',
    show network'.faults = machine.network.faults from h.faults, h.ip]
  cases hfaults : machine.network.faults with
  | cons fault rest =>
    have hrest : ∀ other ∈ rest, other.socket = none := by
      intro other hother
      exact h.general other (hfaults ▸ List.mem_cons_of_mem _ hother)
    exact ⟨rfl, h.ip, rfl, hrest, rfl, h.own, h.outbox, h.room⟩
  | nil =>
    simp only [List.head?_nil, Option.map_none]
    split
    · exact ⟨rfl, h.ip, rfl, h.general, h.faults, h.own, h.outbox, h.room⟩
    · split
      · exact ⟨rfl, h.ip, rfl, h.general, h.faults, h.own, h.outbox, h.room⟩
      · refine ⟨rfl, h.ip, rfl, nofun, rfl, ?_, ?_, h.room⟩
        · rw [List.forall_mem_append, List.forall_mem_singleton]
          exact ⟨h.own, rfl⟩
        · rw [List.map_append, List.map_singleton, ← h.outbox]
          rfl

/-- Changes of the files do not matter to the network. -/
theorem of_files (h : Twin exact socket socket' machine machine') {files files' : FileSystem}
    (room : files.Affords exact files') :
    Twin exact socket socket' { machine with files } { machine' with files := files' } :=
  ⟨h.ip, h.now, h.general, h.faults, h.own, h.outbox, room⟩

end Machine.Twin

/-! ## Files in use -/

/-- Two writers have as much in their buffers, and their files are stored alike. -/
structure FileWriter.Twin (files files' : FileSystem) (writer writer' : FileWriter) : Prop where
  buffer : writer'.buffer = writer.buffer
  alike : files'.file? writer'.file = files.file? writer.file

/-- Two streams at the same point of one file, or of two files that are stored alike. -/
inductive Stream.Twin (files files' : FileSystem) : Stream → Stream → Prop
  | reader {reader : FileReader}
      (alike : ∀ id, reader.handle = .file id → files'.file? id = files.file? id) :
    Twin files files' (.reader reader) (.reader reader)
  | writer {writer writer' : FileWriter} (twin : FileWriter.Twin files files' writer writer') :
    Twin files files' (.writer writer) (.writer writer')

/-- Two runs have come to the same result, and what they hold is alike. -/
structure Agree {Result End : Type} (exact : Prop) (socket socket' : SocketAddress)
    (Alike : FileSystem → FileSystem → End → End → Prop)
    (outcome outcome' : (Result × End) × Machine) : Prop where
  result : outcome'.1.1 = outcome.1.1
  alike : Alike outcome.2.files outcome'.2.files outcome.1.2 outcome'.1.2
  machines : Machine.Twin exact socket socket' outcome.2 outcome'.2

namespace FileReader

variable {files files' : FileSystem} {machine machine' : Machine}

theorem readFile_congr {handle : FileSystem.Handle}
    (alike : ∀ id, handle = .file id → files'.file? id = files.file? id) (offset count : Nat) :
    files'.readFile handle offset count = files.readFile handle offset count := by
  cases handle with
  | directory => rfl
  | file id => simp only [readFile, alike id rfl]

theorem readRest_congr {handle : FileSystem.Handle}
    (alike : ∀ id, handle = .file id → files'.file? id = files.file? id) (offset : Nat) :
    files'.readRest handle offset = files.readRest handle offset := by
  cases handle with
  | directory => rfl
  | file id => simp only [readRest, alike id rfl]

/-- What is read depends on the file alone, and reading changes nothing. -/
theorem run_fillWithin_congr (reader : FileReader)
    (alike : ∀ id, reader.handle = .file id → machine'.files.file? id = machine.files.file? id)
    (count fuel : Nat) :
    machine'.run (reader.fillWithin count fuel) =
        ((machine.run (reader.fillWithin count fuel)).1, machine') ∧
      (machine.run (reader.fillWithin count fuel)).2 = machine := by
  induction fuel generalizing reader count with
  | zero => exact ⟨rfl, rfl⟩
  | succ fuel ih =>
    unfold fillWithin
    dsimp only
    split
    · exact ⟨rfl, rfl⟩
    · rw [Machine.run_bind, Machine.run_bind, Machine.run_call, Machine.run_call]
      have hread := readFile_congr alike reader.offset bufferSize
      change (Machine.run (machine'.answer _).2 _ = _) ∧ _
      simp only [Machine.answer, hread]
      cases machine.files.readFile reader.handle reader.offset bufferSize with
      | error error => exact ⟨rfl, rfl⟩
      | ok chunk =>
        cases chunk with
        | nil => exact ⟨rfl, rfl⟩
        | cons first others =>
          obtain ⟨hrun, hsame⟩ := ih
            { reader with
              offset := reader.offset + (first :: others).length, buffer := first :: others }
            alike (count - (reader.buffer.take count).length)
          dsimp only
          rw [Machine.run_bind, Machine.run_bind, hrun, hsame]
          exact ⟨rfl, rfl⟩

theorem run_drain_congr (reader : FileReader)
    (alike : ∀ id, reader.handle = .file id → machine'.files.file? id = machine.files.file? id) :
    machine'.run reader.drain = ((machine.run reader.drain).1, machine') ∧
      (machine.run reader.drain).2 = machine := by
  unfold drain
  have hread := readRest_congr alike reader.offset
  rw [Machine.run_bind, Machine.run_bind, Machine.run_call, Machine.run_call]
  simp only [Machine.answer, hread]
  cases machine.files.readRest reader.handle reader.offset with
  | error error => exact ⟨rfl, rfl⟩
  | ok rest => exact ⟨rfl, rfl⟩

end FileReader

section

variable {exact : Prop} {socket socket' : SocketAddress} {machine machine' : Machine}

/-- What some space is wanted for is there, whichever part of a program it is that wants it. -/
theorem room_bind {First Second : Type} {program : Program First}
    {next : First → Program Second} (room : exact ∨ machine.HasRoom (program >>= next)) :
    (exact ∨ machine.HasRoom program) ∧
      (exact ∨ (machine.run program).2.HasRoom (next (machine.run program).1)) := by
  rw [Machine.hasRoom_bind] at room
  exact or_and_left.mp room

namespace FileWriter

variable {writer writer' : FileWriter}

theorem agree_append (machines : machine.Twin exact socket socket' machine')
    (alike : Twin machine.files machine'.files writer writer') (bytes buffer : Bytes)
    (room : exact ∨ machine.HasRoom (Program.call (.appendFile writer.file bytes))) :
    Agree exact socket socket' Twin
      (((machine.answer (.appendFile writer.file bytes)).1, { writer with buffer }),
        (machine.answer (.appendFile writer.file bytes)).2)
      (((machine'.answer (.appendFile writer'.file bytes)).1, { writer' with buffer }),
        (machine'.answer (.appendFile writer'.file bytes)).2) := by
  obtain ⟨result, same, affords⟩ :=
    machines.room.appendFile alike.alike (room.imp_right Machine.hasRoom_call.mp)
  exact ⟨result, ⟨rfl, same⟩, machines.of_files affords⟩

theorem agree_empty (machines : machine.Twin exact socket socket' machine')
    (alike : Twin machine.files machine'.files writer writer')
    (room : exact ∨ machine.HasRoom writer.empty) :
    Agree exact socket socket' Twin (machine.run writer.empty) (machine'.run writer'.empty) := by
  unfold empty at room ⊢
  rw [alike.buffer]
  split
  · exact ⟨rfl, alike, machines⟩
  · next hbuffer =>
    rw [if_neg hbuffer] at room
    exact agree_append machines alike writer.buffer [] (room_bind room).1

theorem agree_write (machines : machine.Twin exact socket socket' machine')
    (alike : Twin machine.files machine'.files writer writer') (chunk : Bytes)
    (room : exact ∨ machine.HasRoom (writer.write chunk)) :
    Agree exact socket socket' Twin (machine.run (writer.write chunk))
      (machine'.run (writer'.write chunk)) := by
  unfold write at room ⊢
  rw [alike.buffer]
  split
  · exact ⟨rfl, ⟨rfl, alike.alike⟩, machines⟩
  · next hfull =>
    rw [if_neg hfull] at room
    obtain ⟨hempty, hrest⟩ := room_bind room
    obtain ⟨result, emptied, machines'⟩ := agree_empty machines alike hempty
    rw [Machine.run_bind, Machine.run_bind]
    generalize machine.run writer.empty = outcome at *
    generalize machine'.run writer'.empty = outcome' at *
    obtain ⟨⟨answer, writer⟩, machine⟩ := outcome
    obtain ⟨⟨answer', writer'⟩, machine'⟩ := outcome'
    obtain rfl : answer' = answer := result
    cases answer' with
    | error error => exact ⟨rfl, emptied, machines'⟩
    | ok _ =>
      dsimp only at hrest emptied machines' ⊢
      split
      · exact ⟨rfl, ⟨rfl, emptied.alike⟩, machines'⟩
      · next hlarge =>
        rw [if_neg hlarge] at hrest
        have happend := agree_append machines' emptied chunk writer.buffer (room_bind hrest).1
        have hbuffer : { writer' with buffer := writer.buffer } = writer' := by
          rw [← emptied.buffer]
        rwa [hbuffer] at happend

end FileWriter

/-! ## Conversations -/

namespace Stream

variable {stream stream' : Stream}

theorem agree_answer (machines : machine.Twin exact socket socket' machine')
    (alike : Twin machine.files machine'.files stream stream') (question : Session.Question)
    (room : exact ∨ machine.HasRoom (stream.answer socket question)) :
    Agree exact socket socket' Twin (machine.run (stream.answer socket question))
      (machine'.run (stream'.answer socket' question)) := by
  cases question with
  | send destination packet =>
    obtain ⟨result, machines'⟩ := machines.send destination packet
    cases alike with
    | reader alike => exact ⟨result, .reader alike, machines'⟩
    | writer twin => exact ⟨result, .writer twin, machines'⟩
  | write chunk =>
    cases alike with
    | reader alike => exact ⟨rfl, .reader alike, machines⟩
    | writer twin =>
      obtain ⟨result, twin, machines⟩ :=
        FileWriter.agree_write machines twin chunk (room_bind room).1
      unfold answer
      rw [Machine.run_bind, Machine.run_bind]
      exact ⟨result, .writer twin, machines⟩
  | flush =>
    cases alike with
    | reader alike => exact ⟨rfl, .reader alike, machines⟩
    | writer twin =>
      obtain ⟨result, twin, machines⟩ := FileWriter.agree_empty machines twin (room_bind room).1
      unfold answer
      rw [Machine.run_bind, Machine.run_bind]
      exact ⟨result, .writer twin, machines⟩
  | fill count =>
    cases alike with
    | writer twin => exact ⟨rfl, .writer twin, machines⟩
    | @reader reader alike =>
      have handle_eq :=
        Machine.returns_of_meets (reader.fillWithin_meets count (count + 1)) machine
      obtain ⟨hrun, hsame⟩ := reader.run_fillWithin_congr alike count (count + 1)
      unfold answer FileReader.fill
      rw [Machine.run_bind, Machine.run_bind, hrun, hsame]
      exact ⟨rfl, .reader (by rw [handle_eq]; exact alike), machines⟩
  | drain =>
    cases alike with
    | writer twin => exact ⟨rfl, .writer twin, machines⟩
    | @reader reader alike =>
      have handle_eq := Machine.returns_of_meets reader.drain_meets machine
      obtain ⟨hrun, hsame⟩ := reader.run_drain_congr alike
      unfold answer
      rw [Machine.run_bind, Machine.run_bind, hrun, hsame]
      exact ⟨rfl, .reader (by rw [handle_eq]; exact alike), machines⟩

/-- Two conversations of one session come to the same. -/
theorem agree_converse {Result : Type} (machines : machine.Twin exact socket socket' machine')
    (alike : Twin machine.files machine'.files stream stream') (turn : Session.Turn Result)
    (room : exact ∨ machine.HasRoom (stream.converse socket turn)) :
    Agree exact socket socket' Twin (machine.run (stream.converse socket turn))
      (machine'.run (stream'.converse socket' turn)) := by
  induction turn generalizing stream stream' machine machine' with
  | done result => exact ⟨rfl, alike, machines⟩
  | ask question next ih =>
    unfold converse at room ⊢
    obtain ⟨hanswer, hrest⟩ := room_bind room
    obtain ⟨result, alike', machines'⟩ := agree_answer machines alike question hanswer
    rw [Machine.run_bind, Machine.run_bind]
    dsimp only
    rw [result]
    exact ih _ machines' alike' hrest

end Stream

/-! ## Turns -/

/-- Two transfers at the same point, each with its own socket and its own stream. -/
structure Transfer.Twin (files files' : FileSystem) (transfer transfer' : Transfer) : Prop where
  streams : transfer.stream.Twin files files' transfer'.stream
  session : transfer'.session = transfer.session
  exchange : transfer'.exchange = transfer.exchange
  since : transfer'.since = transfer.since

/-- Two courses that have led to the same point, or to the same end. -/
inductive Course.Twin (socket socket' : SocketAddress) (files files' : FileSystem) :
    Course → Course → Prop
  | running {transfer transfer' : Transfer} (twin : Transfer.Twin files files' transfer transfer')
      (at_socket : transfer.socket = socket) (at_socket' : transfer'.socket = socket') :
    Twin socket socket' files files' (.running transfer) (.running transfer')
  | ended {stream stream' : Stream} (streams : stream.Twin files files' stream')
      (session : Session) (result : Except TransferError Summary) :
    Twin socket socket' files files' (.ended session stream result)
      (.ended session stream' result)

theorem Course.Twin.streams {files files' : FileSystem} {course course' : Course}
    (h : course.Twin socket socket' files files' course') :
    course.stream.Twin files files' course'.stream := by
  cases h with
  | running twin at_socket at_socket' => exact twin.streams
  | ended streams session result => exact streams

namespace Transfer

theorem twin_takeTurn {stream stream' : Stream}
    (machines : machine.Twin exact socket socket' machine')
    (alike : stream.Twin machine.files machine'.files stream')
    (turn : Session.Turn Session.Progress) (since : Nat)
    (room : exact ∨ machine.HasRoom (takeTurn socket stream turn since)) :
    let outcome := machine.run (takeTurn socket stream turn since)
    let outcome' := machine'.run (takeTurn socket' stream' turn since)
    Course.Twin socket socket' outcome.2.files outcome'.2.files outcome.1 outcome'.1 ∧
      outcome.2.Twin exact socket socket' outcome'.2 := by
  unfold takeTurn at room ⊢
  obtain ⟨result, alike', machines'⟩ :=
    Stream.agree_converse machines alike turn (room_bind room).1
  simp only [Machine.run_bind]
  generalize machine.run (stream.converse socket turn) = outcome at *
  generalize machine'.run (stream'.converse socket' turn) = outcome' at *
  obtain ⟨⟨progress, stream⟩, machine⟩ := outcome
  obtain ⟨⟨progress', stream'⟩, machine'⟩ := outcome'
  obtain rfl : progress' = progress := result
  cases progress' with
  | waiting session exchange => exact ⟨.running ⟨alike', rfl, rfl, rfl⟩ rfl rfl, machines'⟩
  | ended session result => exact ⟨.ended alike' session result, machines'⟩

theorem twin_react {transfer transfer' : Transfer}
    (h : transfer.Twin machine.files machine'.files transfer')
    (machines : machine.Twin exact transfer.socket transfer'.socket machine')
    (event : Session.Event) (now since : Nat)
    (room : exact ∨ machine.HasRoom (transfer.react event now since)) :
    let outcome := machine.run (transfer.react event now since)
    let outcome' := machine'.run (transfer'.react event now since)
    Course.Twin transfer.socket transfer'.socket outcome.2.files outcome'.2.files outcome.1
        outcome'.1 ∧
      outcome.2.Twin exact transfer.socket transfer'.socket outcome'.2 := by
  unfold react at room ⊢
  rw [h.session, h.exchange]
  exact twin_takeTurn machines h.streams _ since room

end Transfer

end

/-! ## Handlers -/

/-- The file that stands at a location. -/
def FileSystem.fileAt? (system : FileSystem) (location : Location) : Option StoredFile :=
  match system.labelAt? location with
  | some (.file id) => system.file? id
  | _ => none

theorem FileSystem.fileAt?_of_label {system : FileSystem} {location : Location} {id : FileId}
    (h : system.labelAt? location = some (.file id)) :
    system.fileAt? location = system.file? id := by
  rw [fileAt?, h]

theorem FileSystem.fileAt?_of_none {system : FileSystem} {location : Location}
    (h : system.labelAt? location = none) : system.fileAt? location = none := by
  rw [fileAt?, h]

/-- The result that a course has come to. -/
def Course.result? : Course → Option (Except TransferError Summary)
  | .running _ => none
  | .ended _ _ result => some result

theorem Course.Twin.result?_eq {socket socket' : SocketAddress} {files files' : FileSystem}
    {course course' : Course} (h : course.Twin socket socket' files files' course') :
    course'.result? = course.result? := by
  cases h <;> rfl

/-- Two handlers at the same point of the same request. -/
structure Handler.Twin (files files' : FileSystem) (handler handler' : Handler) : Prop where
  client : handler'.client = handler.client
  transfers : handler.transfer.Twin files files' handler'.transfer
  paths : handler'.upload.map (·.path) = handler.upload.map (·.path)

/-- Both receive their files at the same place. -/
theorem Handler.Twin.exists_upload {files files' : FileSystem} {handler handler' : Handler}
    (h : handler.Twin files files' handler') {upload' : Upload}
    (hupload' : handler'.upload = some upload') :
    ∃ upload, handler.upload = some upload ∧ upload.location = upload'.location := by
  have paths := h.paths
  rw [hupload'] at paths
  obtain ⟨upload, hupload, path⟩ := Option.map_eq_some_iff.mp paths.symm
  exact ⟨upload, hupload, congrArg Location.ofPath path⟩

theorem Stream.Twin.file?_eq {files files' : FileSystem} {stream stream' : Stream} {id id' : FileId}
    (h : stream.Twin files files' stream') (hfile : stream.file? = some id)
    (hfile' : stream'.file? = some id') : files'.file? id' = files.file? id := by
  cases h with
  | reader alike => cases hfile
  | writer twin =>
    cases hfile
    cases hfile'
    exact twin.alike

namespace Handler

/-- There are not two twins at one socket with the same file. -/
theorem Twin.eq {files files' : FileSystem} {handler handler' : Handler}
    (h : handler.Twin files files' handler')
    (at_socket : handler'.transfer.socket = handler.transfer.socket)
    (at_upload : handler'.upload = handler.upload)
    (at_file : handler'.transfer.stream.file? = handler.transfer.stream.file?) :
    handler' = handler := by
  obtain ⟨hclient, ⟨streams, hsession, hexchange, hsince⟩, -⟩ := h
  obtain ⟨client, ⟨socket, stream, session, exchange, since⟩, upload⟩ := handler
  obtain ⟨client', ⟨socket', stream', session', exchange', since'⟩, upload'⟩ := handler'
  obtain rfl : client' = client := hclient
  obtain rfl : socket' = socket := at_socket
  obtain rfl : session' = session := hsession
  obtain rfl : exchange' = exchange := hexchange
  obtain rfl : since' = since := hsince
  obtain rfl : upload' = upload := at_upload
  cases streams with
  | reader alike => rfl
  | @writer writer writer' twin =>
    have hwriter : writer' = writer := by
      obtain ⟨file', buffer'⟩ := writer'
      obtain ⟨file, buffer⟩ := writer
      obtain rfl : buffer' = buffer := twin.buffer
      obtain rfl : file' = file := Option.some.inj at_file
      rfl
    rw [hwriter]

variable {exact : Prop} {socket socket' client : SocketAddress} {machine machine' : Machine}

/-- What has become of two handlers: both go on, or both have ended. -/
inductive Agreed (socket socket' : SocketAddress) (files files' : FileSystem) :
    Option Handler → Option Handler → Prop
  | goesOn {handler handler' : Handler} (twin : handler.Twin files files' handler')
      (at_socket : handler.transfer.socket = socket)
      (at_socket' : handler'.transfer.socket = socket') :
    Agreed socket socket' files files' (some handler) (some handler')
  | ended : Agreed socket socket' files files' none none

/-- When a transfer has ended its socket is closed, and its file is at most taken away. -/
theorem run_follow_ended (machine : Machine) (socket client : SocketAddress)
    (upload : Option Upload) (session : Session) (rest : Stream)
    (result : Except TransferError Summary) :
    let outcome := machine.run (follow socket client upload (.ended session rest result))
    outcome.1 = none ∧ outcome.2.now = machine.now ∧
      outcome.2.network = machine.network.close socket ∧
      outcome.2.files.free = machine.files.free := by
  cases upload with
  | none => exact ⟨rfl, rfl, rfl, rfl⟩
  | some upload =>
    cases result with
    | ok summary => exact ⟨rfl, rfl, rfl, rfl⟩
    | error error =>
      let closed : Machine := { machine with files := machine.files.closeFile upload.file }
      let removed := closed.tryFiles ((closed.files.removeFile upload.path).map fun files ↦ ((), files))
      have houtcome : machine.run
          (follow socket client (some upload) (.ended session rest (.error error))) =
            (none, { removed.2 with network := removed.2.network.close socket }) := rfl
      rw [houtcome]
      cases hremove : closed.files.removeFile upload.path with
      | error error =>
        have hremoved : removed.2 = closed := by simp only [removed, hremove]; rfl
        rw [hremoved]
        exact ⟨rfl, rfl, rfl, rfl⟩
      | ok files =>
        have hremoved : removed.2 = { closed with files } := by simp only [removed, hremove]; rfl
        rw [hremoved]
        have hfree : files.free = closed.files.free := free_removeFile hremove
        exact ⟨rfl, rfl, rfl, hfree⟩

/-- Two transfers that have ended. -/
theorem twin_follow_ended (client : SocketAddress)
    (machines : machine.Twin exact socket socket' machine')
    (upload upload' : Option Upload) (session : Session) (rest rest' : Stream)
    (result : Except TransferError Summary) :
    Machine.Twin exact socket socket'
      (machine.run (follow socket client upload (.ended session rest result))).2
      (machine'.run (follow socket' client upload' (.ended session rest' result))).2 := by
  obtain ⟨-, now, network, free⟩ :=
    run_follow_ended machine socket client upload session rest result
  obtain ⟨-, now', network', free'⟩ :=
    run_follow_ended machine' socket' client upload' session rest' result
  constructor
  · exact machines.ip
  · rw [now, now', machines.now]
  · rw [network]
    exact machines.general
  · rw [network, network']
    exact machines.faults
  · rw [network]
    exact machines.own
  · rw [network, network']
    exact machines.outbox
  · exact (machines.room.of_free_eq free).of_free_eq' free'

/-- Two transfers that do not write any file have come to the same. -/
theorem agreed_follow_of_reads (client : SocketAddress) {course course' : Course}
    (h : Course.Twin socket socket' machine.files machine'.files course course')
    (machines : machine.Twin exact socket socket' machine') :
    let outcome := machine.run (follow socket client none course)
    let outcome' := machine'.run (follow socket' client none course')
    Agreed socket socket' outcome.2.files outcome'.2.files outcome.1 outcome'.1 ∧
      outcome.2.Twin exact socket socket' outcome'.2 := by
  cases h with
  | running twin at_socket at_socket' =>
    exact ⟨.goesOn ⟨rfl, twin, rfl⟩ at_socket at_socket', machines⟩
  | ended streams session result => exact ⟨.ended, twin_follow_ended client machines _ _ _ _ _ _⟩

/-- Two transfers that write files which are stored alike have come to the same, and so have the
files. -/
theorem agreed_follow_of_writes (client : SocketAddress) {upload upload' : Upload}
    {course course' : Course}
    (h : Course.Twin socket socket' machine.files machine'.files course course')
    (machines : machine.Twin exact socket socket' machine') (path : upload'.path = upload.path)
    (stands : ∃ directory name, machine.files.Stands upload.path upload.file directory name)
    (stands' : ∃ directory name,
      machine'.files.Stands upload'.path upload'.file directory name)
    (alike : machine'.files.file? upload'.file = machine.files.file? upload.file) :
    let outcome := machine.run (follow socket client (some upload) course)
    let outcome' := machine'.run (follow socket' client (some upload') course')
    Agreed socket socket' outcome.2.files outcome'.2.files outcome.1 outcome'.1 ∧
      outcome.2.Twin exact socket socket' outcome'.2 ∧
      outcome'.2.files.file? upload'.file = outcome.2.files.file? upload.file ∧
      outcome'.2.files.fileAt? upload.location = outcome.2.files.fileAt? upload.location := by
  obtain ⟨directory, name, stands⟩ := stands
  obtain ⟨directory', name', stands'⟩ := stands'
  have hlocation : upload'.location = upload.location := by rw [Upload.location, path, Upload.location]
  have hlabel : machine.files.labelAt? upload.location = some (.file upload.file) := by
    rw [Upload.location, stands.ofPath]
    exact stands.leaf
  have hlabel' : machine'.files.labelAt? upload.location = some (.file upload'.file) := by
    rw [← hlocation, Upload.location, stands'.ofPath]
    exact stands'.leaf
  cases h with
  | running twin at_socket at_socket' =>
    refine ⟨.goesOn ⟨rfl, twin, congrArg some path⟩ at_socket at_socket', machines, alike, ?_⟩
    exact (fileAt?_of_label hlabel').trans (alike.trans (fileAt?_of_label hlabel).symm)
  | @ended rest rest' streams session result =>
    have ended := twin_follow_ended client machines (some upload) (some upload')
      session rest rest' result
    cases result with
    | ok summary =>
      have closed : (machine'.files.closeFile upload'.file).file? upload'.file =
          (machine.files.closeFile upload.file).file? upload.file := by
        rw [file?_closeFile, file?_closeFile, alike]
      refine ⟨.ended, ended, closed, ?_⟩
      rw [(run_follow_completed summary).2, (run_follow_completed summary).2,
        fileAt?_of_label (((SameBut.closeFile _ _).labelAt? _).trans hlabel),
        fileAt?_of_label (((SameBut.closeFile _ _).labelAt? _).trans hlabel'), closed]
    | error error =>
      have gone := stands.discard.2
      have gone' := stands'.discard.2
      rw [← stands.ofPath] at gone
      rw [← stands'.ofPath] at gone'
      refine ⟨.ended, ended, ?_, ?_⟩
      · rw [(run_follow_failed stands error).2, (run_follow_failed stands' error).2]
        change (machine'.files.closeFile _).file? _ = (machine.files.closeFile _).file? _
        rw [file?_closeFile, file?_closeFile, alike]
      · rw [(run_follow_failed stands error).2, (run_follow_failed stands' error).2,
          ← stands.ofPath, ← stands'.ofPath, path]
        have hnone := fileAt?_of_none gone
        have hnone' := fileAt?_of_none gone'
        rw [path] at hnone'
        exact hnone'.trans hnone.symm

/-- When a transfer has taken a turn its file still stands where it was. -/
theorem Tends.stands_course {handler : Handler} {upload : Upload} {stream : Bytes}
    (h : handler.Tends upload stream machine.files) (event : Session.Event) (now since : Nat) :
    ∃ directory name, (machine.run (handler.transfer.react event now since)).2.files.Stands
      upload.path upload.file directory name := by
  obtain ⟨directory, name, stands⟩ := h.stands
  exact ⟨directory, name, stands.of_sameBut (h.sameBut event now since)⟩

theorem Tends.file?_course {handler : Handler} {upload : Upload} {stream : Bytes}
    (h : handler.Tends upload stream machine.files) (event : Session.Event) (now since : Nat) :
    (machine.run (handler.transfer.react event now since)).1.stream.file? =
      some upload.file := by
  have continues := Machine.returns_of_meets (Transfer.takeTurn_meets handler.transfer.socket
    handler.transfer.stream (handler.transfer.session.react handler.transfer.exchange
      (Transfer.received event) now) since) machine
  rw [Transfer.run_react, continues.2, h.file?_eq]

/-- What the same stimulus makes of two handlers at the same point. -/
structure Concord (exact : Prop) (first second : Handler) (machine machine' : Machine)
    (event : Session.Event) (now since : Nat) : Prop where
  handlers : Agreed first.transfer.socket second.transfer.socket
    (machine.run (first.react event now since)).2.files
    (machine'.run (second.react event now since)).2.files
    (machine.run (first.react event now since)).1 (machine'.run (second.react event now since)).1
  machines : (machine.run (first.react event now since)).2.Twin exact first.transfer.socket
    second.transfer.socket (machine'.run (second.react event now since)).2
  result : (machine'.run (second.transfer.react event now since)).1.result? =
    (machine.run (first.transfer.react event now since)).1.result?
  stored : ∀ upload upload', first.upload = some upload → second.upload = some upload' →
    (machine'.run (second.react event now since)).2.files.file? upload'.file =
      (machine.run (first.react event now since)).2.files.file? upload.file
  file : ∀ upload, first.upload = some upload →
    (machine'.run (second.react event now since)).2.files.fileAt? upload.location =
      (machine.run (first.react event now since)).2.files.fileAt? upload.location

theorem Twin.react {handler handler' : Handler} {journal journal' : FileId → Record}
    (h : handler.Twin machine.files machine'.files handler')
    (machines : machine.Twin exact handler.transfer.socket handler'.transfer.socket machine')
    (proceeds : handler.Proceeds journal machine.files)
    (proceeds' : handler'.Proceeds journal' machine'.files) (event : Session.Event)
    (now since : Nat) (room : exact ∨ machine.HasRoom (handler.react event now since)) :
    Concord exact handler handler' machine machine' event now since := by
  obtain ⟨courses, machines⟩ :=
    Transfer.twin_react h.transfers machines event now since (room_bind room).1
  have hresult : (machine'.run (handler'.transfer.react event now since)).1.result? =
      (machine.run (handler.transfer.react event now since)).1.result? :=
    courses.result?_eq
  have hrun := run_react handler event now since machine
  have hrun' := run_react handler' event now since machine'
  rw [h.client] at hrun'
  cases hupload : handler.upload with
  | none =>
    have hupload' : handler'.upload = none := by
      have paths := h.paths
      rw [hupload] at paths
      exact Option.map_eq_none_iff.mp paths
    rw [hupload] at hrun
    rw [hupload'] at hrun'
    obtain ⟨handlers, machines⟩ := agreed_follow_of_reads handler.client courses machines
    rw [← hrun, ← hrun'] at handlers machines
    refine ⟨handlers, machines, hresult, ?_, ?_⟩
    · intro upload upload' hsome
      rw [hupload] at hsome
      cases hsome
    · intro upload hsome
      rw [hupload] at hsome
      cases hsome
  | some upload =>
    obtain ⟨upload', hupload', path⟩ : ∃ upload', handler'.upload = some upload' ∧
        upload'.path = upload.path := by
      have paths := h.paths
      rw [hupload] at paths
      exact Option.map_eq_some_iff.mp paths
    have tends := proceeds.tends upload hupload
    have tends' := proceeds'.tends upload' hupload'
    have alike := courses.streams.file?_eq
      (tends.file?_course event now since) (tends'.file?_course event now since)
    rw [hupload] at hrun
    rw [hupload'] at hrun'
    obtain ⟨handlers, machines, stored, file⟩ := agreed_follow_of_writes handler.client courses
      machines path (tends.stands_course event now since) (tends'.stands_course event now since)
      alike
    rw [← hrun, ← hrun'] at handlers machines stored file
    refine ⟨handlers, machines, hresult, ?_, ?_⟩
    · rintro _ _ hsome hsome'
      cases hupload.symm.trans hsome
      cases hupload'.symm.trans hsome'
      exact stored
    · rintro _ hsome
      cases hupload.symm.trans hsome
      exact file

end Handler

/-! ## Effects -/

/-- The machine when something happens: the clock shows the time, the sends to come run into the
failures, and what was sent before has left. -/
def Machine.facing (machine : Machine) (now : Nat) (faults : List SystemError) : Machine :=
  { machine with
    now
    network := { machine.network with faults := faults.map (⟨none, ·⟩), outbox := [] } }

/-- Nothing has been sent yet when something happens. -/
theorem Machine.Twin.facing {exact : Prop} {socket socket' : SocketAddress}
    {machine machine' : Machine} (ip : socket'.ip = socket.ip)
    (room : machine.files.Affords exact machine'.files) (now : Nat) (faults : List SystemError) :
    Machine.Twin exact socket socket' (machine.facing now faults) (machine'.facing now faults) where
  ip := ip
  now := rfl
  general := by
    intro fault hfault
    obtain ⟨error, -, rfl⟩ := List.mem_map.mp hfault
    rfl
  faults := rfl
  own _ hmem := absurd hmem List.not_mem_nil
  outbox := rfl
  room := room

/-- What is seen of a handler when something happens to it: the datagrams that it sends, the result
if its transfer ends, and what has become of the file that it receives. -/
structure Effect where
  sent : List Datagram
  result? : Option (Except TransferError Summary)
  file? : Option StoredFile

/-- The effect when the same has been sent from another socket. -/
def Effect.sentFrom (socket : SocketAddress) (effect : Effect) : Effect :=
  { effect with sent := effect.sent.map (·.sentFrom socket) }

namespace Handler

def effect (handler : Handler) (machine : Machine) (event : Session.Event) (now since : Nat) :
    Effect where
  sent := (machine.run (handler.react event now since)).2.network.outbox
  result? := (machine.run (handler.transfer.react event now since)).1.result?
  file? := handler.upload.bind fun upload ↦
    (machine.run (handler.react event now since)).2.files.fileAt? upload.location

variable {exact : Prop} {first second : Handler} {machine machine' : Machine}
  {event : Session.Event} {now since : Nat}

theorem Concord.effect_eq (h : Concord exact first second machine machine' event now since)
    (paths : second.upload.map (·.path) = first.upload.map (·.path)) :
    second.effect machine' event now since =
      (first.effect machine event now since).sentFrom second.transfer.socket := by
  have hfile : (second.effect machine' event now since).file? =
      (first.effect machine event now since).file? := by
    unfold effect
    cases hupload : first.upload with
    | none =>
      rw [hupload] at paths
      rw [Option.map_eq_none_iff.mp paths]
      rfl
    | some upload =>
      rw [hupload] at paths
      obtain ⟨upload', hupload', path⟩ := Option.map_eq_some_iff.mp paths
      have hlocation : upload'.location = upload.location := congrArg Location.ofPath path
      rw [hupload', Option.bind_some, Option.bind_some, hlocation]
      exact h.file upload hupload
  exact Effect.mk.injEq .. ▸ ⟨h.machines.outbox, h.result, hfile⟩

/-- At the same socket the same is sent. -/
theorem Concord.effect_eq_of_socket
    (h : Concord exact first second machine machine' event now since)
    (paths : second.upload.map (·.path) = first.upload.map (·.path))
    (socket_eq : second.transfer.socket = first.transfer.socket) :
    second.effect machine' event now since = first.effect machine event now since := by
  rw [h.effect_eq paths, socket_eq]
  have hsame : (first.effect machine event now since).sent.map
      (·.sentFrom first.transfer.socket) = (first.effect machine event now since).sent :=
    (List.map_congr_left (g := id) h.machines.own).trans (List.map_id _)
  rw [Effect.sentFrom, hsame]

end Handler

/-! ## Other files -/

/-- The stream reads or writes the file. -/
def Stream.Uses (stream : Stream) (id : FileId) : Prop :=
  stream.handle? = some (.file id) ∨ stream.file? = some id

theorem Stream.Continues.uses_iff {first second : Stream} (h : first.Continues second)
    (id : FileId) : second.Uses id ↔ first.Uses id := by
  rw [Uses, Uses, h.1, h.2]

/-- What becomes of other files is no matter. -/
theorem Handler.Twin.of_files {files files' after after' : FileSystem} {handler handler' : Handler}
    (h : handler.Twin files files' handler')
    (same : ∀ id, handler.transfer.stream.Uses id → after.file? id = files.file? id)
    (same' : ∀ id, handler'.transfer.stream.Uses id → after'.file? id = files'.file? id) :
    handler.Twin after after' handler' := by
  refine ⟨h.client, ⟨?_, h.transfers.session, h.transfers.exchange, h.transfers.since⟩, h.paths⟩
  have streams := h.transfers.streams
  generalize handler.transfer.stream = stream at *
  generalize handler'.transfer.stream = stream' at *
  cases streams with
  | reader alike =>
    apply Stream.Twin.reader
    intro id hid
    have uses : Stream.Uses (.reader _) id := .inl (congrArg some hid)
    rw [same id uses, same' id uses]
    exact alike id hid
  | writer twin =>
    apply Stream.Twin.writer
    refine ⟨twin.buffer, ?_⟩
    rw [same _ (.inr rfl), same' _ (.inr rfl)]
    exact twin.alike

end Lockstep
