import Lockstep.Proofs.Histories
import Lockstep.Proofs.LocalFiles

/-!
# Sources

What it means that a source answers a session: each answer is put together from pieces of any size,
up to the end of what there is or to a failure. All streams of the program answer like this,
scripted sources as well as files that are read through a buffer, so a history that is led with one
of them is the history of a session that reads from a source.
-/

namespace Lockstep

open Session FileSystem

namespace Session

/-- A source that has `bytes` left is called until it has yielded `count` of them, or a call yields
nothing since there is nothing left, or fails. Each call yields as much as the source likes. -/
inductive Fills : Bytes → Nat → Except SystemError Bytes → Bytes → Prop
  | enough (bytes : Bytes) : Fills bytes 0 (.ok []) bytes
  | ended (count : Nat) : Fills [] count (.ok []) []
  | yielded {piece bytes left : Bytes} {count : Nat} {answer : Except SystemError Bytes}
      (nonempty : piece ≠ []) (fits : piece.length ≤ count)
      (rest : Fills bytes (count - piece.length) answer left) :
      Fills (piece ++ bytes) count (answer.map (piece ++ ·)) left
  | broken (bytes : Bytes) (count : Nat) (error : SystemError) (left : Bytes) :
      Fills bytes count (.error error) left

/-- A source that has `bytes` left is called until a call yields nothing since there is nothing
left, or fails. -/
inductive Drains : Bytes → Except SystemError Bytes → Bytes → Prop
  | ended : Drains [] (.ok []) []
  | yielded {piece bytes left : Bytes} {answer : Except SystemError Bytes} (nonempty : piece ≠ [])
      (rest : Drains bytes answer left) : Drains (piece ++ bytes) (answer.map (piece ++ ·)) left
  | broken (bytes : Bytes) (error : SystemError) (left : Bytes) :
      Drains bytes (.error error) left

/-- A source that has `bytes` left answers what is asked of it in the talk, and has `left` left
then. Nothing else that is asked concerns it. -/
inductive Reads : Bytes → Talk → Bytes → Prop
  | silent (bytes : Bytes) : Reads bytes [] bytes
  | sent {bytes left : Bytes} {talk : Talk} (destination : SocketAddress) (packet : Bytes)
      (answer : Except SystemError Unit) (rest : Reads bytes talk left) :
      Reads bytes (⟨.send destination packet, answer⟩ :: talk) left
  | written {bytes left : Bytes} {talk : Talk} (chunk : Bytes) (answer : Except SystemError Unit)
      (rest : Reads bytes talk left) : Reads bytes (⟨.write chunk, answer⟩ :: talk) left
  | flushed {bytes left : Bytes} {talk : Talk} (answer : Except SystemError Unit)
      (rest : Reads bytes talk left) : Reads bytes (⟨.flush, answer⟩ :: talk) left
  | filled {bytes between left : Bytes} {talk : Talk} {count : Nat}
      {answer : Except SystemError Bytes} (fills : Fills bytes count answer between)
      (rest : Reads between talk left) : Reads bytes (⟨.fill count, answer⟩ :: talk) left
  | drained {bytes between left : Bytes} {talk : Talk} {answer : Except SystemError Bytes}
      (drains : Drains bytes answer between) (rest : Reads between talk left) :
      Reads bytes (⟨.drain, answer⟩ :: talk) left

/-- The pieces do not matter. -/
theorem Fills.eq_take {bytes chunk left : Bytes} {count : Nat}
    (h : Fills bytes count (.ok chunk) left) :
    chunk = bytes.take count ∧ left = bytes.drop count := by
  generalize hanswer : Except.ok chunk = answer at h
  induction h generalizing chunk with
  | enough bytes =>
    cases hanswer
    exact ⟨rfl, rfl⟩
  | ended count =>
    cases hanswer
    exact ⟨List.take_nil.symm, List.drop_nil.symm⟩
  | @yielded piece bytes left count answer nonempty fits rest ih =>
    cases answer with
    | error error => cases hanswer
    | ok chunk' =>
      cases hanswer
      obtain ⟨rfl, rfl⟩ := ih rfl
      rw [List.take_append, List.take_of_length_le fits, List.drop_append,
        List.drop_of_length_le fits, List.nil_append]
      exact ⟨rfl, rfl⟩
  | broken bytes count error left => cases hanswer

theorem Drains.eq {bytes chunk left : Bytes} (h : Drains bytes (.ok chunk) left) :
    chunk = bytes ∧ left = [] := by
  generalize hanswer : Except.ok chunk = answer at h
  induction h generalizing chunk with
  | ended =>
    cases hanswer
    exact ⟨rfl, rfl⟩
  | @yielded piece bytes left answer nonempty rest ih =>
    cases answer with
    | error error => cases hanswer
    | ok chunk' =>
      cases hanswer
      obtain ⟨rfl, rfl⟩ := ih rfl
      exact ⟨rfl, rfl⟩
  | broken bytes error left => cases hanswer

/-- A piece may also be empty. -/
theorem Fills.behind {piece bytes left : Bytes} {count : Nat} {answer : Except SystemError Bytes}
    (fits : piece.length ≤ count) (rest : Fills bytes (count - piece.length) answer left) :
    Fills (piece ++ bytes) count (answer.map (piece ++ ·)) left := by
  by_cases hpiece : piece = []
  · subst hpiece
    cases answer <;> exact rest
  · exact .yielded hpiece fits rest

theorem Fills.whole (piece bytes : Bytes) :
    Fills (piece ++ bytes) piece.length (.ok piece) bytes := by
  have rest : Fills bytes (piece.length - piece.length) (.ok []) bytes := by
    rw [Nat.sub_self]
    exact .enough bytes
  have fills := rest.behind (Nat.le_refl _)
  rwa [Except.map, List.append_nil] at fills

theorem Fills.last {piece : Bytes} {count : Nat} (fits : piece.length ≤ count) :
    Fills piece count (.ok piece) [] := by
  have fills := Fills.behind fits (.ended (count - piece.length))
  rwa [Except.map, List.append_nil] at fills

/-- Who asks for more than there is gets all. -/
theorem Fills.drains {bytes left : Bytes} {count : Nat} {answer : Except SystemError Bytes}
    (h : Fills bytes count answer left) (hlt : bytes.length < count) :
    Drains bytes answer left := by
  induction h with
  | enough bytes => exact absurd hlt (Nat.not_lt_zero _)
  | ended count => exact .ended
  | @yielded piece bytes left count answer nonempty fits rest ih =>
    rw [List.length_append] at hlt
    exact .yielded nonempty (ih (by omega))
  | broken bytes count error left => exact .broken bytes error left

theorem Reads.append {bytes left : Bytes} {first second : Talk} :
    Reads bytes (first ++ second) left ↔
      ∃ between, Reads bytes first between ∧ Reads between second left := by
  constructor
  · intro h
    induction first generalizing bytes with
    | nil => exact ⟨bytes, .silent bytes, h⟩
    | cons said rest ih =>
      cases h with
      | sent destination packet answer h =>
        obtain ⟨between, hfirst, hsecond⟩ := ih h
        exact ⟨between, .sent destination packet answer hfirst, hsecond⟩
      | written chunk answer h =>
        obtain ⟨between, hfirst, hsecond⟩ := ih h
        exact ⟨between, .written chunk answer hfirst, hsecond⟩
      | flushed answer h =>
        obtain ⟨between, hfirst, hsecond⟩ := ih h
        exact ⟨between, .flushed answer hfirst, hsecond⟩
      | filled fills h =>
        obtain ⟨between, hfirst, hsecond⟩ := ih h
        exact ⟨between, .filled fills hfirst, hsecond⟩
      | drained drains h =>
        obtain ⟨between, hfirst, hsecond⟩ := ih h
        exact ⟨between, .drained drains hfirst, hsecond⟩
  · rintro ⟨between, hfirst, hsecond⟩
    induction hfirst with
    | silent bytes => exact hsecond
    | sent destination packet answer rest ih => exact .sent destination packet answer (ih hsecond)
    | written chunk answer rest ih => exact .written chunk answer (ih hsecond)
    | flushed answer rest ih => exact .flushed answer (ih hsecond)
    | filled fills rest ih => exact .filled fills (ih hsecond)
    | drained drains rest ih => exact .drained drains (ih hsecond)

end Session

/-! ## Scripted sources -/

/-- A scripted source answers like this, whatever the size of its pieces and wherever it breaks. -/
theorem Source.fills {source : Source} (h : source.piece ≠ some 0) {count fuel : Nat}
    (hfuel : count ≤ fuel) :
    Session.Fills source.rest count (source.readFully count fuel).1
      (source.readFully count fuel).2.rest := by
  induction fuel generalizing source count with
  | zero =>
    obtain rfl : count = 0 := by omega
    exact .enough _
  | succ fuel ih =>
    unfold readFully
    rcases Nat.eq_zero_or_pos count with rfl | hpos
    · exact .enough _
    rw [if_neg (by omega)]
    cases hbroken : source.isBroken with
    | true =>
      have hread : source.read count = (.error source.failure, source) := if_pos hbroken
      rw [hread]
      exact .broken _ _ _ _
    | false =>
      obtain ⟨yielded, hle, hrest, hend, hread⟩ := read_of_unbroken h hbroken hpos
      rw [hread]
      have hwhole : source.rest.take yielded ++ (source.skip yielded).rest = source.rest := by
        rw [rest_skip, List.take_append_drop]
      cases hpiece : source.rest.take yielded with
      | nil =>
        have hnil : source.rest = [] := by
          rcases List.take_eq_nil_iff.mp hpiece with hzero | hnil
          · exact hend hzero
          · exact hnil
        dsimp only
        rw [rest_skip, hnil, List.drop_nil]
        exact .ended count
      | cons first others =>
        have hlength : (first :: others).length = yielded := by
          rw [← hpiece, List.length_take, Nat.min_eq_left hrest]
        subst hlength
        rw [hpiece] at hwhole
        have hpositive : 0 < (first :: others).length := Nat.succ_pos _
        have hskip : (source.skip (first :: others).length).piece ≠ some 0 := h
        have hfills := ih hskip (show count - (first :: others).length ≤ fuel by omega)
        have hyielded := Session.Fills.yielded (List.cons_ne_nil first others) hle hfills
        rwa [hwhole] at hyielded

/-- Reading does not change how much a source yields at once. -/
theorem Source.piece_readFully (source : Source) (count fuel : Nat) :
    (source.readFully count fuel).2.piece = source.piece := by
  induction fuel generalizing source count with
  | zero => rfl
  | succ fuel ih =>
    have hread : (source.read count).2.piece = source.piece := by
      unfold read
      split <;> rfl
    unfold readFully
    split
    · rfl
    split
    · next heq => rwa [heq] at hread
    · next heq => rwa [heq] at hread
    · next heq =>
      rw [heq] at hread
      exact (ih _ _).trans hread

theorem Source.drains {source : Source} (h : source.piece ≠ some 0) :
    Drains source.rest source.drain.1 source.drain.2.rest := by
  refine (source.fills h (Nat.le_refl _)).drains ?_
  rw [length_rest]
  exact Nat.lt_succ_self _

/-! ## Files that are read -/

namespace FileSystem

/-- What is in a file. There is nothing in a directory and in a file that is gone. -/
def contentOf (files : FileSystem) : Handle → Bytes
  | .directory => []
  | .file id => ((files.file? id).map (·.contents.toBytes)).getD []

variable {files : FileSystem}

/-- A read that does not fail yields the beginning of what is left, and nothing only at the end. -/
theorem readFile_cases (files : FileSystem) (handle : Handle) (offset : Nat) {count : Nat}
    (hpos : 0 < count) :
    (∃ error, files.readFile handle offset count = .error error) ∨
      ∃ yielded, 0 < yielded ∧ files.readFile handle offset count =
        .ok (((files.contentOf handle).drop offset).take yielded) := by
  unfold readFile contentOf
  cases handle with
  | directory => exact .inl ⟨_, rfl⟩
  | file id =>
    dsimp only
    cases files.file? id with
    | none => exact .inr ⟨1, Nat.one_pos, by simp⟩
    | some file =>
      cases hbroken : file.brokenFrom with
      | none =>
        refine .inr ⟨count, hpos, ?_⟩
        simp only [hbroken, Contents.slice_eq, Option.map_some, Option.getD_some]
      | some limit =>
        by_cases hlimit : offset ≥ limit
        · refine .inl ⟨.inputOutput, ?_⟩
          simp only [hbroken, if_pos hlimit]
        · refine .inr ⟨min count (limit - offset), by omega, ?_⟩
          simp only [hbroken, if_neg hlimit, Contents.slice_eq, Option.map_some, Option.getD_some]

theorem readRest_cases (files : FileSystem) (handle : Handle) (offset : Nat) :
    (∃ error, files.readRest handle offset = .error error) ∨
      files.readRest handle offset = .ok ((files.contentOf handle).drop offset) := by
  unfold readRest contentOf
  cases handle with
  | directory => exact .inl ⟨_, rfl⟩
  | file id =>
    dsimp only
    cases files.file? id with
    | none => exact .inr (by simp)
    | some file =>
      by_cases hbroken : file.brokenFrom.any (· ≤ file.contents.size)
      · exact .inl ⟨_, if_pos hbroken⟩
      · refine .inr ?_
        simp only [if_neg hbroken, Contents.slice_eq, Option.map_some, Option.getD_some]
        rw [List.take_of_length_le]
        rw [List.length_drop, Contents.length_toBytes]
        exact Nat.sub_le _ _

end FileSystem

namespace FileReader

/-- What the reader has not yielded yet, if this is in the file. -/
def left (reader : FileReader) (content : Bytes) : Bytes :=
  reader.buffer ++ content.drop reader.offset

variable {reader : FileReader} {machine : Machine} {content : Bytes}

/-- What is ready is taken from the buffer alone. -/
theorem fills_take (content : Bytes) {count : Nat}
    (ready : (reader.buffer.take count).length = count) :
    Fills (reader.left content) count (.ok (reader.buffer.take count))
      ({ reader with buffer := reader.buffer.drop count }.left content) := by
  have fills := Fills.whole (reader.buffer.take count)
    (reader.buffer.drop count ++ content.drop reader.offset)
  rwa [ready, ← List.append_assoc, List.take_append_drop] at fills

/-- What is read from the file goes into the buffer, and nothing is lost. -/
theorem left_refill (reader : FileReader) (content : Bytes) (yielded : Nat) :
    { reader with
      offset := reader.offset + ((content.drop reader.offset).take yielded).length,
      buffer := (content.drop reader.offset).take yielded }.left content =
        content.drop reader.offset := by
  rw [left, ← List.drop_drop]
  exact List.prefix_iff_eq_append.mp (List.take_prefix yielded _)

/-- The reads that are allowed suffice: each but the first finds an empty buffer behind it, and each
but the last fills it. -/
theorem fills_fillWithin {count fuel : Nat} (enough : count ≤ fuel)
    (buffered : reader.buffer ≠ [] ∨ count < fuel) :
    ∃ answer after, machine.run (reader.fillWithin count fuel) = ((answer, after), machine) ∧
      after.handle = reader.handle ∧
      Fills (reader.left (machine.files.contentOf reader.handle)) count answer
        (after.left (machine.files.contentOf reader.handle)) := by
  generalize hcontent : machine.files.contentOf reader.handle = content
  induction fuel generalizing reader count with
  | zero =>
    obtain rfl : count = 0 := by omega
    exact ⟨_, _, rfl, rfl, .enough _⟩
  | succ fuel ih =>
    rw [fillWithin]
    by_cases hready : (reader.buffer.take count).length = count
    · rw [if_pos hready]
      exact ⟨_, _, rfl, rfl, fills_take content hready⟩
    have hshort : reader.buffer.length < count := by
      rw [List.length_take] at hready
      omega
    have hbuffer : reader.buffer.take count = reader.buffer :=
      List.take_of_length_le (Nat.le_of_lt hshort)
    rw [if_neg hready, hbuffer, Machine.run_bind, Machine.run_call, Machine.answer]
    rcases readFile_cases machine.files reader.handle reader.offset
      (by decide : 0 < bufferSize) with ⟨error, hread⟩ | ⟨yielded, hpos, hread⟩
    · rw [hread]
      exact ⟨_, _, rfl, rfl, .broken _ _ _ _⟩
    have hrefill := left_refill reader content yielded
    rw [hread, hcontent]
    cases hchunk : (content.drop reader.offset).take yielded with
    | nil =>
      have hend : content.drop reader.offset = [] := by
        rcases List.take_eq_nil_iff.mp hchunk with hzero | hnil
        · omega
        · exact hnil
      refine ⟨_, _, rfl, rfl, ?_⟩
      rw [left, left, hend, List.append_nil]
      exact .last (Nat.le_of_lt hshort)
    | cons first others =>
      rw [hchunk] at hrefill
      have allowed : count - reader.buffer.length ≤ fuel := by
        rcases buffered with hnonempty | hless
        · have hpositive := List.length_pos_iff.mpr hnonempty
          omega
        · omega
      let refilled : FileReader :=
        { reader with
          offset := reader.offset + (first :: others).length, buffer := first :: others }
      have hbuffered : refilled.buffer ≠ [] ∨ count - reader.buffer.length < fuel :=
        .inl (List.cons_ne_nil _ _)
      obtain ⟨answer, after, hrun, hhandle, fills⟩ := ih allowed hbuffered hcontent
      rw [hrefill] at fills
      refine ⟨answer.map (reader.buffer ++ ·), after, ?_, hhandle,
        .behind (Nat.le_of_lt hshort) fills⟩
      dsimp only
      rw [Machine.run_bind, hrun]
      rfl

theorem fills_fill (reader : FileReader) (count : Nat) (machine : Machine) :
    ∃ answer after, machine.run (reader.fill count) = ((answer, after), machine) ∧
      after.handle = reader.handle ∧
      Fills (reader.left (machine.files.contentOf reader.handle)) count answer
        (after.left (machine.files.contentOf reader.handle)) :=
  fills_fillWithin (Nat.le_succ count) (.inr (Nat.lt_succ_self count))

theorem drains_drain (reader : FileReader) (machine : Machine) :
    ∃ answer after, machine.run reader.drain = ((answer, after), machine) ∧
      after.handle = reader.handle ∧
      Drains (reader.left (machine.files.contentOf reader.handle)) answer
        (after.left (machine.files.contentOf reader.handle)) := by
  rw [drain, Machine.run_bind, Machine.run_call, Machine.answer]
  rcases readRest_cases machine.files reader.handle reader.offset with ⟨error, hread⟩ | hread
  · rw [hread]
    exact ⟨_, _, rfl, rfl, .broken _ _ _⟩
  rw [hread]
  refine ⟨_, _, rfl, rfl, ?_⟩
  generalize machine.files.contentOf reader.handle = content
  have hend : content.drop (reader.offset + (content.drop reader.offset).length) = [] := by
    apply List.drop_of_length_le
    rw [List.length_drop]
    omega
  rw [left, left, hend]
  exact (Fills.last (Nat.le_succ _)).drains (Nat.lt_succ_self _)

end FileReader

/-! ## Streams -/

namespace Stream

/-- What the stream has not yielded yet, if this is in the file that it reads. -/
def left (stream : Stream) (content : Bytes) : Bytes :=
  match stream with
  | .source scripted => scripted.rest
  | .reader file => file.left content
  | .sink _ | .writer _ => []

/-- A scripted source that is not at its end yields something. -/
def IsSteady (stream : Stream) : Prop :=
  ∀ scripted, stream = .source scripted → scripted.piece ≠ some 0

/-- The stream can yield what it has left, and this is in the file that it reads if it reads one. -/
structure Shows (stream : Stream) (files : FileSystem) (content : Bytes) : Prop where
  steady : stream.IsSteady
  shown : ∀ handle, stream.handle? = some handle → files.contentOf handle = content

variable {socket : SocketAddress} {stream after : Stream} {machine : Machine} {content : Bytes}

namespace Shows

variable {files : FileSystem}

theorem sink (scripted : Sink) : (Stream.sink scripted).Shows files content where
  steady := by rintro _ ⟨⟩
  shown := by rintro _ ⟨⟩

theorem writer (file : FileWriter) : (Stream.writer file).Shows files content where
  steady := by rintro _ ⟨⟩
  shown := by rintro _ ⟨⟩

theorem source {scripted : Source} (steady : scripted.piece ≠ some 0) :
    (Stream.source scripted).Shows files content where
  steady := by
    rintro _ ⟨⟩
    exact steady
  shown := by rintro _ ⟨⟩

theorem reader {file : FileReader} (shown : files.contentOf file.handle = content) :
    (Stream.reader file).Shows files content where
  steady := by rintro _ ⟨⟩
  shown := by
    rintro _ ⟨⟩
    exact shown

end Shows

/-- The stream answers the question as a source does, and can go on. -/
def Serves (socket : SocketAddress) (stream : Stream) (machine : Machine) (content : Bytes)
    (question : Question) : Prop :=
  ∃ answer after machine',
    reply socket question (stream, machine) = (answer, after, machine') ∧
      after.Shows machine'.files content ∧
      Reads (stream.left content) [⟨question, answer⟩] (after.left content)

theorem serves_fill (socket : SocketAddress) (shows : stream.Shows machine.files content)
    (count : Nat) : Serves socket stream machine content (.fill count) := by
  cases stream with
  | sink scripted =>
    exact ⟨.ok [], .sink scripted, machine, rfl, shows, .filled (.ended count) (.silent [])⟩
  | writer file =>
    exact ⟨.ok [], .writer file, machine, rfl, shows, .filled (.ended count) (.silent [])⟩
  | source scripted =>
    have steady := shows.steady scripted rfl
    refine ⟨_, _, _, reply_fill_source socket count scripted machine, .source ?_,
      .filled (scripted.fills steady (Nat.le_refl count)) (.silent _)⟩
    rw [Source.fill, Source.piece_readFully]
    exact steady
  | reader file =>
    obtain ⟨answer, after, hrun, hhandle, fills⟩ := file.fills_fill count machine
    have hcontent := shows.shown file.handle rfl
    rw [hcontent] at fills
    refine ⟨answer, .reader after, machine, ?_, .reader ?_, .filled fills (.silent _)⟩
    · rw [reply_fill_reader, hrun]
    · rw [hhandle, hcontent]

theorem serves_drain (socket : SocketAddress) (shows : stream.Shows machine.files content) :
    Serves socket stream machine content .drain := by
  cases stream with
  | sink scripted =>
    exact ⟨.ok [], .sink scripted, machine, rfl, shows, .drained .ended (.silent [])⟩
  | writer file =>
    exact ⟨.ok [], .writer file, machine, rfl, shows, .drained .ended (.silent [])⟩
  | source scripted =>
    have steady := shows.steady scripted rfl
    refine ⟨_, _, _, reply_drain_source socket scripted machine, .source ?_,
      .drained (scripted.drains steady) (.silent _)⟩
    rw [Source.drain, Source.piece_readFully]
    exact steady
  | reader file =>
    obtain ⟨answer, after, hrun, hhandle, drains⟩ := file.drains_drain machine
    have hcontent := shows.shown file.handle rfl
    rw [hcontent] at drains
    refine ⟨answer, .reader after, machine, ?_, .reader ?_, .drained drains (.silent _)⟩
    · rw [reply_drain_reader, hrun]
    · rw [hhandle, hcontent]

/-- Whatever the session asks, the stream answers it as a source does. -/
theorem serves (socket : SocketAddress) (shows : stream.Shows machine.files content)
    (question : Question) : Serves socket stream machine content question := by
  cases question with
  | send destination packet =>
    exact ⟨_, _, _, reply_send socket destination packet stream machine, shows,
      .sent destination packet _ (.silent _)⟩
  | write chunk =>
    cases stream with
    | sink scripted =>
      exact ⟨_, _, _, reply_write_sink socket chunk scripted machine, .sink _,
        .written chunk _ (.silent [])⟩
    | writer file =>
      exact ⟨_, _, _, reply_write_writer socket chunk file machine, .writer _,
        .written chunk _ (.silent [])⟩
    | source scripted => exact ⟨_, _, _, rfl, shows, .written chunk _ (.silent _)⟩
    | reader file => exact ⟨_, _, _, rfl, shows, .written chunk _ (.silent _)⟩
  | flush =>
    cases stream with
    | sink scripted =>
      exact ⟨_, _, _, reply_flush_sink socket scripted machine, .sink _, .flushed _ (.silent [])⟩
    | writer file =>
      exact ⟨_, _, _, reply_flush_writer socket file machine, .writer _, .flushed _ (.silent [])⟩
    | source scripted => exact ⟨_, _, _, rfl, shows, .flushed _ (.silent _)⟩
    | reader file => exact ⟨_, _, _, rfl, shows, .flushed _ (.silent _)⟩
  | fill count => exact serves_fill socket shows count
  | drain => exact serves_drain socket shows

theorem continues_run {Result : Type} (socket : SocketAddress) (turn : Turn Result)
    (stream : Stream) (machine : Machine) :
    stream.Continues (turn.run (reply socket) (stream, machine)).2.1 := by
  have continues := Machine.returns_of_meets (stream.converse_meets socket turn) machine
  rwa [run_converse] at continues

/-- What is said with the stream in a turn is said with a source. -/
theorem Shows.reads_transcript {Result : Type} (shows : stream.Shows machine.files content)
    (socket : SocketAddress) (turn : Turn Result) :
    (turn.run (reply socket) (stream, machine)).2.1.Shows
        (turn.run (reply socket) (stream, machine)).2.2.files content ∧
      Reads (stream.left content) (turn.transcript (reply socket) (stream, machine))
        ((turn.run (reply socket) (stream, machine)).2.1.left content) := by
  induction turn generalizing stream machine with
  | done result => exact ⟨shows, .silent _⟩
  | ask question next ih =>
    obtain ⟨answer, between, machine', hreply, hbetween, hasked⟩ := serves socket shows question
    rw [Dialogue.run, Dialogue.transcript, hreply]
    obtain ⟨hafter, hrest⟩ := ih answer hbetween
    exact ⟨hafter, Reads.append.mpr ⟨_, hasked, hrest⟩⟩

end Stream

/-! ## Histories -/

namespace Session.Chronicle

variable {socket : SocketAddress} {turn : Turn Progress} {stream : Stream} {machine : Machine}
  {incidents : List Incident} {chronicle : Chronicle} {content : Bytes}

/-- So far the stream has answered as a source does. -/
structure Reading (stream : Stream) (content : Bytes) (chronicle : Chronicle) : Prop where
  steady : chronicle.stream.IsSteady
  handle?_eq : chronicle.stream.handle? = stream.handle?
  reads : Reads (stream.left content) (saying chronicle.first chronicle.record)
    (chronicle.stream.left content)

theorem reading_started (socket : SocketAddress) (turn : Turn Progress)
    (shows : stream.Shows machine.files content) :
    (started socket turn stream machine).Reading stream content := by
  obtain ⟨hafter, reads⟩ := shows.reads_transcript socket turn
  refine ⟨hafter.steady, (Stream.continues_run socket turn stream machine).1, ?_⟩
  rw [saying_started]
  exact reads

theorem Reading.extend (reading : chronicle.Reading stream content) {incident : Incident}
    (shows : stream.Shows incident.machine.files content) (session : Session)
    (exchange : Exchange) :
    (chronicle.extend socket session exchange incident).Reading stream content := by
  have hbetween : chronicle.stream.Shows incident.machine.files content :=
    ⟨reading.steady, fun handle hhandle ↦ shows.shown handle (reading.handle?_eq ▸ hhandle)⟩
  let turn := session.react exchange incident.event incident.now
  obtain ⟨hafter, reads⟩ := hbetween.reads_transcript socket turn
  have continues := Stream.continues_run socket turn chronicle.stream incident.machine
  refine ⟨hafter.steady, continues.1.trans reading.handle?_eq, ?_⟩
  rw [saying_extend]
  exact Reads.append.mpr ⟨_, reading.reads, reads⟩

/-- A session that is led with a stream reads from a source that holds what the stream can yield. A
file that is read holds the same all the time. -/
theorem reads_lead (socket : SocketAddress) (turn : Turn Progress)
    (shows : stream.Shows machine.files content)
    (unchanged : ∀ incident ∈ incidents, stream.Shows incident.machine.files content) :
    Reads (stream.left content)
      (saying (lead socket turn stream machine incidents).first
        (lead socket turn stream machine incidents).record)
      ((lead socket turn stream machine incidents).stream.left content) := by
  have reading : (lead socket turn stream machine incidents).Reading stream content :=
    lead_of_extend (reading_started socket turn shows) fun incident hmem _ _ _ reading _ ↦
      reading.extend (unchanged incident hmem) _ _
  exact reading.reads

end Session.Chronicle

end Lockstep
