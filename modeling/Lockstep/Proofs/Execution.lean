import Lockstep.Activity

/-!
# Running programs on machines

How a program that is put together from smaller ones runs, and which calls it makes on the way. A
log keeps every call with the machine that the call found, so a statement about what stands on the
disk when a datagram leaves is one about the members of a log. The conversation of a session with
its stream is opened question by question.
-/

namespace Lockstep

namespace Dialogue

variable {Question : Type} {Answer : Question → Type} {First Second : Type}

/-- Whatever the answers are, only questions of one kind are asked, and the result is of one
kind. -/
def Meets (asks : Question → Prop) (returns : First → Prop) :
    Dialogue Question Answer First → Prop
  | .done result => returns result
  | .ask question next => asks question ∧ ∀ answer, (next answer).Meets asks returns

/-- As long as the answers are as given, all questions are as asked and so is the result. -/
def MeetsIf (given : (question : Question) → Answer question → Prop) (asks : Question → Prop)
    (returns : First → Prop) : Dialogue Question Answer First → Prop
  | .done result => returns result
  | .ask question next =>
    asks question ∧ ∀ answer, given question answer → (next answer).MeetsIf given asks returns

variable {given : (question : Question) → Answer question → Prop} {asks : Question → Prop}

theorem meetsIf_question {question : Question} (h : asks question) :
    (Dialogue.question question : Dialogue Question Answer _).MeetsIf given asks
      (given question) :=
  ⟨h, fun _ hgiven ↦ hgiven⟩

theorem MeetsIf.bind {dialogue : Dialogue Question Answer First} {middle : First → Prop}
    {next : First → Dialogue Question Answer Second} {returns : Second → Prop}
    (h : dialogue.MeetsIf given asks middle)
    (hnext : ∀ first, middle first → (next first).MeetsIf given asks returns) :
    (dialogue >>= next).MeetsIf given asks returns := by
  change (dialogue.andThen next).MeetsIf given asks returns
  induction dialogue with
  | done result => exact hnext result h
  | ask question rest ih => exact ⟨h.1, fun answer hgiven ↦ ih answer (h.2 answer hgiven)⟩

theorem Meets.meetsIf {dialogue : Dialogue Question Answer First} {returns : First → Prop}
    (h : dialogue.Meets asks returns) : dialogue.MeetsIf given asks returns := by
  induction dialogue with
  | done result => exact h
  | ask question rest ih => exact ⟨h.1, fun answer _ ↦ ih answer (h.2 answer)⟩

/-- If any answer will do, nothing needs to be known of the answers. -/
theorem MeetsIf.meets {dialogue : Dialogue Question Answer First} {returns : First → Prop}
    (h : dialogue.MeetsIf given asks returns) (any : ∀ question answer, given question answer) :
    dialogue.Meets asks returns := by
  induction dialogue with
  | done result => exact h
  | ask question rest ih => exact ⟨h.1, fun answer ↦ ih answer (h.2 answer (any question answer))⟩

theorem MeetsIf.and {dialogue : Dialogue Question Answer First} {asks' : Question → Prop}
    {returns returns' : First → Prop} (h : dialogue.MeetsIf given asks returns)
    (h' : dialogue.MeetsIf given asks' returns') :
    dialogue.MeetsIf given (fun question ↦ asks question ∧ asks' question) fun result ↦
      returns result ∧ returns' result := by
  induction dialogue with
  | done result => exact ⟨h, h'⟩
  | ask question rest ih =>
    exact ⟨⟨h.1, h'.1⟩, fun answer hgiven ↦ ih answer (h.2 answer hgiven) (h'.2 answer hgiven)⟩

theorem MeetsIf.mono {dialogue : Dialogue Question Answer First} {asks' : Question → Prop}
    {returns returns' : First → Prop} (h : dialogue.MeetsIf given asks returns)
    (hasks : ∀ question, asks question → asks' question)
    (hreturns : ∀ result, returns result → returns' result) :
    dialogue.MeetsIf given asks' returns' := by
  induction dialogue with
  | done result => exact hreturns result h
  | ask question rest ih =>
    exact ⟨hasks question h.1, fun answer hgiven ↦ ih answer (h.2 answer hgiven)⟩

theorem meets_pure {returns : First → Prop} {result : First} (h : returns result) :
    (pure result : Dialogue Question Answer First).Meets asks returns := h

theorem meets_question {question : Question} (h : asks question) :
    (Dialogue.question question : Dialogue Question Answer _).Meets asks fun _ ↦ True :=
  ⟨h, fun _ ↦ trivial⟩

theorem Meets.bind {dialogue : Dialogue Question Answer First} {middle : First → Prop}
    {next : First → Dialogue Question Answer Second} {returns : Second → Prop}
    (h : dialogue.Meets asks middle) (hnext : ∀ first, middle first → (next first).Meets asks returns) :
    (dialogue >>= next).Meets asks returns := by
  have any : dialogue.MeetsIf (fun _ _ ↦ True) asks middle := h.meetsIf
  exact (any.bind fun first hfirst ↦ (hnext first hfirst).meetsIf).meets fun _ _ ↦ trivial

theorem Meets.mono {dialogue : Dialogue Question Answer First} {returns : First → Prop}
    (h : dialogue.Meets asks returns) {asks' : Question → Prop}
    (hasks : ∀ question, asks question → asks' question) {returns' : First → Prop}
    (hreturns : ∀ result, returns result → returns' result) : dialogue.Meets asks' returns' := by
  have any : dialogue.MeetsIf (fun _ _ ↦ True) asks returns := h.meetsIf
  exact (any.mono hasks hreturns).meets fun _ _ ↦ trivial

theorem Meets.and {dialogue : Dialogue Question Answer First} {asks' : Question → Prop}
    {returns returns' : First → Prop} (h : dialogue.Meets asks returns)
    (h' : dialogue.Meets asks' returns') :
    dialogue.Meets (fun question ↦ asks question ∧ asks' question) fun result ↦
      returns result ∧ returns' result := by
  have any : dialogue.MeetsIf (fun _ _ ↦ True) asks returns := h.meetsIf
  exact (any.and h'.meetsIf).meets fun _ _ ↦ trivial

/-- The questions of a dialogue, each with the state that it finds. -/
def trace {State : Type} (answer : (question : Question) → State → Answer question × State) :
    Dialogue Question Answer First → State → List (State × Question)
  | .done _, _ => []
  | .ask question rest, state =>
    (state, question) ::
      (rest (answer question state).1).trace answer (answer question state).2

theorem trace_andThen {State : Type}
    (answer : (question : Question) → State → Answer question × State)
    (dialogue : Dialogue Question Answer First) (next : First → Dialogue Question Answer Second)
    (state : State) :
    (dialogue.andThen next).trace answer state =
      dialogue.trace answer state ++
        (next (dialogue.run answer state).1).trace answer (dialogue.run answer state).2 := by
  induction dialogue generalizing state with
  | done result => rfl
  | ask question rest ih =>
    simp only [andThen, trace, ih, List.cons_append]
    rfl

/-- Who answers as given is asked only such questions, and comes to such a result. -/
theorem MeetsIf.trace {State : Type}
    {answer : (question : Question) → State → Answer question × State}
    (honest : ∀ question state, given question (answer question state).1)
    {dialogue : Dialogue Question Answer First} {returns : First → Prop}
    (h : dialogue.MeetsIf given asks returns) (state : State) :
    (∀ entry ∈ dialogue.trace answer state, asks entry.2) ∧
      returns (dialogue.run answer state).1 := by
  induction dialogue generalizing state with
  | done result => exact ⟨fun _ hmem ↦ absurd hmem List.not_mem_nil, h⟩
  | ask question rest ih =>
    have hrest := ih (answer question state).1 (h.2 _ (honest question state))
      (answer question state).2
    exact ⟨List.forall_mem_cons.mpr ⟨h.1, hrest.1⟩, hrest.2⟩

/-- Whoever answers is asked only such questions. -/
theorem Meets.trace {returns : First → Prop} {State : Type}
    {dialogue : Dialogue Question Answer First} (h : dialogue.Meets asks returns)
    (answer : (question : Question) → State → Answer question × State) (state : State) :
    ∀ entry ∈ dialogue.trace answer state, asks entry.2 := by
  have any : dialogue.MeetsIf (fun _ _ ↦ True) asks returns := h.meetsIf
  exact (any.trace (fun _ _ ↦ trivial) state).1

/-- Whoever answers, the result is of the kind that a dialogue comes to. -/
theorem Meets.returns_of_run {returns : First → Prop} {State : Type}
    {dialogue : Dialogue Question Answer First} (h : dialogue.Meets asks returns)
    (answer : (question : Question) → State → Answer question × State) (state : State) :
    returns (dialogue.run answer state).1 := by
  have any : dialogue.MeetsIf (fun _ _ ↦ True) asks returns := h.meetsIf
  exact (any.trace (fun _ _ ↦ trivial) state).2

end Dialogue

namespace Machine

variable {First Second Result : Type}

@[simp]
theorem run_call (machine : Machine) (call : Call) :
    machine.run (Program.call call) = machine.answer call := rfl

@[simp]
theorem run_bind (machine : Machine) (program : Program First) (next : First → Program Second) :
    machine.run (program >>= next) =
      (machine.run program).2.run (next (machine.run program).1) :=
  Dialogue.run_andThen answer program next machine

@[simp]
theorem answer_canonicalize (machine : Machine) (path : Path) :
    machine.answer (.canonicalize path) = (machine.files.canonicalize path, machine) := rfl

@[simp]
theorem answer_isRegularFile (machine : Machine) (path : Path) :
    machine.answer (.isRegularFile path) = (machine.files.isRegularFile path, machine) := rfl

@[simp]
theorem answer_openFile (machine : Machine) (path : Path) :
    machine.answer (.openFile path) = (machine.files.openFile path, machine) := rfl

/-- The calls that a program makes, each with the machine that it finds. -/
def log (machine : Machine) (program : Program Result) : List (Machine × Call) :=
  program.trace answer machine

@[simp]
theorem log_pure (machine : Machine) (result : Result) : machine.log (pure result) = [] := rfl

@[simp]
theorem log_call (machine : Machine) (call : Call) :
    machine.log (Program.call call) = [(machine, call)] := rfl

@[simp]
theorem log_bind (machine : Machine) (program : Program First) (next : First → Program Second) :
    machine.log (program >>= next) =
      machine.log program ++ (machine.run program).2.log (next (machine.run program).1) :=
  Dialogue.trace_andThen answer program next machine

/-- A log holds only calls that the program may make. -/
theorem log_of_meets {program : Program Result} {asks : Call → Prop} {returns : Result → Prop}
    (h : program.Meets asks returns) {machine : Machine} {entry : Machine × Call}
    (hentry : entry ∈ machine.log program) : asks entry.2 :=
  h.trace answer machine entry hentry

/-- What every call of a program leaves as it is, the program leaves as it is. -/
theorem run_of_meets {program : Program Result} {asks : Call → Prop} {returns : Result → Prop}
    (h : program.Meets asks returns) (Keeps : Machine → Machine → Prop)
    (refl : ∀ machine, Keeps machine machine)
    (trans : ∀ {first second third}, Keeps first second → Keeps second third → Keeps first third)
    (call : ∀ call machine, asks call → Keeps machine (machine.answer call).2) (machine : Machine) :
    Keeps machine (machine.run program).2 := by
  induction program generalizing machine with
  | done result => exact refl machine
  | ask question next ih =>
    have hnext := ih (machine.answer question).1 (h.2 _) (machine.answer question).2
    exact trans (call question machine h.1) hnext

theorem returns_of_meets {program : Program Result} {asks : Call → Prop} {returns : Result → Prop}
    (h : program.Meets asks returns) (machine : Machine) : returns (machine.run program).1 :=
  h.returns_of_run answer machine

end Machine

/-! ## Conversations -/

namespace Stream

/-- The answer of a stream and a machine to a question of the session at `socket`. -/
def reply (socket : SocketAddress) (question : Session.Question) (state : Stream × Machine) :
    Session.Answer question × Stream × Machine :=
  let answered := state.2.run (state.1.answer socket question)
  (answered.1.1, answered.1.2, answered.2)

/-- A conversation is the dialogue with the stream and the machine together. -/
theorem run_converse {Result : Type} (socket : SocketAddress) (turn : Session.Turn Result)
    (stream : Stream) (machine : Machine) :
    machine.run (stream.converse socket turn) =
      (((turn.run (reply socket) (stream, machine)).1,
        (turn.run (reply socket) (stream, machine)).2.1),
        (turn.run (reply socket) (stream, machine)).2.2) := by
  induction turn generalizing stream machine with
  | done result => rfl
  | ask question next ih =>
    rw [converse, Machine.run_bind, ih]
    rfl

@[simp]
theorem reply_send (socket destination : SocketAddress) (packet : Bytes) (stream : Stream)
    (machine : Machine) :
    reply socket (.send destination packet) (stream, machine) =
      ((machine.network.send machine.now socket destination packet).1, stream,
        { machine with
          network := (machine.network.send machine.now socket destination packet).2 }) := rfl

@[simp]
theorem reply_write_writer (socket : SocketAddress) (chunk : Bytes) (writer : FileWriter)
    (machine : Machine) :
    reply socket (.write chunk) (.writer writer, machine) =
      ((machine.run (writer.write chunk)).1.1, .writer (machine.run (writer.write chunk)).1.2,
        (machine.run (writer.write chunk)).2) := by
  unfold reply answer
  rw [Machine.run_bind]
  rfl

@[simp]
theorem reply_flush_writer (socket : SocketAddress) (writer : FileWriter) (machine : Machine) :
    reply socket .flush (.writer writer, machine) =
      ((machine.run writer.empty).1.1, .writer (machine.run writer.empty).1.2,
        (machine.run writer.empty).2) := by
  unfold reply answer
  rw [Machine.run_bind]
  rfl

@[simp]
theorem reply_write_sink (socket : SocketAddress) (chunk : Bytes) (sink : Sink)
    (machine : Machine) :
    reply socket (.write chunk) (.sink sink, machine) =
      ((sink.write chunk).1, .sink (sink.write chunk).2, machine) := rfl

@[simp]
theorem reply_flush_sink (socket : SocketAddress) (sink : Sink) (machine : Machine) :
    reply socket .flush (.sink sink, machine) = (sink.flush.1, .sink sink.flush.2, machine) := rfl

@[simp]
theorem reply_fill_source (socket : SocketAddress) (count : Nat) (source : Source)
    (machine : Machine) :
    reply socket (.fill count) (.source source, machine) =
      ((source.fill count).1, .source (source.fill count).2, machine) := rfl

@[simp]
theorem reply_drain_source (socket : SocketAddress) (source : Source) (machine : Machine) :
    reply socket .drain (.source source, machine) =
      (source.drain.1, .source source.drain.2, machine) := rfl

@[simp]
theorem reply_fill_reader (socket : SocketAddress) (count : Nat) (reader : FileReader)
    (machine : Machine) :
    reply socket (.fill count) (.reader reader, machine) =
      ((machine.run (reader.fill count)).1.1, .reader (machine.run (reader.fill count)).1.2,
        (machine.run (reader.fill count)).2) := by
  unfold reply answer
  rw [Machine.run_bind]
  rfl

@[simp]
theorem reply_drain_reader (socket : SocketAddress) (reader : FileReader) (machine : Machine) :
    reply socket .drain (.reader reader, machine) =
      ((machine.run reader.drain).1.1, .reader (machine.run reader.drain).1.2,
        (machine.run reader.drain).2) := by
  unfold reply answer
  rw [Machine.run_bind]
  rfl

end Stream

namespace Session.Progress

/-- What a transfer has become when its session has come this far. -/
def course (socket : SocketAddress) (since : Nat) (stream : Stream) : Progress → Course
  | .waiting session exchange => .running { socket, stream, session, exchange, since }
  | .ended session result => .ended session stream result

end Session.Progress

namespace Transfer

theorem run_takeTurn (socket : SocketAddress) (stream : Stream)
    (turn : Session.Turn Session.Progress) (since : Nat) (machine : Machine) :
    machine.run (takeTurn socket stream turn since) =
      ((turn.run (Stream.reply socket) (stream, machine)).1.course socket since
          (turn.run (Stream.reply socket) (stream, machine)).2.1,
        (turn.run (Stream.reply socket) (stream, machine)).2.2) := by
  rw [takeTurn, Machine.run_bind, Stream.run_converse]
  rcases (turn.run (Stream.reply socket) (stream, machine)).1 with _ | _ <;> rfl

/-- Turns that come to the same have the transfer go on in the same way. -/
theorem run_takeTurn_congr {stream stream' : Stream} {turn turn' : Session.Turn Session.Progress}
    {socket : SocketAddress} {machine : Machine}
    (h : turn.run (Stream.reply socket) (stream, machine) =
      turn'.run (Stream.reply socket) (stream', machine)) (since : Nat) :
    machine.run (takeTurn socket stream turn since) =
      machine.run (takeTurn socket stream' turn' since) := by
  rw [run_takeTurn, run_takeTurn, h]

/-- An event as it reaches the session: a datagram is cut to what the session takes of it. -/
def received : Session.Event → Session.Event
  | .arrival source datagram => .arrival source (datagram.take sessionBuffer)
  | event => event

theorem run_react (transfer : Transfer) (event : Session.Event) (now since : Nat)
    (machine : Machine) :
    machine.run (transfer.react event now since) =
      machine.run (takeTurn transfer.socket transfer.stream
        (transfer.session.react transfer.exchange (received event) now) since) := by
  cases event <;> rfl

end Transfer

namespace Network

/-- A send fails and uses up a fault, or the datagram is the last one to leave. -/
theorem send_cases (network : Network) (now : Nat) (socket destination : SocketAddress)
    (payload : Bytes) :
    (∃ error faults,
      network.send now socket destination payload = (.error error, { network with faults })) ∨
    network.send now socket destination payload =
      (.ok (), { network with
        outbox := network.outbox ++ [⟨now, socket.sourceFor destination, destination, payload⟩] }) := by
  unfold send
  split
  · exact .inl ⟨_, _, rfl⟩
  · split
    · exact .inl ⟨_, network.faults, rfl⟩
    · split
      · exact .inl ⟨_, network.faults, rfl⟩
      · exact .inr rfl

/-- Nothing keeps a datagram between the two sockets from leaving. -/
theorem send_of_clear {network : Network} {now : Nat} {socket destination : SocketAddress}
    {payload : Bytes} (hfaults : network.faults = [])
    (hfamily : socket.ip.family = destination.ip.family)
    (hlength : payload.length ≤ maxDatagramSize) :
    network.send now socket destination payload =
      (.ok (), { network with
        outbox := network.outbox ++ [⟨now, socket.sourceFor destination, destination, payload⟩] }) := by
  simp only [send, hfaults, takeFault?, hfamily, ne_eq, not_true_eq_false, if_false, gt_iff_lt,
    Nat.not_lt.mpr hlength]

end Network

end Lockstep
