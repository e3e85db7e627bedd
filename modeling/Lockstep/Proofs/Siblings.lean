import Lockstep.Proofs.Additions
import Lockstep.Proofs.LastNames

/-!
# Numbered siblings

The numbered siblings of a path stand in the same directory and have the same extension, and no two
of them have the same name. A download tries the path and then its siblings in the order of their
numbers, each of them once. The search is over with the first file that could be made, and with the
first error that says something else than that the name is taken.
-/

namespace Lockstep

namespace Path

variable {path name : Path} {number first second : Nat}

/-! ## Names -/

/-- What a number puts behind the stem. -/
def mark (number : Nat) : Path :=
  ' ' :: '(' :: (Nat.toDigits 10 number ++ [')'])

/-- The name with the number between its stem and its extension. -/
def numberedName (name : Path) (number : Nat) : Path :=
  (splitExtension name).1 ++ mark number ++ ending (splitExtension name).2

theorem numbered_eq (h : path.fileName? = some name) (number : Nat) :
    path.numbered number = path.withFileName (numberedName name number) := by
  have stem : path.fileStem? = some (splitExtension name).1 := by rw [fileStem?, h, Option.map_some]
  have extension : path.extension? = (splitExtension name).2 := by
    rw [extension?, h, Option.bind_some]
  have marked : s!" ({number})".toList = mark number := by simp [mark, toString, Nat.toList_repr]
  unfold numbered numberedName ending
  rw [stem, extension, marked]
  cases (splitExtension name).2 <;> rfl

theorem not_mem_mark {character : Char} (h : character ∉ [' ', '(', ')'])
    (notDigit : ∀ digit < 10, character ≠ digit.digitChar) : character ∉ mark number := by
  have notNumber : character ∉ Nat.toDigits 10 number :=
    Text.not_mem_toDigits (by decide) notDigit
  simp_all [mark]

theorem mark_injective (h : mark first = mark second) : first = second := by
  have digits : Nat.toDigits 10 first = Nat.toDigits 10 second := by
    simpa [mark] using h
  calc
    first = Nat.ofDigitChars 10 (Nat.toDigits 10 first) 0 := Nat.ofDigitChars_ten_toDigits.symm
    _ = Nat.ofDigitChars 10 (Nat.toDigits 10 second) 0 := by rw [digits]
    _ = second := Nat.ofDigitChars_ten_toDigits

/-- The number belongs to the stem. -/
theorem splitExtension_numberedName (name : Path) (number : Nat) :
    splitExtension (numberedName name number) =
      ((splitExtension name).1 ++ mark number, (splitExtension name).2) := by
  have dotless : '.' ∉ mark number := not_mem_mark (by decide) (by decide)
  exact ((divides_splitExtension name).1.append dotless).splitExtension_append

theorem numberedName_injective (h : numberedName name first = numberedName name second) :
    first = second := by
  have stems := congrArg (fun name ↦ (splitExtension name).1) h
  simp only [splitExtension_numberedName] at stems
  exact mark_injective (List.append_cancel_left stems)

theorem numberedName_ne (name : Path) (number : Nat) : numberedName name number ≠ name := by
  intro h
  have stems := congrArg (fun name ↦ (splitExtension name).1) h
  simp only [splitExtension_numberedName] at stems
  exact absurd (List.append_right_eq_self.mp stems) (List.cons_ne_nil _ _)

theorem isName_numberedName (h : name.IsName) (number : Nat) :
    (numberedName name number).IsName := by
  have blank : ' ' ∈ numberedName name number := by simp [numberedName, mark]
  have other {step : Path} (solid : ' ' ∉ step) : numberedName name number ≠ step :=
    fun same ↦ solid (same ▸ blank)
  have unmarked : '/' ∉ mark number := not_mem_mark (by decide) (by decide)
  have within : ∀ character ∈ (splitExtension name).1 ++ ending (splitExtension name).2,
      character ∈ name := fun character mem ↦ (divides_splitExtension name).2 ▸ mem
  refine ⟨other (by decide), fun slash ↦ ?_, other (by decide), other (by decide)⟩
  simp only [numberedName, List.mem_append] at slash within
  rcases slash with (slash | slash) | slash
  · exact h.slash_free (within _ (.inl slash))
  · exact unmarked slash
  · exact h.slash_free (within _ (.inr slash))

/-! ## Siblings -/

/-- The other path leads to something else in the same directory, with the same extension. -/
structure IsSibling (path other : Path) : Prop where
  parent : other.parent? = path.parent?
  extension : other.extension? = path.extension?
  /-- The last names are not the same, however the two paths are written. -/
  name : ∃ name, other.fileName? = some name ∧ path.fileName? ≠ some name

theorem fileName?_numbered (h : path.fileName? = some name) (number : Nat) :
    (path.numbered number).fileName? = some (numberedName name number) := by
  rw [numbered_eq h, fileName?_withFileName h (isName_numberedName (isName_of_fileName? h) number)]

theorem isSibling_numbered (h : path.fileName? = some name) (number : Nat) :
    path.IsSibling (path.numbered number) where
  parent := by
    rw [numbered_eq h, parent?_withFileName h (isName_numberedName (isName_of_fileName? h) number)]
  extension := by
    rw [extension?, extension?, fileName?_numbered h, h, Option.bind_some, Option.bind_some,
      splitExtension_numberedName]
  name := by
    refine ⟨_, fileName?_numbered h number, ?_⟩
    rw [h, Ne, Option.some.injEq]
    exact (numberedName_ne name number).symm

theorem eq_of_fileName?_numbered (h : path.fileName? = some name)
    (same : (path.numbered first).fileName? = (path.numbered second).fileName?) :
    first = second := by
  rw [fileName?_numbered h, fileName?_numbered h, Option.some.injEq] at same
  exact numberedName_injective same

theorem candidate_injective (h : path.fileName? = some name) :
    Function.Injective path.candidate := by
  have other (number : Nat) : path.numbered number ≠ path := by
    intro same
    obtain ⟨sibling, found, different⟩ := (isSibling_numbered h number).name
    rw [same] at found
    exact different found
  intro first second same
  cases first with
  | zero =>
    cases second with
    | zero => rfl
    | succ second => exact absurd same.symm (other _)
  | succ first =>
    cases second with
    | zero => exact absurd same (other _)
    | succ second => exact eq_of_fileName?_numbered h (congrArg fileName? same)

end Path

namespace LocalFile

variable {path : Path} {first attempts : Nat} {talk : List (Sigma Call.Reply)}
  {result : Except SystemError (FileId × Path)}

/-! ## The search -/

/-- The call that tries the candidate with this number, and its answer. -/
def trial (path : Path) (number : Nat) (answer : Except SystemError FileId) : Sigma Call.Reply :=
  ⟨.createFile (path.candidate number), answer⟩

/-- The calls of a search that began with number `first` and has been answered like this. -/
def trials (path : Path) (first : Nat) (answers : List (Except SystemError FileId)) :
    List (Sigma Call.Reply) :=
  answers.mapIdx fun place answer ↦ trial path (first + place) answer

theorem trials_cons (path : Path) (first : Nat) (answer : Except SystemError FileId)
    (rest : List (Except SystemError FileId)) :
    trials path first (answer :: rest) =
      trial path first answer :: trials path (first + 1) rest := by
  have shift : (fun place ↦ trial path (first + (place + 1))) =
      fun place ↦ trial path (first + 1 + place) := by
    funext place
    rw [Nat.add_right_comm, Nat.add_assoc]
  rw [trials, List.mapIdx_cons, shift]
  rfl

/-- The names of so many candidates were taken. -/
def AreTaken (refusals : List SystemError) : Prop :=
  ∀ error ∈ refusals, error.kind = .alreadyExists

theorem AreTaken.nil : AreTaken [] :=
  fun _ h ↦ absurd h List.not_mem_nil

theorem AreTaken.cons {refusals : List SystemError} {error : SystemError} (h : AreTaken refusals)
    (taken : error.kind = .alreadyExists) : AreTaken (error :: refusals) :=
  List.forall_mem_cons.mpr ⟨taken, h⟩

/-- What a search comes to that may try so many candidates from number `first` on. -/
inductive Concludes (path : Path) (first attempts : Nat) :
    List (Except SystemError FileId) → Except SystemError (FileId × Path) → Prop
  /-- A file is made under the first name that is not taken. -/
  | makes {refusals : List SystemError} (taken : AreTaken refusals)
      (lt : refusals.length < attempts) (file : FileId) :
    Concludes path first attempts (refusals.map .error ++ [.ok file])
      (.ok (file, path.candidate (first + refusals.length)))
  /-- It is not taken, and yet no file can be made. -/
  | fails {refusals : List SystemError} (taken : AreTaken refusals)
      (lt : refusals.length < attempts) {error : SystemError}
      (other : error.kind ≠ .alreadyExists) :
    Concludes path first attempts (refusals.map .error ++ [.error error]) (.error error)
  /-- All names are taken. -/
  | exhausts {refusals : List SystemError} (taken : AreTaken refusals)
      (all : refusals.length = attempts) :
    Concludes path first attempts (refusals.map .error) (.error (noFreeName path))

/-- One more name before the others was taken. -/
theorem Concludes.cons {answers : List (Except SystemError FileId)} {error : SystemError}
    (h : Concludes path (first + 1) attempts answers result) (taken : error.kind = .alreadyExists) :
    Concludes path first (attempts + 1) (.error error :: answers) result := by
  cases h with
  | @makes refusals others lt file =>
    rw [Nat.add_right_comm, Nat.add_assoc, ← List.length_cons]
    exact .makes (others.cons taken) (Nat.succ_lt_succ lt) file
  | fails others lt other => exact .fails (others.cons taken) (Nat.succ_lt_succ lt) other
  | exhausts others all => exact .exhausts (others.cons taken) (congrArg Nat.succ all)

/-- However its calls are answered, a search comes to this. -/
theorem concludes_createFrom
    (leads : (createFrom path (path.candidate first) (first + 1) attempts).Leads talk result) :
    ∃ answers, talk = trials path first answers ∧ Concludes path first attempts answers result := by
  induction attempts generalizing first talk with
  | zero =>
    obtain ⟨rfl, rfl⟩ := Dialogue.leads_done_iff.mp leads
    exact ⟨[], rfl, .exhausts .nil rfl⟩
  | succ attempts ih =>
    unfold createFrom at leads
    obtain ⟨asked, answer, rest, rfl, question, continued⟩ := Dialogue.leads_bind_iff.mp leads
    obtain rfl := Dialogue.leads_question_iff.mp question
    cases answer with
    | ok file =>
      obtain ⟨rfl, rfl⟩ := Dialogue.leads_done_iff.mp continued
      refine ⟨[.ok file], (trials_cons path first _ []).symm, ?_⟩
      exact .makes .nil (Nat.succ_pos _) file
    | error error =>
      dsimp only at continued
      split at continued
      · next taken =>
        have continued : (createFrom path (path.candidate (first + 1)) (first + 1 + 1)
            attempts).Leads rest result := continued
        obtain ⟨answers, rfl, concludes⟩ := ih continued
        exact ⟨.error error :: answers, (trials_cons path first _ answers).symm,
          concludes.cons taken⟩
      · next other =>
        obtain ⟨rfl, rfl⟩ := Dialogue.leads_done_iff.mp continued
        refine ⟨[.error error], (trials_cons path first _ []).symm, ?_⟩
        exact .fails .nil (Nat.succ_pos _) other

/-- No candidate is tried twice. -/
theorem pairwise_trials (h : Function.Injective path.candidate) (first : Nat)
    (answers : List (Except SystemError FileId)) :
    (trials path first answers).Pairwise fun earlier later ↦ earlier.1 ≠ later.1 := by
  rw [List.pairwise_iff_getElem]
  intro earlier later hearlier hlater hlt same
  simp only [trials, trial, List.getElem_mapIdx, Call.createFile.injEq] at same
  have := h same
  omega

theorem concludes_create (leads : (create path).Leads talk result) :
    ∃ answers, talk = trials path 0 answers ∧ Concludes path 0 maxAttempts answers result :=
  have leads : (createFrom path (path.candidate 0) (0 + 1) maxAttempts).Leads talk result := leads
  concludes_createFrom leads

/-- A search for a free name tries nothing but the path and its siblings, each of them once. -/
structure SearchesSiblings (path : Path) : Prop where
  sibling : ∀ number, path.IsSibling (path.numbered number)
  distinct : ∀ first second,
    (path.numbered first).fileName? = (path.numbered second).fileName? → first = second
  /-- However it is answered, it tries the candidates in their order until it is told something else
  than that the name is taken. -/
  concludes : ∀ talk result, (create path).Leads talk result →
    ∃ answers, talk = trials path 0 answers ∧ Concludes path 0 maxAttempts answers result
  once : ∀ talk result, (create path).Leads talk result →
    talk.Pairwise fun earlier later ↦ earlier.1 ≠ later.1

theorem searchesSiblings {name : Path} (named : path.fileName? = some name) :
    SearchesSiblings path where
  sibling := Path.isSibling_numbered named
  distinct _ _ := Path.eq_of_fileName?_numbered named
  concludes _ _ := concludes_create
  once talk result leads := by
    obtain ⟨answers, rfl, -⟩ := concludes_create leads
    exact pairwise_trials (Path.candidate_injective named) 0 answers

/-- The name begins with a dot and looks as if it had a number already. -/
theorem searchesSiblings_hidden :
    (Path.ofText "boot//./.image (1).tar.gz/.").fileName? = some (Path.ofText ".image (1).tar.gz") ∧
      SearchesSiblings (Path.ofText "boot//./.image (1).tar.gz/.") := by
  have named : (Path.ofText "boot//./.image (1).tar.gz/.").fileName? =
      some (Path.ofText ".image (1).tar.gz") := by decide
  exact ⟨named, searchesSiblings named⟩

example : (Path.ofText "boot//./.image (1).tar.gz/.").numbered 2 =
    Path.ofText "boot/.image (1).tar (2).gz" := by decide

end LocalFile

end Lockstep
