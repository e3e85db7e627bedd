import Lockstep.FileSystem.Changes
import Lockstep.Proofs.Execution
import Lockstep.Proofs.FileTable

/-!
# Numbers of files

A new file gets a number that stands nowhere in the tree and under which nothing is stored, as long
as all numbers in use are below the next one. An empty file system is like that, so are those that
are laid out by hand, and no program can change it.
-/

namespace Lockstep

namespace FileSystem

variable {system : FileSystem}

/-- All numbers of files that are in use are below the next one. -/
structure Sound (system : FileSystem) : Prop where
  nodes : ∀ location id, system.labelAt? location = some (.file id) → id < system.nextId
  files : ∀ id, (system.file? id).isSome → id < system.nextId

namespace Sound

theorem file?_nextId (h : system.Sound) : system.file? system.nextId = none := by
  cases hfile : system.file? system.nextId with
  | none => rfl
  | some file => exact absurd (h.files _ (by rw [hfile]; rfl)) (Nat.lt_irrefl _)

theorem empty : ({} : FileSystem).Sound := by
  constructor
  · intro location id hlabel
    cases location with
    | nil => cases hlabel
    | cons name rest => cases hlabel
  · intro id hsome
    cases hsome

theorem of_sameBut {after : FileSystem} {id : FileId} (h : system.Sound)
    (same : system.SameBut after id) : after.Sound := by
  constructor
  · intro location other hlabel
    rw [same.nextId]
    rw [same.labelAt?] at hlabel
    exact h.nodes location other hlabel
  · intro other hsome
    rw [same.nextId]
    by_cases hother : other = id
    · subst hother
      rw [same.isSome] at hsome
      exact h.files _ hsome
    · rw [same.others other hother] at hsome
      exact h.files other hsome

/-! ## Changes of the tree -/

theorem setNode (h : system.Sound) (location : Location) {new : Node}
    (added : ∀ below id, (new.at? below).map Node.label = some (.file id) → id < system.nextId) :
    (system.setNode location new).Sound where
  nodes place id hlabel := by
    rcases Node.file_of_put hlabel with ⟨old, hold⟩ | ⟨below, hbelow⟩
    · exact h.nodes old id hold
    · exact added below id hbelow
  files := h.files

theorem addFile (h : system.Sound) (location : Location) (file : StoredFile) :
    (system.addFile location file).1.Sound := by
  have hgrown : Sound { system with
      files := (system.nextId, file) :: system.files, nextId := system.nextId + 1 } := by
    constructor
    · intro place id hlabel
      apply Nat.lt_succ_of_lt
      exact h.nodes place id hlabel
    · intro id hsome
      change ((system.addFile location file).1.file? id).isSome at hsome
      rw [file?_addFile] at hsome
      split at hsome
      · next hid => exact hid ▸ Nat.lt_succ_self _
      · exact Nat.lt_succ_of_lt (h.files id hsome)
  apply hgrown.setNode
  intro below id hbelow
  cases below with
  | nil =>
    cases hbelow
    exact Nat.lt_succ_self _
  | cons name rest => cases hbelow

theorem removeNode (h : system.Sound) (location : Location) :
    (system.removeNode location).Sound where
  nodes place id hlabel := by
    obtain ⟨old, hold⟩ := Node.file_of_remove hlabel
    exact h.nodes old id hold
  files := h.files

/-- Whatever is put anywhere by hand. -/
theorem install (h : system.Sound) (location : Location) (fixture : Fixture) :
    (system.install location fixture).Sound := by
  cases fixture with
  | file contents isDenied brokenFrom => exact h.addFile location _
  | link target =>
    apply h.setNode
    intro below id hbelow
    cases below <;> cases hbelow
  | directory isSearchable isWritable =>
    apply h.setNode
    intro below id hbelow
    cases below with
    | nil => cases hbelow
    | cons name rest =>
      cases hnode : system.node? location with
      | none =>
        rw [hnode] at hbelow
        cases hbelow
      | some node =>
        rw [hnode] at hbelow
        apply h.nodes (location ++ name :: rest) id
        rw [FileSystem.labelAt?, node?_append, hnode, Option.bind_some, Node.at?_cons]
        rw [Node.at?_cons] at hbelow
        exact hbelow

/-! ## Calls -/

theorem createFile (h : system.Sound) {path : Path} {result : FileSystem × FileId}
    (hcreate : system.createFile path = .ok result) : result.1.Sound := by
  obtain ⟨place, rfl⟩ := exists_eq_addFile hcreate
  exact h.addFile place _

theorem removeFile (h : system.Sound) {path : Path} {after : FileSystem}
    (hremove : system.removeFile path = .ok after) : after.Sound := by
  obtain ⟨place, rfl⟩ := exists_eq_removeNode hremove
  exact h.removeNode place

theorem makeDirectory (h : system.Sound) {path : Path} {after : FileSystem}
    (hmake : system.makeDirectory path = .ok after) : after.Sound := by
  obtain ⟨place, rfl⟩ := exists_eq_setNode hmake
  apply h.setNode
  intro below id hbelow
  cases below <;> cases hbelow

theorem makeDirectories (h : system.Sound) (levels : Nat) (path : Path) :
    (system.makeDirectories levels path).2.Sound :=
  keeps_makeDirectories (fun before after ↦ before.Sound → after.Sound) (fun _ ↦ id)
    (fun first second ↦ second ∘ first) (fun made before ↦ before.makeDirectory made) system levels
    path h

end Sound

end FileSystem

/-! ## Programs -/

namespace Machine

open FileSystem

theorem sound_answer (call : Call) {machine : Machine} (h : machine.files.Sound) :
    (machine.answer call).2.files.Sound := by
  cases call with
  | bind address => exact h
  | close socket => exact h
  | send socket destination packet => exact h
  | canonicalize path => exact h
  | isRegularFile path => exact h
  | openFile path => exact h
  | readFile handle offset count => exact h
  | readRest handle offset => exact h
  | createFile path =>
    cases hcreate : machine.files.createFile path with
    | error error =>
      rw [answer, hcreate]
      exact h
    | ok result =>
      rw [answer, hcreate]
      exact h.createFile hcreate
  | removeFile path =>
    cases hremove : machine.files.removeFile path with
    | error error =>
      rw [answer, hremove]
      exact h
    | ok after =>
      rw [answer, hremove]
      exact h.removeFile hremove
  | makeDirectories path => exact h.makeDirectories _ path
  | appendFile id bytes => exact h.of_sameBut (.appendFile _ _ _)
  | closeFile id => exact h.of_sameBut (.closeFile _ _)

/-- No program puts a number into use that is not below the next one. -/
theorem sound_run {Result : Type} (program : Program Result) {machine : Machine}
    (h : machine.files.Sound) : (machine.run program).2.files.Sound := by
  induction program generalizing machine with
  | done result => exact h
  | ask call next ih => exact ih _ (sound_answer call h)

end Machine

end Lockstep
