import Lockstep.Client.LocalFile
import Lockstep.Proofs.Refusals
import Lockstep.Proofs.Vacancies

/-!
# Files that are made and taken away again

A file is made under the first of several names that is free. As long as nobody does anything else, all
that was there before is there and is as it was, and when the file is taken away again nothing is left
of it.
-/

namespace Lockstep

open Dialogue

namespace FileSystem

variable {before middle after : FileSystem} {path : Path} {location : Location} {id : FileId}

/-! ## What stays -/

/-- All that stood anywhere stands there, and every file is as it was; the next number is not the number
of a file. -/
structure Keeps (before after : FileSystem) : Prop where
  labels : before.Extends after
  files : ∀ id, id ≠ before.nextId → after.file? id = before.file? id

/-- Everywhere stands what stood there, or nothing if nothing did, and every file is as it was. -/
structure Restores (before after : FileSystem) : Prop where
  labels : ∀ location, after.labelAt? location = before.labelAt? location
  files : ∀ id, id ≠ before.nextId → after.file? id = before.file? id

theorem Restores.refl (system : FileSystem) : system.Restores system :=
  ⟨fun _ ↦ rfl, fun _ _ ↦ rfl⟩

theorem Restores.keeps (h : before.Restores after) : before.Keeps after where
  labels location _ hlabel := (h.labels location).trans hlabel
  files := h.files

/-- How much room is left on the device does not matter. -/
theorem SameBut.of_free (system : FileSystem) (free : Option Nat) (id : FileId) :
    system.SameBut { system with free } id :=
  ⟨rfl, rfl, fun _ _ ↦ rfl, rfl⟩

theorem Restores.of_free (h : before.Restores after) (free : Option Nat) :
    before.Restores { after with free } :=
  ⟨h.labels, h.files⟩

/-! ## One file more -/

/-- A file has been made at the path. What is in it may have changed since then, but nothing else
has. -/
structure Adds (before after : FileSystem) (path : Path) (location : Location) (id : FileId) :
    Prop where
  vacant : ∃ trail name, before.Vacant path trail name ∧ location = trail.location ++ [name]
  fresh : id = before.nextId
  leaf : after.labelAt? location = some (.file id)
  agrees : before.AgreesBut after location id

theorem exists_adds_of_createFile (h : before.createFile path = .ok (after, id)) :
    ∃ location, before.Adds after path location id := by
  obtain ⟨trail, name, vacant, makes⟩ := exists_makesAt_of_createFile h
  exact ⟨_, ⟨trail, name, vacant, rfl⟩, makes.fresh, makes.leaf, makes.agrees⟩

namespace Adds

theorem nothing (h : before.Adds after path location id) : before.labelAt? location = none := by
  obtain ⟨trail, name, vacant, rfl⟩ := h.vacant
  exact labelAt?_eq_none_iff.mpr vacant.nothing

theorem grows (h : before.Adds after path location id) : before.Extends after :=
  .of_agreesBut h.nothing h.agrees

theorem keeps (h : before.Adds after path location id) : before.Keeps after where
  labels := h.grows
  files := h.fresh ▸ h.agrees.files

theorem of_sameBut (h : before.Adds middle path location id) (same : middle.SameBut after id) :
    before.Adds after path location id where
  vacant := h.vacant
  fresh := h.fresh
  leaf := (same.labelAt? location).trans h.leaf
  agrees := h.agrees.trans (.of_sameBut same location)

/-- The path leads to the file. -/
theorem nodeAt_path (h : before.Adds after path location id) : after.nodeAt path = .ok (.file id) := by
  obtain ⟨trail, name, vacant, rfl⟩ := h.vacant
  exact (vacant.of_leaf h.grows h.leaf).2

/-- The file can be taken away, and then nothing is left of it. -/
theorem exists_removeFile (h : before.Adds after path location id) :
    ∃ last, after.removeFile path = .ok last ∧ before.Restores last := by
  have grows := h.grows
  have nothing := h.nothing
  obtain ⟨trail, name, vacant, rfl⟩ := h.vacant
  obtain ⟨isSearchable, isWritable, entries, hnode⟩ := vacant.hasDirectory
  have directory : after.root.HasDirectory trail.location := by
    have hlabel : before.labelAt? trail.location = some (.directory isSearchable isWritable) := by
      rw [labelAt?, node?, hnode]
      rfl
    exact hasDirectory_of_labelAt? (grows _ _ hlabel)
  have removes := labelAt?_removeNode directory h.leaf
  refine ⟨_, vacant.removeFile grows h.leaf, ?_, h.keeps.files⟩
  intro other
  rw [removes]
  split
  · next hother => rw [hother, nothing]
  · next hother => exact h.agrees.labels other hother

end Adds

/-- There is one file more: the path leads to it, it holds the bytes, and nothing else has changed. -/
structure Gains (before after : FileSystem) (path : Path) (location : Location) (id : FileId)
    (bytes : Bytes) : Prop where
  nothing : before.labelAt? location = none
  leaf : after.labelAt? location = some (.file id)
  others : ∀ other, other ≠ location → after.labelAt? other = before.labelAt? other
  files : ∀ other, other ≠ before.nextId → after.file? other = before.file? other
  leads : after.nodeAt path = .ok (.file id)
  stored : after.Stores id bytes

theorem Adds.gains (h : before.Adds after path location id) {bytes : Bytes}
    (stored : after.Stores id bytes) : before.Gains after path location id bytes where
  nothing := h.nothing
  leaf := h.leaf
  others := h.agrees.labels
  files := h.keeps.files
  leads := h.nodeAt_path
  stored := stored

namespace Gains

variable {bytes : Bytes}

theorem keeps (h : before.Gains after path location id bytes) : before.Keeps after where
  labels := by
    intro other label hlabel
    rw [h.others other, hlabel]
    rintro rfl
    rw [h.nothing] at hlabel
    cases hlabel
  files := h.files

theorem of_free (h : before.Gains after path location id bytes) (free : Option Nat) :
    before.Gains { after with free } path location id bytes where
  nothing := h.nothing
  leaf := h.leaf
  others := h.others
  files := h.files
  leads := by
    have grows : after.Extends { after with free } := .of_root_eq rfl
    exact grows.nodeAt h.leads
  stored := h.stored

end Gains

end FileSystem

/-! ## Names -/

/-- The names that a download tries one after the other: the path itself and its numbered siblings. -/
def Path.candidate (path : Path) : Nat → Path
  | 0 => path
  | number + 1 => path.numbered (number + 1)

namespace LocalFile

variable {path : Path} {machine : Machine}

/-- No file can be made under the name because something exists there. -/
def IsTaken (files : FileSystem) (path : Path) : Prop :=
  ∃ error, files.createFile path = .error error ∧ error.kind = .alreadyExists

/-- A file can be made under this one of the names, and all the names before it are taken. -/
structure IsFirstFree (files : FileSystem) (path : Path) (number : Nat) : Prop where
  lt : number < maxAttempts
  taken : ∀ earlier < number, IsTaken files (path.candidate earlier)
  free : ∃ result, files.createFile (path.candidate number) = .ok result

/-- What a search comes to that tries so many names from the first one on: a file is made under the
first name that is not taken, or it cannot be made there, or all names are taken. -/
inductive Searches (machine : Machine) (path : Path) (first attempts : Nat) :
    Except SystemError (FileId × Path) × Machine → Prop
  | makes {number : Nat} {files : FileSystem} {id : FileId} (le : first ≤ number)
      (lt : number < first + attempts)
      (taken : ∀ earlier, first ≤ earlier → earlier < number →
        IsTaken machine.files (path.candidate earlier))
      (made : machine.files.createFile (path.candidate number) = .ok (files, id)) :
    Searches machine path first attempts (.ok (id, path.candidate number), { machine with files })
  | fails {number : Nat} {error : SystemError} (le : first ≤ number)
      (lt : number < first + attempts)
      (failed : machine.files.createFile (path.candidate number) = .error error)
      (free : error.kind ≠ .alreadyExists) :
    Searches machine path first attempts (.error error, machine)
  | exhausts (taken : ∀ number, first ≤ number → number < first + attempts →
        IsTaken machine.files (path.candidate number)) :
    Searches machine path first attempts (.error (noFreeName path), machine)

/-- A name that is taken is left behind. -/
theorem Searches.cons {first attempts : Nat}
    {result : Except SystemError (FileId × Path) × Machine}
    (taken : IsTaken machine.files (path.candidate first))
    (h : Searches machine path (first + 1) attempts result) :
    Searches machine path first (attempts + 1) result := by
  cases h with
  | makes le lt others made =>
    refine .makes (Nat.le_of_succ_le le) (by omega) ?_ made
    intro earlier hle hlt
    rcases Nat.eq_or_lt_of_le hle with rfl | hless
    · exact taken
    · exact others earlier hless hlt
  | fails le lt failed free => exact .fails (Nat.le_of_succ_le le) (by omega) failed free
  | exhausts others =>
    apply Searches.exhausts
    intro number hle hlt
    rcases Nat.eq_or_lt_of_le hle with rfl | hless
    · exact taken
    · exact others number hless (by omega)

theorem searches_createFrom (machine : Machine) (path : Path) (first attempts : Nat) :
    Searches machine path first attempts
      (machine.run (createFrom path (path.candidate first) (first + 1) attempts)) := by
  induction attempts generalizing first with
  | zero => exact .exhausts fun number hle hlt ↦ absurd hle (Nat.not_le_of_lt hlt)
  | succ attempts ih =>
    unfold createFrom
    rw [Machine.run_bind, Machine.run_call, Machine.answer]
    cases hmake : machine.files.createFile (path.candidate first) with
    | ok result => exact .makes (Nat.le_refl _) (by omega) (by omega) hmake
    | error error =>
      change Searches machine path first (attempts + 1) (machine.run (if _ then _ else _))
      split
      · next htaken => exact (ih (first + 1)).cons ⟨error, hmake, htaken⟩
      · next hfree => exact .fails (Nat.le_refl _) (by omega) hmake hfree

/-- All that a search does is to try to make files. -/
theorem silent_createFrom (path candidate : Path) (number attempts : Nat) :
    (createFrom path candidate number attempts).Meets Call.IsSilent fun _ ↦ True := by
  induction attempts generalizing candidate number with
  | zero => exact meets_pure trivial
  | succ attempts ih =>
    refine (meets_question fun _ _ _ heq ↦ nomatch heq).bind fun answer _ ↦ ?_
    cases answer with
    | ok file => exact meets_pure trivial
    | error error =>
      dsimp only
      split
      · exact ih _ _
      · exact meets_pure trivial

end LocalFile

end Lockstep
