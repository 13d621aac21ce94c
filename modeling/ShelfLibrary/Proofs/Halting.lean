import ShelfLibrary.Proofs.Recovery

/-!
# Work that is stopped

A process that is stopped takes no more steps.  What it leaves is what work leaves all of whose
steps fail from some step on, which may have been an append under way.  Whatever the moment is, the
work is over before it and has come to what it comes to elsewhere, or it leaves files that it passes
through.
-/

namespace ShelfLibrary

variable {α β : Type}

/-! ## Stopping -/

namespace FileSystem

/-- The files with another plan of faults. -/
def withFaults (files : FileSystem) (faults : Nat → Option Nat) : FileSystem :=
  { files with faults := faults }

/-- The plan by which no step succeeds from one on; an append that is this one has written so many
bytes before. -/
def stopAt (last torn : Nat) : Nat → Option Nat := fun step =>
  if step < last then none else if step = last then some torn else some 0

/-- The files that are found after a process has been stopped. -/
def restarted (files : FileSystem) : FileSystem := files.withFaults fun _ => none

theorem IsCalm.restarted_withFaults {files : FileSystem} (calm : files.IsCalm)
    (faults : Nat → Option Nat) : (files.withFaults faults).restarted = files := by
  obtain ⟨nodes, bodies, locked, steps, plan⟩ := files
  obtain rfl : plan = fun _ => none := funext calm.quiet
  rfl

end FileSystem

/-- States that contain files. -/
class HasFiles (σ : Type) where
  /-- The files in a state. -/
  files : σ → FileSystem
  /-- The state with other files. -/
  put : σ → FileSystem → σ
  /-- The other files are its files then. -/
  files_put : ∀ state other, files (put state other) = other

instance : HasFiles FileSystem := ⟨id, fun _ files => files, fun _ _ => rfl⟩

instance : HasFiles Journal :=
  ⟨Journal.files, fun journal files => { journal with files := files }, fun _ _ => rfl⟩

instance : HasFiles DiskStores :=
  ⟨fun stores => stores.journal.files, fun stores files => { stores with journal.files := files },
    fun _ _ => rfl⟩

namespace Work

variable {ε σ : Type} [HasFiles σ] {state : σ} {left : FileSystem → Prop}

/-- A state in which no step succeeds from one on. -/
def stopping (last torn : Nat) (state : σ) : σ :=
  HasFiles.put state ((HasFiles.files state).withFaults (FileSystem.stopAt last torn))

/-- The files that work leaves when it is stopped. -/
def stopped (work : ExceptT ε (StateM σ) α) (last torn : Nat) (state : σ) : FileSystem :=
  (HasFiles.files (work.run (stopping last torn state)).2).restarted

/-- Whenever work is stopped, it is over before and has come to what it comes to elsewhere, or it
fails and leaves certain files. -/
def Outlasts (work : ExceptT ε (StateM σ) α) (state : σ) (left : FileSystem → Prop) : Prop :=
  ∀ last torn, (HasFiles.files state).steps ≤ last →
    (work.run (stopping last torn state) =
        ((work.run state).1, stopping last torn (work.run state).2) ∧
      (HasFiles.files (work.run state).2).steps ≤ last) ∨
    (∃ e, (work.run (stopping last torn state)).1 = .error e) ∧ left (stopped work last torn state)

theorem Outlasts.mono {work : ExceptT ε (StateM σ) α} {weaker : FileSystem → Prop}
    (outlasts : Outlasts work state left) (weaken : ∀ files, left files → weaker files) :
    Outlasts work state weaker :=
  fun last torn early => (outlasts last torn early).imp_right fun ⟨failed, remains⟩ =>
    ⟨failed, weaken _ remains⟩

/-- Stopped at any moment, work leaves files of one kind, if these include the files at its end. -/
theorem Outlasts.stopped {work : ExceptT ε (StateM σ) α} (outlasts : Outlasts work state left)
    (calm : (HasFiles.files (work.run state).2).IsCalm)
    (ended : left (HasFiles.files (work.run state).2)) {last : Nat}
    (early : (HasFiles.files state).steps ≤ last) (torn : Nat) :
    left (stopped work last torn state) := by
  rcases outlasts last torn early with ⟨same, -⟩ | ⟨-, remains⟩
  · rw [Work.stopped, same, stopping, HasFiles.files_put, calm.restarted_withFaults]
    exact ended
  · exact remains

end Work

/-! ## Steps -/

namespace FileSystem

variable {files : FileSystem} {left : FileSystem → Prop} {path : FilePath}

theorem walk_withFaults (faults : Nat → Option Nat) (above : FilePath) (rest : List String) :
    (files.withFaults faults).walk above rest = files.walk above rest := by
  induction rest generalizing above with
  | nil => rfl
  | cons name rest ih =>
      simp only [walk, show (files.withFaults faults).nodes = files.nodes from rfl]
      rcases Table.get? files.nodes (FilePath.text (above ++ [name])) with _ | number | _
      · cases rest <;> rfl
      · cases rest <;> rfl
      · simp only [ih]

theorem locate_withFaults (faults : Nat → Option Nat) :
    (files.withFaults faults).locate path = files.locate path := by
  simp only [locate, walk_withFaults]

/-- Work that takes no steps and does not look at the plan of faults. -/
def IsTimeless (action : FileAction α) : Prop :=
  ∀ files faults, action.run (files.withFaults faults) =
    ((action.run files).1, (action.run files).2.withFaults faults) ∧
      (action.run files).2.steps = files.steps

namespace IsTimeless

theorem pure (value : α) : IsTimeless (pure value) := fun _ _ => ⟨rfl, rfl⟩

theorem throw (fault : FileFault) : IsTimeless (throw fault : FileAction α) := fun _ _ => ⟨rfl, rfl⟩

theorem find (path : FilePath) : IsTimeless (FileSystem.find path) := fun _ faults =>
  ⟨Prod.ext (locate_withFaults faults) rfl, rfl⟩

theorem bind {action : FileAction β} {next : β → FileAction α} (first : IsTimeless action)
    (onward : ∀ value, IsTimeless (next value)) : IsTimeless (action >>= next) := by
  intro files faults
  obtain ⟨same, steps⟩ := first files faults
  rcases quiet : action.run files with ⟨result, after⟩
  rw [quiet] at same steps
  cases result with
  | ok value =>
      obtain ⟨again, more⟩ := onward value after faults
      simp only [Work.run_bind, same, quiet]
      exact ⟨again, more.trans steps⟩
  | error fault =>
      simp only [Work.run_bind, same, quiet]
      exact ⟨trivial, steps⟩

theorem require (path : FilePath) : IsTimeless (FileSystem.require path) := by
  refine (find path).bind fun found => ?_
  cases found with
  | none => exact throw _
  | some node => exact pure node

end IsTimeless

/-- A step with an effect that takes no steps and does not look at the plan of faults. -/
def IsStep (action : FileAction α) : Prop := ∃ effect, IsTimeless effect ∧ action = step effect

theorem isStep_create (path : FilePath) : IsStep (create path) := by
  refine ⟨_, (IsTimeless.find path).bind fun found => ?_, rfl⟩
  rcases found with _ | number | _
  · exact fun _ _ => ⟨rfl, rfl⟩
  · exact fun _ _ => ⟨rfl, rfl⟩
  · exact .throw _

theorem isStep_openToAppend (path : FilePath) : IsStep (openToAppend path) := by
  refine ⟨_, (IsTimeless.require path).bind fun found => ?_, rfl⟩
  rcases found with number | _
  · exact .pure number
  · exact .throw _

theorem isStep_size (path : FilePath) : IsStep (size path) := by
  refine ⟨_, (IsTimeless.require path).bind fun found => ?_, rfl⟩
  rcases found with number | _
  · exact fun _ _ => ⟨rfl, rfl⟩
  · exact .pure 0

theorem isStep_rename (source target : FilePath) : IsStep (rename source target) := by
  refine ⟨_, (IsTimeless.require source).bind fun node =>
    (IsTimeless.find target).bind fun found => ?_, rfl⟩
  rcases found with _ | number | _
  · exact fun _ _ => ⟨rfl, rfl⟩
  · exact fun _ _ => ⟨rfl, rfl⟩
  · exact .throw _

theorem run_fault (files : FileSystem) :
    fault?.run files = (.ok (files.faults files.steps), files.tick) := rfl

section Stopping

variable (calm : files.IsCalm)

include calm

end Stopping

end FileSystem

/-! ## Journals -/

namespace Journal

variable {journal : Journal} {left : FileSystem → Prop}

section Torn

variable {contents bytes : Bytes} {deltas : List Delta} {delta : Delta} {sequence : Nat}

theorem stored?_setBody {files : FileSystem} (tidy : files.IsTidy) {number : Nat} {held : Bytes}
    (found : files.file? path = some (number, held)) (contents : Bytes) :
    stored? (files.tick.setBody number contents) = some contents := by
  obtain ⟨there, -⟩ := FileSystem.file?_eq_some.mp found
  have written : (files.tick.setBody number contents).file? path = some (number, contents) :=
    tidy.tick.file?_setBody_self there
  rw [stored?, written]
  rfl

end Torn

end Journal

end ShelfLibrary
