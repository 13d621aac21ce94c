import ShelfLibrary.Disk.Stores
import ShelfLibrary.Proofs.Frame
import ShelfLibrary.Proofs.Tree

/-!
# Work in a tidy directory

In a tidy directory a file can be replaced, read or taken away as long as the system can have its
path.  None of this fails, and all of it keeps the directory tidy and spares the other files.
-/

namespace ShelfLibrary.FileSystem

open FilePath (IsPlain Fits)

variable {files : FileSystem} {path above around : FilePath} {name aside : String}
  {number : Nat} {contents bytes : Bytes}

/-! ## Finding files -/

namespace IsTidy

theorem locate_file (tidy : files.IsTidy) (isFile : IsFile around name)
    (found : files.file? (around ++ [name]) = some (number, contents)) :
    files.locate (around ++ [name]) = .ok (some (.file number)) := by
  obtain ⟨there, -⟩ := file?_eq_some.mp found
  have leads := tidy.rooted around name isFile.plain (by simp [there])
  exact locate_append_eq_ok.mpr ⟨isFile.fits, leads, there⟩

theorem look_of_file?_eq_none (tidy : files.IsTidy) (isFile : IsFile around name)
    (absent : files.file? (around ++ [name]) = none) : files.look (around ++ [name]) = none := by
  rcases there : files.look (around ++ [name]) with _ | number | _
  · rfl
  · exact absurd there (file?_eq_none.mp absent number)
  · exact absurd isFile.dotted ((tidy.dotted around name .directory isFile.plain there).mp rfl)

theorem locate_free (tidy : files.IsTidy) (isFile : IsFile around name)
    (leads : files.Leads [] around) (absent : files.file? (around ++ [name]) = none) :
    files.locate (around ++ [name]) = .ok none :=
  locate_append_eq_ok.mpr ⟨isFile.fits, leads, tidy.look_of_file?_eq_none isFile absent⟩

theorem walk_missing (tidy : files.IsTidy) {rest : List String}
    (plain : IsPlain (above ++ rest ++ [name]))
    (short : ∀ part ∈ rest ++ [name], part.utf8ByteSize ≤ FilePath.nameLimit)
    (folders : ∀ folder ∈ rest, '.' ∉ folder.toList)
    (absent : files.look (above ++ rest ++ [name]) = none) :
    files.walk above (rest ++ [name]) = .ok none ∨
      files.walk above (rest ++ [name]) = .error .missing := by
  induction rest generalizing above with
  | nil =>
      left
      rw [List.append_nil] at absent
      exact walk_append_eq_ok.mpr ⟨short, trivial, by simpa using absent⟩
  | cons folder rest ih =>
      have whole : above ++ folder :: rest ++ [name] =
        above ++ [folder] ++ rest ++ [name] := by simp
      have folderShort : ¬FilePath.nameLimit < folder.utf8ByteSize :=
        Nat.not_lt.mpr (short folder (by simp))
      have folderPlain : IsPlain (above ++ [folder]) :=
        ⟨by simp, fun part member => plain.free part (by
          rw [whole, List.append_assoc]
          exact List.mem_append_left _ member)⟩
      rw [List.cons_append, walk, if_neg folderShort]
      rcases there : files.look (above ++ [folder]) with _ | number | _
      · right
        obtain ⟨next, others, left⟩ := List.exists_cons_of_ne_nil (l := rest ++ [name]) (by simp)
        rw [look] at there
        simp only [there, left]
      · have dotless := folders folder List.mem_cons_self
        have directory := (tidy.dotted above folder _ folderPlain there).mpr dotless
        simp at directory
      · rw [look] at there
        simp only [there]
        exact ih (whole ▸ plain) (fun part member => short part (List.mem_cons_of_mem _ member))
          (fun part member => folders part (List.mem_cons_of_mem _ member)) (whole ▸ absent)

theorem locate_missing (tidy : files.IsTidy) (isFile : IsFile around name)
    (absent : files.file? (around ++ [name]) = none) :
    files.locate (around ++ [name]) = .ok none ∨
      files.locate (around ++ [name]) = .error .missing := by
  rw [locate, if_pos isFile.fits.possible]
  exact tidy.walk_missing isFile.plain isFile.fits.short isFile.folders
    (tidy.look_of_file?_eq_none isFile absent)

end IsTidy

/-! ## Reading -/

/-- The file at a path, read by a decoder, is the stored form of a value; without a value there is
no file. -/
def Keeps {α : Type} (files : FileSystem) (path : FilePath) (decode : Decoder α)
    (value : Option α) : Prop :=
  (files.file? path).map (fun file => Frame.decodeFile decode file.2) = value.map .ok

section Reading

variable {α : Type} (tidy : files.IsTidy) (isFile : IsFile around name)

include tidy isFile

theorem IsTidy.ends_readIfThere {goal : Except FileFault (Option Bytes) → FileSystem → Prop} :
    Work.Ends (DiskStores.readIfThere (around ++ [name])) files goal ↔
      goal (.ok ((files.file? (around ++ [name])).map Prod.snd)) files.tick := by
  rw [DiskStores.readIfThere, Work.ends_tryCatch, Work.ends_map, ends_read tidy.toIsCalm]
  cases found : files.file? (around ++ [name]) with
  | none =>
      rcases tidy.locate_missing isFile found with missing | missing <;> simp [missing, Except.map]
  | some file =>
      obtain ⟨number, contents⟩ := file
      obtain ⟨-, held⟩ := file?_eq_some.mp found
      simp [tidy.locate_file isFile found, Except.map, held]

/-- A document is read as the value whose stored form it is. -/
theorem IsTidy.ends_readDocument {decode : Decoder α} {value : Option α}
    (keeps : files.Keeps (around ++ [name]) decode value)
    {goal : Except FileFault (Option α) → FileSystem → Prop} :
    Work.Ends (DiskStores.readDocument (around ++ [name]) decode) files goal ↔
      goal (.ok value) files.tick := by
  rw [DiskStores.readDocument, Work.ends_bind, tidy.ends_readIfThere isFile]
  unfold Keeps at keeps
  cases found : files.file? (around ++ [name]) with
  | none =>
      cases value with
      | none => exact Iff.rfl
      | some value => simp [found] at keeps
  | some file =>
      cases value with
      | none => simp [found] at keeps
      | some value =>
          simp only [found, Option.map_some, Option.some.injEq] at keeps
          simp [keeps]

end Reading

/-! ## Writing -/

section Writing

/-- Directories that are missing are made. -/
theorem IsTidy.ends_makeFrom (tidy : files.IsTidy) {rest : List String}
    (free : ∀ part ∈ above ++ rest, '/' ∉ part.toList)
    (dotless : ∀ folder ∈ rest, '.' ∉ folder.toList) (fits : Fits (above ++ rest))
    (leads : files.Leads [] above) :
    Work.Ends (makeFrom above rest) files fun result after => result = .ok () ∧
      after.IsTidy ∧ files.Spares after [] ∧ after.Leads [] (above ++ rest) := by
  induction rest generalizing above files with
  | nil => exact ⟨rfl, tidy, .refl _ _, by rwa [List.append_nil]⟩
  | cons folder rest ih =>
      have whole : above ++ folder :: rest = above ++ [folder] ++ rest := by simp
      rw [whole] at free fits ⊢
      have plain : IsPlain (above ++ [folder]) :=
        ⟨by simp, fun part member => free part (List.mem_append_left _ member)⟩
      have others : ∀ folder ∈ rest, '.' ∉ folder.toList :=
        fun part member => dotless part (List.mem_cons_of_mem _ member)
      have located (found : Option FileNode) (there : files.look (above ++ [folder]) = found) :
          files.locate (above ++ [folder]) = .ok found :=
        locate_append_eq_ok.mpr ⟨fits.of_append, leads, there⟩
      rw [makeFrom, Work.ends_bind, ends_find]
      rcases there : files.look (above ++ [folder]) with _ | number | _
      · simp only [located _ there, Work.ends_bind, Work.ends_modify]
        have made := tidy.put_directory plain (dotless folder List.mem_cons_self) leads there
        have onward : (files.put (above ++ [folder]) .directory).Leads [] (above ++ [folder]) := by
          refine leads_append.mpr ⟨leads.mono (IsTidy.free_around plain) ?_, ?_, trivial⟩
          · intro path pathPlain kept
            rw [look_put plain pathPlain]
            split
            · rfl
            · exact kept
          · rw [List.nil_append, look_put plain plain, if_pos rfl]
        refine (ih made free others fits onward).imp fun result after done => ?_
        obtain ⟨rfl, tidy, spares, leads⟩ := done
        have spared : files.Spares (files.put (above ++ [folder]) .directory) [] :=
          ⟨rfl, fun path pathPlain _ => file?_put_directory plain pathPlain there⟩
        exact ⟨rfl, tidy, spared.trans spares, leads⟩
      · have dotted := dotless folder List.mem_cons_self
        have directory := (tidy.dotted above folder _ plain there).mpr dotted
        simp at directory
      · rw [located _ there]
        exact ih tidy free others fits (leads_append.mpr ⟨leads, there, trivial⟩)

theorem IsTidy.ends_makeDirectories (tidy : files.IsTidy)
    (free : ∀ part ∈ path, '/' ∉ part.toList) (dotless : ∀ folder ∈ path, '.' ∉ folder.toList)
    (fits : Fits path) :
    Work.Ends (makeDirectories path) files fun result after => result = .ok () ∧
      after.IsTidy ∧ files.Spares after [] ∧ after.Leads [] path := by
  rw [makeDirectories, ends_step tidy.toIsCalm]
  simp only [fits.possible, Bool.not_true, Bool.false_eq_true, if_false]
  have made := @ends_makeFrom files.tick [] tidy.tick path free dotless fits trivial
  refine made.imp fun result after done => ?_
  obtain ⟨rfl, tidy, spares, leads⟩ := done
  exact ⟨rfl, tidy, spares.of_tick, leads⟩

/-- An empty file may be made where there is none. -/
theorem IsTidy.make (tidy : files.IsTidy) (isFile : IsFile around name)
    (leads : files.Leads [] around) {after : FileSystem}
    (made : after = files.tick.grow.put (around ++ [name]) (.file files.bodies.length)) :
    after.IsTidy ∧ after.file? (around ++ [name]) = some (files.bodies.length, []) ∧
      files.Spares after [around ++ [name]] ∧ after.Leads [] around := by
  subst made
  have unused (key : String) :
      Table.get? files.tick.grow.nodes key ≠ some (.file files.bodies.length) :=
    fun there => (tidy.ranged key _ there).false
  have inside : files.bodies.length < files.tick.grow.bodies.length := by
    simp [FileSystem.grow, FileSystem.tick]
  have made := tidy.tick.grow.put_file isFile (leads.of_nodes_eq rfl) inside unused
  refine ⟨made, file?_eq_some.mpr ⟨?_, ?_⟩, ⟨rfl, fun path plain apart => ?_⟩, ?_⟩
  · rw [look_put isFile.plain isFile.plain, if_pos rfl]
  · simp [body, put, FileSystem.grow, FileSystem.tick]
  · rw [file?_put isFile.plain plain (by simpa using apart), tidy.tick.file?_grow, file?_tick]
  · exact leads.mono (IsTidy.free_around isFile.plain) fun path plain kept =>
      tidy.tick.grow.look_put_file isFile plain kept

/-- A file is made or emptied. -/
theorem IsTidy.ends_create (tidy : files.IsTidy) (isFile : IsFile around name)
    (leads : files.Leads [] around) :
    Work.Ends (create (around ++ [name])) files fun result after => ∃ number, result = .ok number ∧
      after.IsTidy ∧ after.file? (around ++ [name]) = some (number, []) ∧
      files.Spares after [around ++ [name]] ∧ after.Leads [] around := by
  rw [FileSystem.ends_create tidy.toIsCalm]
  cases found : files.file? (around ++ [name]) with
  | none =>
      rw [tidy.locate_free isFile leads found]
      exact ⟨_, rfl, tidy.make isFile leads rfl⟩
  | some file =>
      obtain ⟨number, contents⟩ := file
      obtain ⟨there, -⟩ := file?_eq_some.mp found
      rw [tidy.locate_file isFile found]
      refine ⟨number, rfl, tidy.tick.setBody _ _, tidy.tick.file?_setBody_self there,
        ⟨rfl, fun path plain apart => ?_⟩, ?_⟩
      · exact tidy.tick.file?_setBody isFile.plain plain there (by simpa using apart)
      · exact leads.of_nodes_eq rfl

/-- Bytes go to the end of a file. -/
theorem IsTidy.ends_write (tidy : files.IsTidy) (plain : path.IsPlain)
    (found : files.file? path = some (number, contents)) :
    Work.Ends (write number bytes) files fun result after => result = .ok () ∧ after.IsTidy ∧
      after.file? path = some (number, contents ++ bytes) ∧ files.Spares after [path] ∧
      after.nodes = files.nodes := by
  obtain ⟨there, held⟩ := file?_eq_some.mp found
  rw [FileSystem.ends_write tidy.toIsCalm, held]
  refine ⟨rfl, tidy.tick.setBody _ _, tidy.tick.file?_setBody_self there,
    ⟨rfl, fun other otherPlain apart => ?_⟩, rfl⟩
  exact tidy.tick.file?_setBody plain otherPlain there (by simpa using apart)

/-- A file is cut off after its first bytes. -/
theorem IsTidy.ends_truncate (tidy : files.IsTidy) (isFile : IsFile around name)
    (found : files.file? (around ++ [name]) = some (number, contents)) (length : Nat) :
    Work.Ends (truncate (around ++ [name]) length) files fun result after => result = .ok () ∧
      after.IsTidy ∧ after.file? (around ++ [name]) = some (number, contents.take length) ∧
      files.Spares after [around ++ [name]] := by
  obtain ⟨there, held⟩ := file?_eq_some.mp found
  rw [truncate, ends_step tidy.toIsCalm, Work.ends_bind, ends_require, locate_tick,
    tidy.locate_file isFile found]
  simp only [Work.ends_modify, show files.tick.body number = contents from held]
  refine ⟨trivial, tidy.tick.setBody _ _, tidy.tick.file?_setBody_self there,
    ⟨rfl, fun other plain apart => ?_⟩⟩
  exact tidy.tick.file?_setBody isFile.plain plain there (by simpa using apart)

theorem IsTidy.ends_overwrite (tidy : files.IsTidy) (isFile : IsFile around name)
    (leads : files.Leads [] around) :
    Work.Ends (overwrite (around ++ [name]) bytes) files fun result after => result = .ok () ∧
      after.IsTidy ∧ (∃ number, after.file? (around ++ [name]) = some (number, bytes)) ∧
      files.Spares after [around ++ [name]] ∧ after.Leads [] around := by
  rw [overwrite, Work.ends_bind]
  refine (tidy.ends_create isFile leads).imp fun result files' done => ?_
  obtain ⟨number, rfl, tidy, made, spares, leads⟩ := done
  refine (tidy.ends_write isFile.plain made).imp fun result after done => ?_
  obtain ⟨rfl, tidy, written, spared, same⟩ := done
  exact ⟨rfl, tidy, ⟨number, written⟩, spares.trans spared, leads.of_nodes_eq same⟩

/-- A file gets another path. -/
theorem IsTidy.ends_rename (tidy : files.IsTidy) {beyond : FilePath} {target : String}
    (isSource : IsFile around name) (isTarget : IsFile beyond target)
    (found : files.file? (around ++ [name]) = some (number, contents))
    (leads : files.Leads [] beyond) (apart : around ++ [name] ≠ beyond ++ [target]) :
    Work.Ends (rename (around ++ [name]) (beyond ++ [target])) files fun result after =>
      result = .ok () ∧ after.IsTidy ∧ after.file? (beyond ++ [target]) = some (number, contents) ∧
      after.file? (around ++ [name]) = none ∧
      files.Spares after [around ++ [name], beyond ++ [target]] := by
  obtain ⟨there, held⟩ := file?_eq_some.mp found
  rw [FileSystem.ends_rename tidy.toIsCalm, tidy.locate_file isSource found]
  have erased : (files.tick.erase (around ++ [name])).IsTidy := tidy.tick.erase_file isSource
  have onward : (files.tick.erase (around ++ [name])).Leads [] beyond :=
    leads.mono (IsTidy.free_around isTarget.plain) fun path plain kept =>
      tidy.tick.look_erase_file isSource plain kept
  have unused (key : String) :
      Table.get? (files.tick.erase (around ++ [name])).nodes key ≠ some (.file number) := by
    simp only [FileSystem.erase, Table.get?_erase]
    split
    · simp
    · rename_i elsewhere
      exact fun shared => elsewhere (tidy.apart _ _ number there shared)
  have moved := erased.put_file isTarget onward (tidy.ranged _ number there) unused
  have done : ((files.tick.erase (around ++ [name])).put (beyond ++ [target])
        (.file number)).file? (beyond ++ [target]) = some (number, contents) ∧
      ((files.tick.erase (around ++ [name])).put (beyond ++ [target])
        (.file number)).file? (around ++ [name]) = none ∧
      files.Spares ((files.tick.erase (around ++ [name])).put (beyond ++ [target]) (.file number))
        [around ++ [name], beyond ++ [target]] := by
    refine ⟨file?_eq_some.mpr ⟨?_, held⟩, ?_, rfl, fun path plain other => ?_⟩
    · rw [look_put isTarget.plain isTarget.plain, if_pos rfl]
    · rw [file?_put isTarget.plain isSource.plain apart, file?_erase_self isSource.plain]
    · simp only [List.mem_cons, List.not_mem_nil, or_false, not_or] at other
      rw [file?_put isTarget.plain plain other.2, file?_erase isSource.plain plain other.1,
        file?_tick]
  cases target : files.file? (beyond ++ [target]) with
  | none =>
      rw [tidy.locate_free isTarget leads target]
      exact ⟨rfl, moved, done⟩
  | some file =>
      rw [tidy.locate_file isTarget target]
      exact ⟨rfl, moved, done⟩

/-- A file is replaced through another one beside it, which is gone afterwards. -/
theorem IsTidy.ends_overwriteThrough (tidy : files.IsTidy) (isFile : IsFile around name)
    (isAside : IsFile around aside) (apart : aside ≠ name) :
    Work.Ends (overwriteThrough (around ++ [aside]) (around ++ [name]) bytes) files
      fun result after => result = .ok () ∧ after.IsTidy ∧
        (∃ number, after.file? (around ++ [name]) = some (number, bytes)) ∧
        after.file? (around ++ [aside]) = none ∧
        files.Spares after [around ++ [aside], around ++ [name]] := by
  have different : around ++ [aside] ≠ around ++ [name] := by simpa using apart
  have free : ∀ part ∈ around, '/' ∉ part.toList := fun part member =>
    isFile.plain.free part (List.mem_append_left _ member)
  rw [overwriteThrough, Work.ends_bind, List.dropLast_concat]
  refine (tidy.ends_makeDirectories free isFile.folders isFile.fits.of_append).imp
    fun result files' done => ?_
  obtain ⟨rfl, tidy, spares, leads⟩ := done
  rw [Work.ends_bind]
  refine (tidy.ends_overwrite isAside leads).imp fun result files'' done => ?_
  obtain ⟨rfl, tidy, ⟨number, written⟩, spared, leads⟩ := done
  refine (tidy.ends_rename isAside isFile written leads different).imp fun result after done => ?_
  obtain ⟨rfl, tidy, moved, gone, last⟩ := done
  exact ⟨rfl, tidy, ⟨number, moved⟩, gone,
    (spares.mono (by simp)).trans ((spared.mono (by simp)).trans last)⟩

end Writing

/-! ## Removing -/

section Removing

open DiskStores (shelvesPath prune)

theorem ends_removeDirectory (calm : files.IsCalm)
    {goal : Except FileFault Unit → FileSystem → Prop}
    (refused : ∀ fault, goal (.error fault) files.tick)
    (removed : files.locate path = .ok (some .directory) → files.hasBelow path = false →
      goal (.ok ()) (files.tick.erase path)) :
    Work.Ends (removeDirectory path) files goal := by
  rw [removeDirectory, ends_step calm, Work.ends_bind, ends_require, locate_tick]
  rcases located : files.locate path with fault | _ | number | _
  · exact refused fault
  · exact refused .missing
  · exact refused .refused
  · simp only [Work.ends_bind, Work.ends_get]
    cases below : files.tick.hasBelow path with
    | true => exact refused .refused
    | false => exact removed located below

/-- Directories are pruned without an effect on files. -/
theorem IsTidy.ends_prune (tidy : files.IsTidy) {names : List String}
    (free : ∀ part ∈ names, '/' ∉ part.toList) :
    Work.Ends (prune names) files fun result after => result = .ok () ∧ after.IsTidy ∧
      files.Spares after [] := by
  induction names generalizing files with
  | nil => exact ⟨rfl, tidy, .refl _ _⟩
  | cons name around ih =>
      have plain : IsPlain (shelvesPath ++ (name :: around).reverse) := by
        refine ⟨by simp [shelvesPath], fun part member => ?_⟩
        rcases List.mem_append.mp member with shelves | inside
        · simp only [shelvesPath, List.mem_singleton] at shelves
          simp [shelves, DiskStores.shelvesName]
        · exact free part (List.mem_reverse.mp inside)
      have last : shelvesPath ++ (name :: around).reverse =
          shelvesPath ++ around.reverse ++ [name] := by
        simp
      rw [prune, Work.ends_tryCatch, Work.ends_bind]
      refine ends_removeDirectory tidy.toIsCalm ?_ ?_
      · exact fun fault => ⟨rfl, tidy.tick, (Spares.refl _ _).of_tick⟩
      · intro located clear
        rw [last] at located
        obtain ⟨-, -, there⟩ := locate_append_eq_ok.mp located
        rw [← last] at there
        have removed := tidy.tick.erase_directory plain clear
        refine (ih removed fun part member => free part (List.mem_cons_of_mem _ member)).imp ?_
        rintro result after ⟨rfl, tidy, spares⟩
        have spared : files.Spares
          (files.tick.erase (shelvesPath ++ (name :: around).reverse)) [] :=
          ⟨rfl, fun path pathPlain _ => file?_erase_directory plain pathPlain there⟩
        exact ⟨rfl, tidy, spared.trans spares⟩

/-- A file is taken away. -/
theorem IsTidy.ends_remove (tidy : files.IsTidy) (isFile : IsFile around name)
    (found : files.file? (around ++ [name]) = some (number, contents)) :
    Work.Ends (remove (around ++ [name])) files fun result after => result = .ok () ∧
      after.IsTidy ∧ after.file? (around ++ [name]) = none ∧
      files.Spares after [around ++ [name]] := by
  rw [FileSystem.ends_remove tidy.toIsCalm, tidy.locate_file isFile found]
  refine ⟨rfl, tidy.tick.erase_file isFile, file?_erase_self isFile.plain, rfl, ?_⟩
  intro path plain apart
  exact file?_erase isFile.plain plain (by simpa using apart)

theorem IsTidy.ends_remove_missing (tidy : files.IsTidy) (isFile : IsFile around name)
    (absent : files.file? (around ++ [name]) = none)
    {goal : Except FileFault Unit → FileSystem → Prop} :
    Work.Ends (remove (around ++ [name])) files goal ↔ goal (.error .missing) files.tick := by
  rw [FileSystem.ends_remove tidy.toIsCalm]
  rcases tidy.locate_missing isFile absent with missing | missing <;> simp [missing]

end Removing

/-! ## Locking -/

section Locking

/-- What has been done to files while a lock was taken. -/
structure Locks (files : FileSystem) (path : FilePath) (number : Nat) (after : FileSystem) :
    Prop where
  /-- The directory is tidy. -/
  tidy : after.IsTidy
  /-- There is one lock. -/
  locked : after.locked = [number]
  /-- It is that of the file. -/
  guarded : ∃ contents, after.file? path = some (number, contents)
  /-- The other files are the same. -/
  file : ∀ other : FilePath, other.IsPlain → other ≠ path → after.file? other = files.file? other

theorem Locks.of_made {between : FileSystem} (isFile : IsFile around name) (tidy : between.IsTidy)
    (made : between.file? (around ++ [name]) = some (number, contents))
    (spares : files.Spares between [around ++ [name]]) (unlocked : files.locked = []) :
    files.Locks (around ++ [name]) number
      { between.setBody number holder with locked := number :: between.locked } := by
  obtain ⟨there, -⟩ := file?_eq_some.mp made
  have written := tidy.setBody number holder
  refine ⟨written.of_nodes_eq rfl ⟨written.quiet, written.ranged⟩, ?_, ⟨holder, ?_⟩, ?_⟩
  · exact congrArg (number :: ·) (spares.locked.trans unlocked)
  · exact tidy.file?_setBody_self there
  · intro other plain apart
    exact (tidy.file?_setBody isFile.plain plain there apart).trans
      (spares.file other plain (by simpa using apart))

/-- A file is locked, and made before if it is missing, where nothing is locked. -/
theorem IsTidy.ends_lock (tidy : files.IsTidy) (isFile : IsFile around name)
    (leads : files.Leads [] around) (unlocked : files.locked = []) :
    Work.Ends (lock (around ++ [name])) files fun result after => ∃ number, result = .ok number ∧
      files.Locks (around ++ [name]) number after := by
  have take {between : FileSystem} {number : Nat} {contents : Bytes} (tidy : between.IsTidy)
      (made : between.file? (around ++ [name]) = some (number, contents))
      (spares : files.Spares between [around ++ [name]]) :
      Work.Ends (if between.locked.contains number then throw .busy else do
          modify fun files =>
            { files.setBody number holder with locked := number :: files.locked }
          return number : FileAction Nat) between fun result after =>
        ∃ number, result = .ok number ∧ files.Locks (around ++ [name]) number after := by
    have free : between.locked.contains number = false := by simp [spares.locked, unlocked]
    rw [free, if_neg Bool.false_ne_true, Work.ends_bind]
    exact ⟨number, rfl, .of_made isFile tidy made spares unlocked⟩
  rw [lock, ends_step tidy.toIsCalm, Work.ends_bind, ends_find, locate_tick]
  cases found : files.file? (around ++ [name]) with
  | none =>
      obtain ⟨made, there, spares, -⟩ := tidy.make isFile leads rfl
      rw [tidy.locate_free isFile leads found]
      exact take made there spares
  | some file =>
      obtain ⟨number, contents⟩ := file
      rw [tidy.locate_file isFile found]
      exact take tidy.tick found (Spares.refl _ _).of_tick

end Locking

end ShelfLibrary.FileSystem
