import ShelfLibrary.Proofs.Files

/-!
# Trees of files

In a tidy directory every file has a body of its own, whatever there is can be reached through
directories, and a dot in a name tells a file from a directory.  File operations keep it tidy and
spare the files that they are not about.
-/

namespace ShelfLibrary.FileSystem

open FilePath (IsPlain Fits)

variable {files between after : FileSystem} {path other above around : FilePath} {name : String}
  {number : Nat} {contents : Bytes}

/-! ## Files by path -/

/-- The number of the body of the file at a path, and its contents. -/
def file? (files : FileSystem) (path : FilePath) : Option (Nat × Bytes) :=
  match files.look path with
  | some (.file number) => some (number, files.body number)
  | _ => none

theorem file?_eq_some :
    files.file? path = some (number, contents) ↔
      files.look path = some (.file number) ∧ files.body number = contents := by
  unfold file?
  split
  · rename_i found there
    simp only [there, Option.some.injEq, Prod.mk.injEq, FileNode.file.injEq]
    exact and_congr_right fun same => same ▸ Iff.rfl
  · rename_i strange
    simpa using fun there => absurd there (strange number)

theorem file?_eq_none :
    files.file? path = none ↔ ∀ number, files.look path ≠ some (.file number) := by
  unfold file?
  split
  · rename_i found there
    simp [there]
  · rename_i strange
    simpa using strange

/-- The files after a step are as they were, apart from those at some paths. -/
structure Spares (files after : FileSystem) (touched : List FilePath) : Prop where
  /-- The locks are the same. -/
  locked : after.locked = files.locked
  /-- The other files are the same. -/
  file : ∀ path : FilePath, path.IsPlain → path ∉ touched → after.file? path = files.file? path

theorem Spares.refl (files : FileSystem) (touched : List FilePath) : files.Spares files touched :=
  ⟨rfl, fun _ _ _ => rfl⟩

theorem Spares.of_tick {touched : List FilePath} (spares : files.tick.Spares after touched) :
    files.Spares after touched :=
  ⟨spares.locked, spares.file⟩

theorem Spares.trans {touched : List FilePath} (front : files.Spares between touched)
    (back : between.Spares after touched) : files.Spares after touched :=
  ⟨back.locked.trans front.locked, fun path plain apart =>
    (back.file path plain apart).trans (front.file path plain apart)⟩

theorem Spares.mono {touched more : List FilePath} (spares : files.Spares after touched)
    (wider : touched ⊆ more) : files.Spares after more :=
  ⟨spares.locked, fun path plain apart => spares.file path plain fun inside => apart (wider inside)⟩

/-! ## Tidy directories -/

/-- A name of a file in a directory: a dot stands in it, and in no name on the way. -/
structure IsFile (around : FilePath) (name : String) : Prop where
  /-- No slash stands in the names. -/
  plain : IsPlain (around ++ [name])
  /-- The system can have the path. -/
  fits : Fits (around ++ [name])
  /-- No dot stands in the names of the directories. -/
  folders : ∀ folder ∈ around, '.' ∉ folder.toList
  /-- A dot stands in the name. -/
  dotted : '.' ∈ name.toList

/-- A directory all of whose steps succeed, with files and directories in order. -/
structure IsTidy (files : FileSystem) : Prop extends files.IsCalm where
  /-- No two files share a body. -/
  apart : ∀ key other number, Table.get? files.nodes key = some (.file number) →
    Table.get? files.nodes other = some (.file number) → key = other
  /-- Directories lead to whatever there is. -/
  rooted : ∀ (around : FilePath) (name : String), IsPlain (around ++ [name]) →
    files.look (around ++ [name]) ≠ none → files.Leads [] around
  /-- What has no dot in its name is a directory, and nothing else is. -/
  dotted : ∀ (around : FilePath) (name : String) (node : FileNode), IsPlain (around ++ [name]) →
    files.look (around ++ [name]) = some node → (node = .directory ↔ '.' ∉ name.toList)

theorem isTidy_empty : empty.IsTidy where
  quiet _ := rfl
  ranged := by simp [empty]
  apart := by simp [empty]
  rooted := by simp [empty, look]
  dotted := by simp [empty, look]

theorem leads_append {front back : List String} :
    files.Leads above (front ++ back) ↔
      files.Leads above front ∧ files.Leads (above ++ front) back := by
  induction front generalizing above with
  | nil => simp [Leads]
  | cons name front ih => simp [Leads, ih, and_assoc]

/-- Nothing lies below a directory that is empty. -/
theorem look_of_hasBelow {rest : List String} (clear : files.hasBelow path = false)
    (before : path ≠ []) (behind : rest ≠ []) : files.look (path ++ rest) = none := by
  cases found : files.look (path ++ rest) with
  | none => rfl
  | some node =>
      have member := Table.mem_of_get? found
      have below :
          ((path.text ++ "/").toList.isPrefixOf (FilePath.text (path ++ rest)).toList) = true := by
        rw [FilePath.text_append before behind]
        refine List.isPrefixOf_iff_prefix.mpr ⟨(FilePath.text rest).toList, ?_⟩
        rw [← String.toList_append]
      simp only [hasBelow, List.any_eq_false] at clear
      exact absurd below (clear _ member)

namespace IsTidy

theorem free_around (plain : IsPlain (around ++ [name])) :
    ∀ part ∈ [] ++ around, '/' ∉ part.toList :=
  fun part member => plain.free part (List.mem_append_left _ member)

/-- A directory stays tidy as long as its nodes are the same and every file has its body. -/
theorem of_nodes_eq (tidy : files.IsTidy) (same : after.nodes = files.nodes) (calm : after.IsCalm) :
    after.IsTidy := by
  have looked (path : FilePath) : after.look path = files.look path := by rw [look, same, look]
  refine { toIsCalm := calm, apart := ?_, rooted := ?_, dotted := ?_ }
  · rw [same]
    exact tidy.apart
  · intro around name plain there
    rw [looked] at there
    exact (tidy.rooted around name plain there).of_nodes_eq same
  · intro around name node plain there
    rw [looked] at there
    exact tidy.dotted around name node plain there

theorem tick (tidy : files.IsTidy) : files.tick.IsTidy :=
  tidy.of_nodes_eq rfl tidy.toIsCalm.tick

theorem grow (tidy : files.IsTidy) : files.grow.IsTidy :=
  tidy.of_nodes_eq rfl tidy.toIsCalm.grow

theorem setBody (tidy : files.IsTidy) (number : Nat) (contents : Bytes) :
    (files.setBody number contents).IsTidy :=
  tidy.of_nodes_eq rfl (tidy.toIsCalm.setBody number contents)

/-- Directories stay where a file is put. -/
theorem look_put_file (tidy : files.IsTidy) (isFile : IsFile around name) {node : FileNode}
    (plain : path.IsPlain) (there : files.look path = some .directory) :
    (files.put (around ++ [name]) node).look path = some .directory := by
  rw [look_put isFile.plain plain, if_neg, there]
  rintro rfl
  exact (tidy.dotted around name .directory isFile.plain there).mp rfl isFile.dotted

/-- Directories stay when a file is taken away. -/
theorem look_erase_file (tidy : files.IsTidy) (isFile : IsFile around name)
    (plain : path.IsPlain) (there : files.look path = some .directory) :
    (files.erase (around ++ [name])).look path = some .directory := by
  rw [look_erase isFile.plain plain, if_neg, there]
  rintro rfl
  exact (tidy.dotted around name .directory isFile.plain there).mp rfl isFile.dotted

/-- A file may be put where no directory is, with a body that no other file has. -/
theorem put_file (tidy : files.IsTidy) (isFile : IsFile around name) (leads : files.Leads [] around)
    (ranged : number < files.bodies.length)
    (unused : ∀ key, Table.get? files.nodes key ≠ some (.file number)) :
    (files.put (around ++ [name]) (.file number)).IsTidy := by
  have kept (path : FilePath) (plain : path.IsPlain) (there : files.look path = some .directory) :
      (files.put (around ++ [name]) (.file number)).look path = some .directory :=
    tidy.look_put_file isFile plain there
  refine { toIsCalm := ?_, apart := ?_, rooted := ?_, dotted := ?_ }
  · exact tidy.toIsCalm.put _ (by rintro other ⟨⟩; exact ranged)
  · intro key other shared first second
    simp only [put, Table.get?_insert] at first second
    split at first <;> split at second
    · rename_i here there
      exact here.symm.trans there
    · obtain rfl := FileNode.file.inj (Option.some.inj first)
      exact absurd second (unused other)
    · obtain rfl := FileNode.file.inj (Option.some.inj second)
      exact absurd first (unused key)
    · exact tidy.apart key other shared first second
  · intro above last plain there
    rw [look_put isFile.plain plain] at there
    split at there
    · rename_i same
      obtain ⟨rfl, -⟩ := List.append_inj' same rfl
      exact leads.mono (free_around isFile.plain) kept
    · exact (tidy.rooted above last plain there).mono (free_around plain) kept
  · intro above last node plain there
    rw [look_put isFile.plain plain] at there
    split at there
    · rename_i same
      obtain ⟨-, names⟩ := List.append_inj' same rfl
      obtain rfl := List.cons.inj names |>.1
      obtain rfl := Option.some.inj there
      simp [isFile.dotted]
    · exact tidy.dotted above last node plain there

/-- A directory may be made where nothing is. -/
theorem put_directory (tidy : files.IsTidy) (plain : IsPlain (around ++ [name]))
    (dotless : '.' ∉ name.toList) (leads : files.Leads [] around)
    (absent : files.look (around ++ [name]) = none) :
    (files.put (around ++ [name]) .directory).IsTidy := by
  have kept (path : FilePath) (pathPlain : path.IsPlain)
    (there : files.look path = some .directory) :
      (files.put (around ++ [name]) .directory).look path = some .directory := by
    rw [look_put plain pathPlain, if_neg, there]
    rintro rfl
    simp [absent] at there
  refine { toIsCalm := tidy.toIsCalm.put _ (by simp), apart := ?_, rooted := ?_, dotted := ?_ }
  · intro key other shared first second
    simp only [put, Table.get?_insert] at first second
    split at first
    · simp at first
    · split at second
      · simp at second
      · exact tidy.apart key other shared first second
  · intro above last lastPlain there
    rw [look_put plain lastPlain] at there
    split at there
    · rename_i same
      obtain ⟨rfl, -⟩ := List.append_inj' same rfl
      exact leads.mono (free_around plain) kept
    · exact (tidy.rooted above last lastPlain there).mono (free_around lastPlain) kept
  · intro above last node lastPlain there
    rw [look_put plain lastPlain] at there
    split at there
    · rename_i same
      obtain ⟨-, names⟩ := List.append_inj' same rfl
      obtain rfl := List.cons.inj names |>.1
      obtain rfl := Option.some.inj there
      simp [dotless]
    · exact tidy.dotted above last node lastPlain there

/-- What leads to nothing else may be taken away. -/
theorem erase (tidy : files.IsTidy) (plain : path.IsPlain)
    (unneeded : ∀ (above : FilePath) (last : String), IsPlain (above ++ [last]) →
      files.look (above ++ [last]) ≠ none → (files.erase path).Leads [] above) :
    (files.erase path).IsTidy := by
  refine { toIsCalm := tidy.toIsCalm.erase path, apart := ?_, rooted := ?_, dotted := ?_ }
  · intro key other shared first second
    simp only [FileSystem.erase, Table.get?_erase] at first second
    split at first
    · simp at first
    · split at second
      · simp at second
      · exact tidy.apart key other shared first second
  · intro above last lastPlain there
    rw [look_erase plain lastPlain] at there
    split at there
    · exact absurd rfl there
    · exact unneeded above last lastPlain there
  · intro above last node lastPlain there
    rw [look_erase plain lastPlain] at there
    split at there
    · simp at there
    · exact tidy.dotted above last node lastPlain there

theorem erase_file (tidy : files.IsTidy) (isFile : IsFile around name) :
    (files.erase (around ++ [name])).IsTidy := by
  refine tidy.erase isFile.plain fun above last lastPlain present => ?_
  refine (tidy.rooted above last lastPlain present).mono (free_around lastPlain) ?_
  exact fun path plain there => tidy.look_erase_file isFile plain there

/-- An empty directory may be taken away. -/
theorem erase_directory (tidy : files.IsTidy) (plain : path.IsPlain)
    (clear : files.hasBelow path = false) : (files.erase path).IsTidy := by
  refine tidy.erase plain fun above last lastPlain present => ?_
  refine (tidy.rooted above last lastPlain present).of_fronts fun other nonempty front kept => ?_
  have otherPlain : IsPlain other :=
    ⟨nonempty, fun name member =>
      lastPlain.free name (List.mem_append_left _ (front.subset member))⟩
  rw [look_erase plain otherPlain, if_neg, kept]
  rintro rfl
  obtain ⟨rest, rfl⟩ := front
  rw [List.append_assoc] at present
  exact present (look_of_hasBelow clear plain.ne_nil (by simp))

end IsTidy

/-! ## Effects on files -/

section Effects

@[simp]
theorem file?_tick : files.tick.file? path = files.file? path := rfl

theorem IsTidy.file?_grow (tidy : files.IsTidy) : files.grow.file? path = files.file? path := by
  unfold file?
  rw [look_grow]
  split
  · rename_i number there
    have inside := tidy.ranged _ number there
    simp [body, FileSystem.grow, List.getElem?_append_left inside]
  · rfl

theorem file?_put (plain : path.IsPlain) (otherPlain : other.IsPlain) {node : FileNode}
    (apart : other ≠ path) : (files.put path node).file? other = files.file? other := by
  unfold file?
  rw [look_put plain otherPlain, if_neg (Ne.symm apart)]
  rfl

theorem file?_put_directory (plain : path.IsPlain) (otherPlain : other.IsPlain)
    (absent : files.look path = none) :
    (files.put path .directory).file? other = files.file? other := by
  by_cases same : other = path
  · subst same
    unfold file?
    rw [look_put plain plain, if_pos rfl, absent]
  · exact file?_put plain otherPlain same

theorem file?_erase (plain : path.IsPlain) (otherPlain : other.IsPlain) (apart : other ≠ path) :
    (files.erase path).file? other = files.file? other := by
  unfold file?
  rw [look_erase plain otherPlain, if_neg (Ne.symm apart)]
  rfl

theorem file?_erase_self (plain : path.IsPlain) : (files.erase path).file? path = none := by
  unfold file?
  rw [look_erase plain plain, if_pos rfl]

theorem file?_erase_directory (plain : path.IsPlain) (otherPlain : other.IsPlain)
    (there : files.look path = some .directory) :
    (files.erase path).file? other = files.file? other := by
  by_cases same : other = path
  · subst same
    rw [file?_erase_self plain]
    unfold file?
    rw [there]
  · exact file?_erase plain otherPlain same

theorem IsTidy.file?_setBody_self (tidy : files.IsTidy)
    (there : files.look path = some (.file number)) :
    (files.setBody number contents).file? path = some (number, contents) :=
  file?_eq_some.mpr ⟨there, body_setBody_self (tidy.ranged _ number there)⟩

theorem IsTidy.file?_setBody (tidy : files.IsTidy) (plain : path.IsPlain)
    (otherPlain : other.IsPlain) (there : files.look path = some (.file number))
    (apart : other ≠ path) : (files.setBody number contents).file? other = files.file? other := by
  unfold file?
  rw [look_setBody]
  split
  · rename_i foreign found
    have different : number ≠ foreign := by
      rintro rfl
      exact apart ((FilePath.text_inj otherPlain plain).mp (tidy.apart _ _ number found there))
    simp [body, FileSystem.setBody, different]
  · rfl

end Effects

end ShelfLibrary.FileSystem
