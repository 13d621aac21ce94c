import ShelfLibrary.Proofs.Path
import ShelfLibrary.Proofs.Table
import ShelfLibrary.Proofs.Work
import ShelfLibrary.Disk.FileSystem

/-!
# What file operations do

A path is looked up by its text, which tells its names as long as no slash stands in them.  In a
directory all of whose steps succeed, each operation has one effect on what the paths lead to and on
the bodies of the files.
-/

namespace ShelfLibrary

/-! ## Paths -/

namespace Path

variable {separator : Char}

theorem split_append_cons {front : List Char} (free : separator ∉ front) (rest : List Char) :
    split separator (front ++ separator :: rest) = front :: split separator rest := by
  rw [split_append, split_of_not_mem free, List.singleton_append]

/-- The characters of a run stand in the whole text and are no separators. -/
theorem mem_of_mem_split {chars run : List Char} {c : Char} (member : run ∈ split separator chars)
    (inside : c ∈ run) : c ∈ chars ∧ c ≠ separator := by
  induction chars generalizing run with
  | nil =>
      simp only [split, List.mem_singleton] at member
      simp [member] at inside
  | cons d rest ih =>
      have behind {run : List Char} (later : run ∈ split separator rest) (inside : c ∈ run) :
          c ∈ d :: rest ∧ c ≠ separator :=
        ⟨List.mem_cons_of_mem _ (ih later inside).1, (ih later inside).2⟩
      unfold split at member
      split at member
      · rcases List.mem_cons.mp member with rfl | later
        · simp at inside
        · exact behind later inside
      · rename_i different
        split at member
        · simp only [List.mem_singleton] at member
          subst member
          simp only [List.mem_singleton] at inside
          exact ⟨by simp [inside], inside ▸ different⟩
        · rename_i first others runs
          rcases List.mem_cons.mp member with rfl | later
          · rcases List.mem_cons.mp inside with rfl | after
            · exact ⟨List.mem_cons_self, different⟩
            · exact behind (runs ▸ List.mem_cons_self) after
          · exact behind (runs ▸ List.mem_cons_of_mem _ later) inside

end Path

namespace FilePath

/-- Whether a path has names, in none of which a slash stands. -/
structure IsPlain (path : FilePath) : Prop where
  /-- It is not the directory of the library itself. -/
  ne_nil : path ≠ []
  /-- No slash stands in its names. -/
  free : ∀ name ∈ path, '/' ∉ name.toList

/-- Whether the system can have a path. -/
structure Fits (path : FilePath) : Prop where
  /-- The path is possible. -/
  possible : path.isPossible = true
  /-- No name is too long. -/
  short : ∀ name ∈ path, name.utf8ByteSize ≤ nameLimit

variable {path left right front back : FilePath} {name : String}

theorem text_cons (more : path ≠ []) : text (name :: path) = name ++ "/" ++ text path :=
  String.intercalate_cons_of_ne_nil more

theorem text_append (before : front ≠ []) (after : back ≠ []) :
    text (front ++ back) = text front ++ "/" ++ text back :=
  String.intercalate_append_of_ne_nil before after

theorem split_text (plain : path.IsPlain) :
    Path.split '/' (text path).toList = path.map String.toList := by
  obtain ⟨nonempty, free⟩ := plain
  induction path with
  | nil => exact absurd rfl nonempty
  | cons name rest ih =>
      have first : '/' ∉ name.toList := free name List.mem_cons_self
      cases rest with
      | nil => simpa [text] using Path.split_of_not_mem first
      | cons next rest =>
          have others := ih (List.cons_ne_nil _ _) fun name member =>
            free name (List.mem_cons_of_mem _ member)
          rw [text_cons (List.cons_ne_nil _ _), String.append_assoc, String.toList_append,
            String.toList_append]
          change Path.split '/' (name.toList ++ '/' :: (text (next :: rest)).toList) = _
          rw [Path.split_append_cons first, others]
          rfl

/-- The text of a path tells its names. -/
theorem text_inj (leftPlain : left.IsPlain) (rightPlain : right.IsPlain) :
    text left = text right ↔ left = right := by
  refine ⟨fun same => ?_, fun same => same ▸ rfl⟩
  have names := congrArg (fun s => Path.split '/' s.toList) same
  simp only [split_text leftPlain, split_text rightPlain] at names
  exact List.map_injective_iff.mpr (fun _ _ => String.toList_injective) names

theorem IsPlain.of_append (plain : (front ++ back).IsPlain) (nonempty : front ≠ []) :
    front.IsPlain :=
  ⟨nonempty, fun name member => plain.free name (List.mem_append_left _ member)⟩

theorem isPossible_of_append (possible : (front ++ back).isPossible = true) :
    front.isPossible = true := by
  cases back with
  | nil => rwa [List.append_nil] at possible
  | cons next rest =>
      cases front with
      | nil => rfl
      | cons name names =>
          simp only [isPossible, Bool.and_eq_true, List.all_append, decide_eq_true_eq] at possible ⊢
          refine ⟨?_, possible.2.1⟩
          rw [text_append (List.cons_ne_nil _ _) (List.cons_ne_nil _ _)] at possible
          simp only [String.utf8ByteSize_append] at possible
          omega

theorem Fits.of_append (fits : (front ++ back).Fits) : front.Fits :=
  ⟨isPossible_of_append fits.possible, fun name member =>
    fits.short name (List.mem_append_left _ member)⟩

end FilePath

/-! ## What paths lead to -/

namespace FileSystem

open FilePath (IsPlain Fits)

/-- What is at a path. -/
def look (files : FileSystem) (path : FilePath) : Option FileNode :=
  Table.get? files.nodes path.text

/-- Whether names lead from a directory through directories only. -/
def Leads (files : FileSystem) (above : FilePath) : List String → Prop
  | [] => True
  | name :: rest =>
    files.look (above ++ [name]) = some .directory ∧ files.Leads (above ++ [name]) rest

/-- A file system after a step that has no effect. -/
def tick (files : FileSystem) : FileSystem := { files with steps := files.steps + 1 }

/-- A file system with one more body, which is empty. -/
def grow (files : FileSystem) : FileSystem := { files with bodies := files.bodies ++ [[]] }

variable {files after : FileSystem} {path other above : FilePath} {name : String} {node : FileNode}
  {number : Nat} {contents : Bytes}

theorem look_put (plain : path.IsPlain) (otherPlain : other.IsPlain) :
    (files.put path node).look other = if path = other then some node else files.look other := by
  simp only [look, put, Table.get?_insert, FilePath.text_inj plain otherPlain]

theorem look_erase (plain : path.IsPlain) (otherPlain : other.IsPlain) :
    (files.erase path).look other = if path = other then none else files.look other := by
  simp only [look, erase, Table.get?_erase, FilePath.text_inj plain otherPlain]

@[simp]
theorem look_tick : files.tick.look path = files.look path := rfl

@[simp]
theorem look_grow : files.grow.look path = files.look path := rfl

@[simp]
theorem look_setBody : (files.setBody number contents).look path = files.look path := rfl

/-- Names lead through directories as long as those on the way stay. -/
theorem Leads.of_fronts {rest : List String} (leads : files.Leads above rest)
    (kept : ∀ path, path ≠ [] → path <+: above ++ rest → files.look path = some .directory →
      after.look path = some .directory) : after.Leads above rest := by
  induction rest generalizing above with
  | nil => trivial
  | cons name rest ih =>
      have whole : above ++ name :: rest = above ++ [name] ++ rest := by simp
      refine ⟨kept _ (by simp) (whole ▸ List.prefix_append _ _) leads.1, ih leads.2 ?_⟩
      exact fun path nonempty front => kept path nonempty (whole ▸ front)

theorem Leads.of_nodes_eq {rest : List String} (leads : files.Leads above rest)
    (same : after.nodes = files.nodes) : after.Leads above rest :=
  leads.of_fronts fun path _ _ kept => by rwa [look, same]

/-- Names lead through directories as long as directories stay. -/
theorem Leads.mono {rest : List String} (leads : files.Leads above rest)
    (free : ∀ name ∈ above ++ rest, '/' ∉ name.toList)
    (kept : ∀ path : FilePath, path.IsPlain → files.look path = some .directory →
      after.look path = some .directory) : after.Leads above rest :=
  leads.of_fronts fun path nonempty front =>
    kept path ⟨nonempty, fun name member => free name (front.subset member)⟩

theorem walk_append_eq_ok {rest : List String} {found : Option FileNode} :
    files.walk above (rest ++ [name]) = .ok found ↔
      (∀ part ∈ rest ++ [name], part.utf8ByteSize ≤ FilePath.nameLimit) ∧
        files.Leads above rest ∧ files.look (above ++ rest ++ [name]) = found := by
  induction rest generalizing above with
  | nil =>
      simp only [List.nil_append, walk, Leads, List.append_nil, List.mem_singleton, forall_eq,
        true_and, look]
      split
      · rename_i long
        simp [Nat.not_le.mpr long]
      · rename_i short
        simp only [Nat.not_lt.mp short, true_and]
        cases Table.get? files.nodes (FilePath.text (above ++ [name])) with
        | none => simp
        | some node => cases node <;> simp [walk]
  | cons first rest ih =>
      simp only [List.cons_append, walk, Leads, List.mem_cons, forall_eq_or_imp]
      split
      · rename_i long
        simp [Nat.not_le.mpr long]
      · rename_i short
        simp only [Nat.not_lt.mp short, true_and]
        have onward := @ih (above ++ [first])
        rw [List.append_assoc above [first] rest, List.singleton_append] at onward
        cases found : files.look (above ++ [first]) with
        | none =>
            simp only [look] at found
            simp [found]
        | some node =>
            simp only [look] at found
            cases node with
            | file number => simp [found]
            | directory => simpa [found] using onward

@[simp]
theorem walk_tick (above : FilePath) (rest : List String) :
    files.tick.walk above rest = files.walk above rest := by
  induction rest generalizing above with
  | nil => rfl
  | cons name rest ih =>
      simp only [walk, show files.tick.nodes = files.nodes from rfl]
      rcases Table.get? files.nodes (FilePath.text (above ++ [name])) with _ | number | _
      · cases rest <;> rfl
      · cases rest <;> rfl
      · simp only [ih]

@[simp]
theorem locate_tick : files.tick.locate path = files.locate path := by
  simp only [locate, walk_tick]

/-- A path is located if it fits, and directories lead to it. -/
theorem locate_append_eq_ok {around : FilePath} {found : Option FileNode} :
    files.locate (around ++ [name]) = .ok found ↔
      Fits (around ++ [name]) ∧ files.Leads [] around ∧ files.look (around ++ [name]) = found := by
  unfold locate
  split
  · rename_i possible
    rw [walk_append_eq_ok, List.nil_append]
    exact and_congr_left fun _ => ⟨fun short => ⟨possible, short⟩, Fits.short⟩
  · rename_i impossible
    simp only [reduceCtorEq, false_iff, not_and]
    exact fun fits => absurd fits.possible impossible

/-! ## Single operations -/

/-- All steps succeed, and every file has a body. -/
structure IsCalm (files : FileSystem) : Prop where
  /-- All steps succeed. -/
  quiet : ∀ n, files.faults n = none
  /-- Every file has a body. -/
  ranged : ∀ key number, Table.get? files.nodes key = some (.file number) →
    number < files.bodies.length

theorem ends_find {goal : Except FileFault (Option FileNode) → FileSystem → Prop} :
    Work.Ends (find path) files goal ↔ goal (files.locate path) files :=
  Iff.rfl

theorem ends_require {goal : Except FileFault FileNode → FileSystem → Prop} :
    Work.Ends (require path) files goal ↔
      match files.locate path with
      | .error fault => goal (.error fault) files
      | .ok none => goal (.error .missing) files
      | .ok (some node) => goal (.ok node) files := by
  rw [require, Work.ends_bind, ends_find]
  rcases files.locate path with fault | _ | node <;> exact Iff.rfl

section Operations

variable {α : Type} (calm : files.IsCalm)

include calm

theorem ends_fault {goal : Except FileFault (Option Nat) → FileSystem → Prop} :
    Work.Ends fault? files goal ↔ goal (.ok none) files.tick := by
  rw [← calm.quiet files.steps]
  exact Iff.rfl

theorem ends_step {action : FileAction α} {goal : Except FileFault α → FileSystem → Prop} :
    Work.Ends (step action) files goal ↔ Work.Ends action files.tick goal := by
  rw [step, Work.ends_bind, ends_fault calm]

theorem ends_read {goal : Except FileFault Bytes → FileSystem → Prop} :
    Work.Ends (read path) files goal ↔
      match files.locate path with
      | .error fault => goal (.error fault) files.tick
      | .ok none => goal (.error .missing) files.tick
      | .ok (some .directory) => goal (.error .isDirectory) files.tick
      | .ok (some (.file number)) => goal (.ok (files.body number)) files.tick := by
  rw [read, ends_step calm, Work.ends_bind, ends_require, locate_tick]
  rcases files.locate path with fault | _ | number | _ <;> exact Iff.rfl

theorem ends_size {goal : Except FileFault Nat → FileSystem → Prop} :
    Work.Ends (size path) files goal ↔
      match files.locate path with
      | .error fault => goal (.error fault) files.tick
      | .ok none => goal (.error .missing) files.tick
      | .ok (some .directory) => goal (.ok 0) files.tick
      | .ok (some (.file number)) => goal (.ok (files.body number).length) files.tick := by
  rw [size, ends_step calm, Work.ends_bind, ends_require, locate_tick]
  rcases files.locate path with fault | _ | number | _ <;> exact Iff.rfl

theorem ends_create {goal : Except FileFault Nat → FileSystem → Prop} :
    Work.Ends (create path) files goal ↔
      match files.locate path with
      | .error fault => goal (.error fault) files.tick
      | .ok none =>
        goal (.ok files.bodies.length) (files.tick.grow.put path (.file files.bodies.length))
      | .ok (some .directory) => goal (.error .isDirectory) files.tick
      | .ok (some (.file number)) => goal (.ok number) (files.tick.setBody number []) := by
  rw [create, ends_step calm, Work.ends_bind, ends_find, locate_tick]
  rcases files.locate path with fault | _ | number | _ <;> exact Iff.rfl

theorem ends_openToAppend {goal : Except FileFault Nat → FileSystem → Prop} :
    Work.Ends (openToAppend path) files goal ↔
      match files.locate path with
      | .error fault => goal (.error fault) files.tick
      | .ok none => goal (.error .missing) files.tick
      | .ok (some .directory) => goal (.error .isDirectory) files.tick
      | .ok (some (.file number)) => goal (.ok number) files.tick := by
  rw [openToAppend, ends_step calm, Work.ends_bind, ends_require, locate_tick]
  rcases files.locate path with fault | _ | number | _ <;> exact Iff.rfl

theorem ends_append {goal : Except FileFault (Option Bytes) → FileSystem → Prop} :
    Work.Ends (append number contents) files goal ↔
      goal (.ok none) (files.tick.setBody number (files.body number ++ contents)) := by
  rw [append, Work.ends_bind, ends_fault calm]
  exact Iff.rfl

theorem ends_write {goal : Except FileFault Unit → FileSystem → Prop} :
    Work.Ends (write number contents) files goal ↔
      goal (.ok ()) (files.tick.setBody number (files.body number ++ contents)) := by
  rw [write, Work.ends_bind, ends_append calm]
  exact Iff.rfl

theorem ends_rename {source target : FilePath} {goal : Except FileFault Unit → FileSystem → Prop} :
    Work.Ends (rename source target) files goal ↔
      match files.locate source, files.locate target with
      | .error fault, _ => goal (.error fault) files.tick
      | .ok none, _ => goal (.error .missing) files.tick
      | .ok (some _), .error fault => goal (.error fault) files.tick
      | .ok (some _), .ok (some .directory) => goal (.error .isDirectory) files.tick
      | .ok (some node), _ => goal (.ok ()) ((files.tick.erase source).put target node) := by
  rw [rename, ends_step calm, Work.ends_bind, ends_require, locate_tick]
  rcases files.locate source with fault | _ | found
  · exact Iff.rfl
  · exact Iff.rfl
  · simp only [Work.ends_bind, ends_find, locate_tick]
    rcases files.locate target with fault | _ | number | _ <;> exact Iff.rfl

theorem ends_remove {goal : Except FileFault Unit → FileSystem → Prop} :
    Work.Ends (remove path) files goal ↔
      match files.locate path with
      | .error fault => goal (.error fault) files.tick
      | .ok none => goal (.error .missing) files.tick
      | .ok (some .directory) => goal (.error .isDirectory) files.tick
      | .ok (some (.file _)) => goal (.ok ()) (files.tick.erase path) := by
  rw [remove, ends_step calm, Work.ends_bind, ends_require, locate_tick]
  rcases files.locate path with fault | _ | number | _ <;> exact Iff.rfl

end Operations

/-! ## Files that are replaced -/

namespace IsCalm

theorem tick (calm : files.IsCalm) : files.tick.IsCalm :=
  ⟨calm.quiet, calm.ranged⟩

theorem setBody (calm : files.IsCalm) (number : Nat) (contents : Bytes) :
    (files.setBody number contents).IsCalm :=
  ⟨calm.quiet, fun key number found =>
    by simpa [FileSystem.setBody] using calm.ranged key number found⟩

theorem erase (calm : files.IsCalm) (path : FilePath) : (files.erase path).IsCalm := by
  refine ⟨calm.quiet, fun key number found => ?_⟩
  simp only [FileSystem.erase, Table.get?_erase] at found
  split at found
  · simp at found
  · exact calm.ranged key number found

theorem put (calm : files.IsCalm) (path : FilePath)
    (ranged : ∀ number, node = .file number → number < files.bodies.length) :
    (files.put path node).IsCalm := by
  refine ⟨calm.quiet, fun key number found => ?_⟩
  simp only [FileSystem.put, Table.get?_insert] at found
  split at found
  · exact ranged number (Option.some.inj found)
  · exact calm.ranged key number found

theorem grow (calm : files.IsCalm) : files.grow.IsCalm := by
  refine ⟨calm.quiet, fun key number found => ?_⟩
  have below := calm.ranged key number found
  simp only [FileSystem.grow, List.length_append, List.length_singleton]
  omega

theorem ends_makeFrom (calm : files.IsCalm) (above : FilePath) (rest : List String) :
    Work.Ends (makeFrom above rest) files fun _ after => after.IsCalm := by
  induction rest generalizing above files with
  | nil => exact calm
  | cons name rest ih =>
      rw [makeFrom, Work.ends_bind, ends_find]
      rcases files.locate (above ++ [name]) with fault | _ | number | _
      · exact calm
      · exact ih (calm.put _ (by simp)) _
      · exact calm
      · exact ih calm _

theorem ends_makeDirectories (calm : files.IsCalm) (path : FilePath) :
    Work.Ends (makeDirectories path) files fun _ after => after.IsCalm := by
  rw [makeDirectories, ends_step calm]
  split
  · exact calm.tick
  · exact calm.tick.ends_makeFrom [] path

end IsCalm

theorem body_setBody_self (inside : number < files.bodies.length) :
    (files.setBody number contents).body number = contents := by
  simp [body, setBody, inside]

/-- A file that has been overwritten holds what was written. -/
theorem ends_overwrite (calm : files.IsCalm) {around : FilePath}
    (plain : (around ++ [name]).IsPlain) :
    Work.Ends (overwrite (around ++ [name]) contents) files fun result after => result = .ok () →
      after.IsCalm ∧ ∃ number, after.look (around ++ [name]) = some (.file number) ∧
        after.body number = contents := by
  rw [overwrite, Work.ends_bind, ends_create calm]
  cases located : files.locate (around ++ [name]) with
  | error fault => simp
  | ok found =>
      obtain ⟨-, -, there⟩ := locate_append_eq_ok.mp located
      rcases found with _ | number | _
      · have made : (files.tick.grow.put (around ++ [name]) (.file files.bodies.length)).IsCalm :=
          calm.tick.grow.put _ fun number same => by
            obtain rfl := FileNode.file.inj same
            simp [FileSystem.grow, FileSystem.tick]
        simp only [ends_write made]
        refine fun _ => ⟨made.tick.setBody _ _, files.bodies.length, ?_, ?_⟩
        · simp [look_put plain plain]
        · rw [body_setBody_self (by simp [FileSystem.put, FileSystem.grow, FileSystem.tick])]
          simp [body, FileSystem.put, FileSystem.grow, FileSystem.tick]
      · have inside := calm.ranged _ number there
        have emptied := calm.tick.setBody number []
        simp only [ends_write emptied]
        refine fun _ => ⟨emptied.tick.setBody _ _, number, there, ?_⟩
        rw [body_setBody_self (by simpa [FileSystem.setBody, FileSystem.tick] using inside),
          body_setBody_self (by simpa [FileSystem.tick] using inside), List.nil_append]
      · simp

/-- A file that has been put in the place of what is no directory is found there. -/
theorem locate_of_moved {around : FilePath} {aside : String} {found : Option FileNode}
    (plain : (around ++ [name]).IsPlain) (asidePlain : (around ++ [aside]).IsPlain)
    (there : files.look (around ++ [aside]) = some (.file number))
    (target : files.locate (around ++ [name]) = .ok found) (free : found ≠ some .directory) :
    ((files.tick.erase (around ++ [aside])).put (around ++ [name]) (.file number)).locate
      (around ++ [name]) = .ok (some (.file number)) := by
  obtain ⟨fits, leads, before⟩ := locate_append_eq_ok.mp target
  refine locate_append_eq_ok.mpr ⟨fits, leads.mono ?_ ?_, ?_⟩
  · exact fun name member => plain.free name (List.mem_append_left _ member)
  · intro path pathPlain directory
    have apart : around ++ [name] ≠ path := by
      rintro rfl
      exact free (before.symm.trans directory)
    have apartAside : around ++ [aside] ≠ path := by
      rintro rfl
      simp [there] at directory
    rw [look_put plain pathPlain, if_neg apart, look_erase asidePlain pathPlain,
      if_neg apartAside, look_tick, directory]
  · rw [look_put plain plain, if_pos rfl]

/-- A file that has been replaced through another one is found, and holds what was written. -/
theorem ends_overwriteThrough (calm : files.IsCalm) {around : FilePath} {aside : String}
    (plain : (around ++ [name]).IsPlain) (asidePlain : (around ++ [aside]).IsPlain) :
    Work.Ends (overwriteThrough (around ++ [aside]) (around ++ [name]) contents) files
      fun result after => result = .ok () → after.IsCalm ∧
        ∃ number, after.locate (around ++ [name]) = .ok (some (.file number)) ∧
          after.body number = contents := by
  rw [overwriteThrough, Work.ends_bind]
  refine (calm.ends_makeDirectories _).imp fun result files calm => ?_
  rcases result with fault | _
  · simp
  rw [Work.ends_bind]
  refine (ends_overwrite calm asidePlain).imp fun result files written => ?_
  rcases result with fault | _
  · simp
  obtain ⟨calm, number, there, held⟩ := written rfl
  simp only [ends_rename calm]
  cases source : files.locate (around ++ [aside]) with
  | error fault => simp
  | ok found =>
      obtain ⟨-, -, same⟩ := locate_append_eq_ok.mp source
      rw [there] at same
      subst same
      cases target : files.locate (around ++ [name]) with
      | error fault => simp
      | ok found =>
          have named : ∀ other, FileNode.file number = .file other →
              other < files.bodies.length := by
            rintro other ⟨⟩
            exact calm.ranged _ number there
          have moved := (calm.tick.erase (around ++ [aside])).put (around ++ [name]) named
          have leads := locate_of_moved plain asidePlain there target
          rcases found with _ | other | _
          · exact fun _ => ⟨moved, number, leads (by simp), held⟩
          · exact fun _ => ⟨moved, number, leads (by simp), held⟩
          · simp

end FileSystem

end ShelfLibrary
