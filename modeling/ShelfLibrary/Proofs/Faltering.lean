import ShelfLibrary.Proofs.Live

/-!
# Work whose steps may fail

Any step of work on files may fail, and the steps after it may succeed again.  A step that fails has
no effect, but for an append, which may have written a part of its bytes.  A journal that is
rewritten stays the journal that is written to, whichever of the steps fails, unless it is the last
one: then the new journal is there, and it is the old one that is written to.
-/

namespace ShelfLibrary

variable {α : Type} {faults : Nat → Option Nat}

/-! ## Steps -/

namespace FileSystem

variable {files : FileSystem}

/-- No step fails from one on and before another one. -/
def Passes (faults : Nat → Option Nat) (first last : Nat) : Prop :=
  ∀ step, first ≤ step → step < last → faults step = none

theorem passes_self (first : Nat) : Passes faults first first :=
  fun _ early late => absurd late early.not_gt

theorem Passes.succ {first last : Nat} (passes : Passes faults first last)
    (passed : faults last = none) : Passes faults first (last + 1) := by
  intro step early late
  rcases Nat.lt_succ_iff_lt_or_eq.mp late with before | rfl
  · exact passes step early before
  · exact passed

theorem passes_iff_of_passed {first last : Nat} (passed : faults first = none) :
    Passes faults first last ↔ Passes faults (first + 1) last := by
  refine ⟨fun passes step early => passes step (Nat.le_of_succ_le early), fun passes => ?_⟩
  intro step early late
  rcases Nat.eq_or_lt_of_le early with rfl | after
  · exact passed
  · exact passes step after late

theorem not_passes {first last count : Nat} (early : first ≤ last)
    (failed : faults last = some count) : ¬Passes faults first (last + 1) := by
  intro passes
  rw [passes last early last.lt_succ_self] at failed
  cases failed

/-- A step has its effect, which is the same under any plan of faults, or it fails and has none. -/
theorem IsStep.ends_withFaults {action : FileAction α} (isStep : IsStep action)
    (calm : files.IsCalm) {goal : Except FileFault α → FileSystem → Prop}
    (passes : faults files.steps = none → Work.Ends action files fun result after =>
      after.steps = files.steps + 1 → goal result (after.withFaults faults))
    (fails : ∀ count, faults files.steps = some count →
      goal (.error .refused) (files.tick.withFaults faults)) :
    Work.Ends action (files.withFaults faults) goal := by
  obtain ⟨effect, timeless, rfl⟩ := isStep
  obtain ⟨same, steps⟩ := timeless files.tick faults
  have planned : (files.withFaults faults).faults (files.withFaults faults).steps =
    faults files.steps := rfl
  unfold Work.Ends
  rw [step, Work.run_bind, run_fault, planned]
  cases fault : faults files.steps with
  | none =>
      have ended := (ends_step calm).mp (passes fault) steps
      change goal (effect.run (files.tick.withFaults faults)).1
        (effect.run (files.tick.withFaults faults)).2
      rw [same]
      exact ended
  | some count => exact fails count fault

theorem ends_append_planned {number : Nat} {bytes : Bytes}
    {goal : Except FileFault (Option Bytes) → FileSystem → Prop} :
    Work.Ends (append number bytes) files goal ↔
      match files.faults files.steps with
      | none => goal (.ok none) (files.tick.setBody number (files.body number ++ bytes))
      | some count => goal (.ok (some (bytes.drop count)))
          (files.tick.setBody number (files.body number ++ bytes.take count)) := by
  unfold Work.Ends
  rw [append, Work.run_bind, run_fault]
  cases files.faults files.steps <;> exact Iff.rfl

/-- All bytes are written, or some of them if that fails. -/
theorem ends_write_planned {number : Nat} {bytes : Bytes}
    {goal : Except FileFault Unit → FileSystem → Prop} :
    Work.Ends (write number bytes) files goal ↔
      match files.faults files.steps with
      | none => goal (.ok ()) (files.tick.setBody number (files.body number ++ bytes))
      | some count => goal (.error .refused)
          (files.tick.setBody number (files.body number ++ bytes.take count)) := by
  rw [write, Work.ends_bind, ends_append_planned]
  cases files.faults files.steps <;> exact Iff.rfl

/-- Bytes that are written are the same under any plan of faults by which all of them are. -/
theorem ends_write_withFaults (calm : files.IsCalm) {number : Nat} {bytes : Bytes}
    {goal : Except FileFault Unit → FileSystem → Prop}
    (passes : faults files.steps = none → Work.Ends (write number bytes) files fun result after =>
      after.steps = files.steps + 1 → goal result (after.withFaults faults))
    (fails : ∀ count, faults files.steps = some count → goal (.error .refused)
      ((files.tick.setBody number (files.body number ++ bytes.take count)).withFaults faults)) :
    Work.Ends (write number bytes) (files.withFaults faults) goal := by
  rw [ends_write_planned]
  change match faults files.steps with | none => _ | some count => _
  cases fault : faults files.steps with
  | none => exact (ends_write calm).mp (passes fault) rfl
  | some count => exact fails count fault

end FileSystem

/-! ## Journals -/

namespace Journal

open FileSystem (Passes)

variable {journal : Journal} {entries : List JournalEntry} {delta : Delta} {deltas : List Delta}
  {contents frame : Bytes}

/-- The journal with a plan of faults. -/
def withFaults (journal : Journal) (faults : Nat → Option Nat) : Journal :=
  { journal with files := journal.files.withFaults faults }

/-- The journal after a frame has been appended. -/
def extended (journal : Journal) (frame : Bytes) : Journal :=
  { journal with
    files := journal.files.tick.setBody journal.body (journal.files.body journal.body ++ frame)
    sequence := journal.sequence + 1 }

/-- The journal after a frame has been appended in part; the rest is in the buffer if it is one that
goes there. -/
def torn (journal : Journal) (frame : Bytes) (count : Nat) : Journal :=
  { journal with
    files := journal.files.tick.setBody journal.body
      (journal.files.body journal.body ++ frame.take count)
    pending := if frame.length < capacity then frame.drop count else [] }

section Appending

variable {goal : Except FileFault Unit → Journal → Prop}

theorem ends_flush_planned (pending : journal.pending ≠ []) :
    Work.Ends flush journal goal ↔
      match journal.files.faults journal.files.steps with
      | none => goal (.ok ()) { journal with
          files := journal.files.tick.setBody journal.body
            (journal.files.body journal.body ++ journal.pending)
          pending := [] }
      | some count => goal (.error .refused) { journal with
          files := journal.files.tick.setBody journal.body
            (journal.files.body journal.body ++ journal.pending.take count)
          pending := journal.pending.drop count } := by
  have nonempty : journal.pending.isEmpty = false := by simpa using pending
  rw [flush, Work.ends_bind, Work.ends_get]
  simp only [nonempty, Bool.false_eq_true, if_false, Work.ends_bind, ends_onFiles,
    FileSystem.ends_append_planned]
  cases journal.files.faults journal.files.steps <;> exact Iff.rfl

theorem ends_flush_iff_of_flushed (flushed : journal.pending = []) :
    Work.Ends flush journal goal ↔ goal (.ok ()) journal := by
  obtain ⟨done, same⟩ := ends_flush_of_flushed flushed
  rw [Work.Ends, done, same]

theorem ends_buffer_of_room (short : frame.length < capacity)
    (room : journal.pending.length + frame.length ≤ capacity) :
    Work.Ends (buffer frame) journal goal ↔
      goal (.ok ()) { journal with pending := journal.pending ++ frame } := by
  rw [buffer, Work.ends_bind, Work.ends_get]
  simp only [if_neg (Nat.not_lt.mpr room), if_neg (Nat.not_le.mpr short)]
  exact Iff.rfl

/-- A frame that does not fit the buffer is written at once. -/
theorem ends_buffer_of_long (flushed : journal.pending = []) (long : capacity ≤ frame.length) :
    Work.Ends (buffer frame) journal goal ↔
      Work.Ends (onFiles (FileSystem.write journal.body frame)) journal goal := by
  rw [buffer, Work.ends_bind, Work.ends_get]
  simp only [if_pos long]
  split
  · rw [Work.ends_bind, ends_flush_iff_of_flushed flushed]
    exact Iff.rfl
  · exact Iff.rfl

end Appending

section Changes

variable {goal : Except FileFault Nat → Journal → Prop}

/-- A frame that fits the buffer is written in one step together with what is there. -/
theorem ends_append_of_room
    (framed : (JournalEntry.number (journal.sequence + 1) delta).encode = .ok frame)
    (nonempty : frame ≠ []) (short : frame.length < capacity)
    (room : journal.pending.length + frame.length ≤ capacity) :
    Work.Ends (append delta) journal goal ↔
      match journal.files.faults journal.files.steps with
      | none => goal (.ok (journal.sequence + 1)) { journal with
          files := journal.files.tick.setBody journal.body
            (journal.files.body journal.body ++ (journal.pending ++ frame))
          pending := []
          sequence := journal.sequence + 1 }
      | some count => goal (.error .refused) { journal with
          files := journal.files.tick.setBody journal.body
            (journal.files.body journal.body ++ (journal.pending ++ frame).take count)
          pending := (journal.pending ++ frame).drop count } := by
  have filled : journal.pending ++ frame ≠ [] := List.append_ne_nil_of_right_ne_nil _ nonempty
  rw [append, Work.ends_bind]
  simp only [Work.ends_get, Work.ends_bind, encoded, framed, Work.ends_pure,
    ends_buffer_of_room short room]
  rw [ends_flush_planned filled]
  cases journal.files.faults journal.files.steps with
  | none => simp only [Work.ends_modify]
  | some count => exact Iff.rfl

/-- A change is appended in one step, which is done or fails. -/
theorem ends_append_planned (flushed : journal.pending = [])
    (framed : (JournalEntry.number (journal.sequence + 1) delta).encode = .ok frame)
    (nonempty : frame ≠ []) :
    Work.Ends (append delta) journal goal ↔
      match journal.files.faults journal.files.steps with
      | none => goal (.ok (journal.sequence + 1)) (journal.extended frame)
      | some count => goal (.error .refused) (journal.torn frame count) := by
  by_cases long : capacity ≤ frame.length
  · have short : ¬frame.length < capacity := Nat.not_lt.mpr long
    rw [append, Work.ends_bind]
    simp only [Work.ends_get, Work.ends_bind, encoded, framed, Work.ends_pure,
      ends_buffer_of_long flushed long, ends_onFiles, FileSystem.ends_write_planned]
    cases journal.files.faults journal.files.steps with
    | none =>
        simp only
        exact ends_flush_iff_of_flushed flushed
    | some count => simp only [torn, if_neg short, flushed]
  · have short : frame.length < capacity := Nat.lt_of_not_le long
    have room : journal.pending.length + frame.length ≤ capacity := by
      rw [flushed, List.length_nil, Nat.zero_add]
      exact short.le
    rw [ends_append_of_room framed nonempty short room]
    simp only [extended, torn, if_pos short, flushed, List.nil_append]

end Changes

/-- A change that has been appended is spelt last. -/
theorem IsSpelt.extended (spelt : journal.IsSpelt entries) (made : delta.IsMade)
    (fits : entries.length + 1 < 2 ^ 64)
    (framed : (JournalEntry.number (journal.sequence + 1) delta).encode = .ok frame) :
    (journal.extended frame).IsSpelt (entries ++ [.number (entries.length + 1) delta]) := by
  have ⟨_, ⟨tidy, _⟩, _⟩ := spelt.isOpen
  have appended := spelt.ends_append made fits framed
  rw [ends_append_planned spelt.flushed framed, tidy.quiet] at appended
  · exact appended.2
  · rintro rfl
    cases Frame.length_of_encode framed

/-- Nothing is left of a frame that does not fit the buffer if none of its bytes has been
written. -/
theorem IsSpelt.torn_of_long (spelt : journal.IsSpelt entries) (long : capacity ≤ frame.length) :
    (journal.torn frame 0).IsSpelt entries := by
  obtain ⟨bytes, ⟨tidy, front, found, whole⟩, spells⟩ := spelt.isOpen
  obtain ⟨there, held⟩ := FileSystem.file?_eq_some.mp found
  have empty : (journal.torn frame 0).pending = [] := if_neg (Nat.not_lt.mpr long)
  refine ⟨⟨bytes, ⟨tidy.tick.setBody _ _, _, tidy.tick.file?_setBody_self there, ?_⟩, spells⟩,
    empty, spelt.counted⟩
  rw [empty, whole, spelt.flushed, held, List.take_zero, List.append_nil, List.append_nil]

/-- A frame with another number does not go on with the entries before it, nor does anything after
it. -/
theorem stops_of_encode {number sequence : Nat} (made : delta.IsMade) (counted : number < 2 ^ 64)
    (framed : (JournalEntry.number number delta).encode = .ok frame) (apart : number ≠ sequence)
    (rest : Bytes) : Stops sequence (frame ++ rest) := by
  intro payload others entry read decoded
  have kept := (isKept_of_encode made counted framed).decoded
  rw [Frame.read_append framed] at read
  obtain ⟨rfl, -⟩ := Prod.mk.inj (Except.ok.inj read)
  rw [kept] at decoded
  obtain rfl := Except.ok.inj decoded
  exact apart

/-- The next frame makes a torn one whole, if both fit the buffer. -/
theorem IsOpen.ends_append_torn {more : Bytes} {count : Nat} (isOpen : journal.IsOpen contents)
    (flushed : journal.pending = []) (begun : frame ≠ []) (nonempty : more ≠ [])
    (room : frame.length + more.length ≤ capacity)
    (framed : (JournalEntry.number (journal.sequence + 1) delta).encode = .ok more)
    (passed : faults (journal.files.steps + 1) = none) :
    Work.Ends (append delta) ((journal.torn frame count).withFaults faults) fun result after =>
      result = .ok (journal.sequence + 1) ∧ ∃ calm : Journal, after = calm.withFaults faults ∧
        calm.IsOpen (contents ++ frame ++ more) ∧ calm.pending = [] ∧
          calm.files.steps = journal.files.steps + 2 := by
  have sizes := And.intro (List.length_pos_iff.mpr begun) (List.length_pos_iff.mpr nonempty)
  have short : frame.length < capacity := by omega
  have left : (journal.torn frame count).pending = frame.drop count := if_pos short
  have fits : (journal.torn frame count).pending.length + more.length ≤ capacity := by
    rw [left, List.length_drop]
    omega
  have torn : (journal.torn frame count).IsOpen (contents ++ frame) := by
    obtain ⟨tidy, front, found, whole⟩ := isOpen
    obtain ⟨there, held⟩ := FileSystem.file?_eq_some.mp found
    refine ⟨tidy.tick.setBody _ _, _, tidy.tick.file?_setBody_self there, ?_⟩
    rw [left, whole, flushed, List.append_nil, List.append_assoc, List.take_append_drop, held]
  have calm := torn.ends_append_frame framed
  rw [@ends_append_of_room (journal.torn frame count) _ _ _ framed nonempty (by omega) fits,
    torn.tidy.quiet] at calm
  obtain ⟨-, isOpen, -⟩ := calm
  refine (@ends_append_of_room ((journal.torn frame count).withFaults faults) _ _ _ framed nonempty
    (by omega) fits).mpr ?_
  change match faults (journal.files.steps + 1) with | none => _ | some count => _
  rw [passed]
  exact ⟨rfl, _, rfl, isOpen, rfl, rfl⟩

/-- Files in which so many bytes of a frame have come to the journal. -/
structure Gains (files : FileSystem) (frame : Bytes) (count : Nat) (after : FileSystem) : Prop where
  /-- The directory is tidy. -/
  tidy : after.IsTidy
  /-- The bytes are behind those that were there. -/
  stored : ∀ contents, stored? files = some contents →
    stored? after = some (contents ++ frame.take count)

theorem IsSpelt.gains_of_setBody (spelt : journal.IsSpelt entries) {files : FileSystem}
    (tidy : files.IsTidy) {held : Bytes} (found : files.file? path = some (journal.body, held))
    {count : Nat} {added : Bytes}
    (grown : held ++ added = journal.files.body journal.body ++ frame.take count) :
    Gains journal.files frame count
      (files.tick.setBody journal.body (files.body journal.body ++ added)) := by
  obtain ⟨_, ⟨-, front, there, -⟩, -⟩ := spelt.isOpen
  obtain ⟨-, body⟩ := FileSystem.file?_eq_some.mp found
  obtain ⟨-, before⟩ := FileSystem.file?_eq_some.mp there
  refine ⟨tidy.tick.setBody _ _, fun contents stored => ?_⟩
  rw [stored?, there] at stored
  obtain rfl := Option.some.inj stored
  rw [stored?_setBody tidy found, body, grown, before]

theorem IsSpelt.gains_torn (spelt : journal.IsSpelt entries) (frame : Bytes) (count : Nat) :
    Gains journal.files frame count (journal.torn frame count).files := by
  have ⟨_, ⟨tidy, front, there, _⟩, _⟩ := spelt.isOpen
  obtain ⟨-, before⟩ := FileSystem.file?_eq_some.mp there
  exact spelt.gains_of_setBody tidy there (by rw [before])

/-- What is left of a frame in the buffer comes to the file when the journal is closed. -/
theorem IsSpelt.gains_close_torn (spelt : journal.IsSpelt entries) {frame : Bytes} {count : Nat}
    (passed : faults (journal.torn frame count).files.steps = none) :
    Gains journal.files frame (if frame.length < capacity then frame.length else count)
      ((journal.torn frame count).withFaults faults).close.restarted := by
  have torn := spelt.gains_torn frame count
  by_cases left : (journal.torn frame count).pending = []
  · have same : frame.take (if frame.length < capacity then frame.length else count) =
        frame.take count := by
      split
      · rename_i short
        rw [Journal.torn, if_pos short, List.drop_eq_nil_iff] at left
        rw [List.take_length, List.take_of_length_le left]
      · rfl
    have closed : ((journal.torn frame count).withFaults faults).close =
        (journal.torn frame count).files.withFaults faults := close_of_flushed left
    rw [closed, torn.tidy.restarted_withFaults]
    exact ⟨torn.tidy, same ▸ torn.stored⟩
  · have short : frame.length < capacity := by
      by_contra long
      exact left (if_neg long)
    have pending : (journal.torn frame count).pending = frame.drop count := if_pos short
    have ⟨_, ⟨tidy, front, there, _⟩, _⟩ := spelt.isOpen
    have found : (journal.torn frame count).files.file? path =
        some (journal.body, journal.files.body journal.body ++ frame.take count) :=
      tidy.tick.file?_setBody_self (FileSystem.file?_eq_some.mp there).1
    have flushed : Work.Ends flush ((journal.torn frame count).withFaults faults) fun _ after =>
        after.files = ((journal.torn frame count).files.tick.setBody journal.body
          ((journal.torn frame count).files.body journal.body ++ frame.drop count)).withFaults
            faults := by
      have unflushed : ((journal.torn frame count).withFaults faults).pending ≠ [] := left
      refine (ends_flush_planned unflushed).mpr ?_
      change match faults (journal.torn frame count).files.steps with
        | none => _
        | some count => _
      rw [passed, ← pending]
      rfl
    have closed : ((journal.torn frame count).withFaults faults).close = _ := flushed
    rw [closed, if_pos short, (torn.tidy.tick.setBody _ _).restarted_withFaults]
    refine spelt.gains_of_setBody torn.tidy found ?_
    rw [List.append_assoc, List.take_append_drop, List.take_length]

/-! ### Rewriting -/

/-- The file of the journal holds the frames of entries and nothing else. -/
structure Holds (files : FileSystem) (entries : List JournalEntry) : Prop where
  /-- The directory is tidy. -/
  tidy : files.IsTidy
  /-- The entries are spelt in the file. -/
  stored : ∃ bytes, stored? files = some (Frame.header ++ bytes) ∧ Spells 1 entries bytes

theorem IsOpen.stored (isOpen : journal.IsOpen contents) (flushed : journal.pending = []) :
    stored? journal.files = some contents := by
  obtain ⟨-, front, found, whole⟩ := isOpen
  rw [stored?, found, whole, flushed, List.append_nil]
  rfl

theorem IsSpelt.holds (spelt : journal.IsSpelt entries) : Holds journal.files entries := by
  obtain ⟨bytes, isOpen, spells⟩ := spelt.isOpen
  exact ⟨isOpen.tidy, bytes, isOpen.stored spelt.flushed, spells⟩

/-- What spares the file of the journal leaves the journal as it is. -/
theorem IsSpelt.of_spared (spelt : journal.IsSpelt entries) {files : FileSystem}
    (tidy : files.IsTidy) (spared : files.file? path = journal.files.file? path) :
    ({ journal with files := files } : Journal).IsSpelt entries := by
  obtain ⟨bytes, ⟨-, front, found, whole⟩, spells⟩ := spelt.isOpen
  exact ⟨⟨bytes, ⟨tidy, front, spared.trans found, whole⟩, spells⟩, spelt.flushed, spelt.counted⟩

theorem IsOpen.ends_size_withFaults (isOpen : journal.IsOpen contents)
    (flushed : journal.pending = []) {goal : Except FileFault Nat → Journal → Prop}
    (passes : faults journal.files.steps = none → goal (.ok contents.length)
      ({ journal with files := journal.files.tick }.withFaults faults))
    (fails : ∀ count, faults journal.files.steps = some count →
      goal (.error .refused) ({ journal with files := journal.files.tick }.withFaults faults)) :
    Work.Ends size (journal.withFaults faults) goal := by
  refine ends_onFiles.mpr ((FileSystem.isStep_size path).ends_withFaults isOpen.tidy.toIsCalm
    (fun passed => ?_) fails)
  have sized : Work.Ends size journal fun result after =>
      after.files.steps = journal.files.steps + 1 → goal result (after.withFaults faults) :=
    (ends_size isOpen flushed).mpr fun _ => passes passed
  exact sized

/-- What has become of a journal of entries that was to be rewritten from changes under a plan of
faults. -/
structure IsRewritten (journal : Journal) (faults : Nat → Option Nat) (entries : List JournalEntry)
    (deltas : List Delta) (result : Except FileFault Unit) (after : Journal) : Prop where
  /-- A step has been taken. -/
  steps_lt : journal.files.steps < after.files.steps
  /-- No more than four steps have been taken. -/
  steps_le : after.files.steps ≤ journal.files.steps + 4
  /-- It is rewritten if all steps that it takes succeed and the entries of the changes can be
  written. -/
  done_iff : result = .ok () ↔
    Passes faults journal.files.steps after.files.steps ∧ areEncoded 1 deltas = true
  /-- Nothing is left to be written. -/
  flushed : after.pending = []
  /-- The old entries are there or the new ones.  They are spelt in the file that is written to,
  unless it is the last of the steps that has failed. -/
  kept : ∃ others, (others = entries ∨ others = numberFrom 1 deltas) ∧ Holds after.files others ∧
    ((after.files.steps = journal.files.steps + 4 → faults (journal.files.steps + 3) = none) →
      after.IsSpelt others)

/-- The journal stays as it is when a step before the last one fails. -/
theorem IsSpelt.isRewritten_of_error (spelt : journal.IsSpelt entries) {files : FileSystem}
    (before : Nat) (early : before < 3) (steps : files.steps = journal.files.steps + before + 1)
    (tidy : files.IsTidy) (spared : files.file? path = journal.files.file? path)
    (failed : ¬(Passes faults journal.files.steps files.steps ∧ areEncoded 1 deltas = true))
    (fault : FileFault) :
    journal.IsRewritten faults entries deltas (.error fault) { journal with files := files } where
  steps_lt := by
    rw [steps]
    omega
  steps_le := by
    rw [steps]
    omega
  done_iff := ⟨fun done => (nomatch done), fun passes => absurd passes failed⟩
  flushed := spelt.flushed
  kept :=
    have still := spelt.of_spared tidy spared
    ⟨entries, .inl rfl, still.holds, fun _ => still⟩

section Rewriting

variable {files : FileSystem} {number : Nat} {bytes : Bytes} (spelt : journal.IsSpelt entries)
  (tidy : files.IsTidy) (passed : Passes faults journal.files.steps files.steps)
  (frames : Frames 1 deltas bytes) (all : areEncoded 1 deltas = true)

include spelt tidy passed frames all

/-- The new journal is there; it is opened, or the old one is still the one that is written to. -/
theorem IsSpelt.ends_opening_withFaults (steps : files.steps = journal.files.steps + 3)
    (moved : files.file? path = some (number, Frame.header ++ bytes)) :
    Work.Ends (do
      let number ← onFiles (FileSystem.openToAppend path)
      modify fun journal =>
        { journal with body := number, pending := [], sequence := deltas.length })
      ({ journal with files := files }.withFaults faults) fun result after =>
        ∃ calm, after = calm.withFaults faults ∧
          journal.IsRewritten faults entries deltas result calm := by
  have holds : Holds files.tick (numberFrom 1 deltas) :=
    ⟨tidy.tick, bytes, congrArg (Option.map Prod.snd) moved, frames.spells⟩
  have last : files.tick.steps = journal.files.steps + 4 := congrArg (· + 1) steps
  refine Work.ends_bind.mpr (ends_onFiles.mpr
    ((FileSystem.isStep_openToAppend path).ends_withFaults tidy.toIsCalm (fun opened => ?_)
      fun count failed => ?_))
  case refine_2 =>
    refine ⟨{ journal with files := files.tick }, rfl, by rw [last]; omega, last.le, ?_,
      spelt.flushed, _, .inr rfl, holds, fun opened => ?_⟩
    · exact ⟨fun done => (nomatch done),
        fun both => absurd both.1 (FileSystem.not_passes (by omega) failed)⟩
    · rw [steps, opened last] at failed
      cases failed
  replace passed := passed.succ opened
  have located := tidy.locate_file isFile_path moved
  change files.locate path = _ at located
  refine (FileSystem.ends_openToAppend tidy.toIsCalm).mpr ?_
  rw [located]
  refine fun _ => Work.ends_modify.mpr ⟨⟨files.tick, number, [], deltas.length⟩, rfl,
    by rw [last]; omega, last.le, ⟨fun _ => ⟨passed, all⟩, fun _ => rfl⟩, rfl, _, .inr rfl, holds,
    fun _ => ?_⟩
  exact ⟨⟨bytes, ⟨tidy.tick, _, moved, (List.append_nil _).symm⟩, frames.spells⟩, rfl,
    (length_numberFrom _ _).symm⟩

/-- The file beside the journal is filled and takes its place. -/
theorem IsSpelt.ends_filling_withFaults (steps : files.steps = journal.files.steps + 1)
    (created : files.file? pathAside = some (number, []))
    (there : files.file? path = journal.files.file? path) :
    Work.Ends (do
      onFiles (FileSystem.write number (Frame.header ++ bytes))
      onFiles (FileSystem.rename pathAside path)
      let number ← onFiles (FileSystem.openToAppend path)
      modify fun journal =>
        { journal with body := number, pending := [], sequence := deltas.length })
      ({ journal with files := files }.withFaults faults) fun result after =>
        ∃ calm, after = calm.withFaults faults ∧
          journal.IsRewritten faults entries deltas result calm := by
  have apart : path ∉ [pathAside] := by decide
  refine Work.ends_bind.mpr (ends_onFiles.mpr (FileSystem.ends_write_withFaults tidy.toIsCalm
    (fun filled => ?_) fun count failed => ?_))
  case refine_2 =>
    obtain ⟨beside, -⟩ := FileSystem.file?_eq_some.mp created
    exact ⟨_, rfl, spelt.isRewritten_of_error 1 (by decide) (congrArg (· + 1) steps)
      (tidy.tick.setBody _ _) ((tidy.tick.file?_setBody isFile_pathAside.plain isFile_path.plain
        beside (by decide)).trans there)
      (fun both => FileSystem.not_passes (by omega) failed both.1) _⟩
  replace passed := passed.succ filled
  refine (tidy.ends_write isFile_pathAside.plain created).imp fun _ files done more => ?_
  obtain ⟨rfl, tidy, written, spared, -⟩ := done
  replace there := (spared.file path isFile_path.plain apart).trans there
  rw [← more] at passed
  rw [steps] at more
  refine Work.ends_bind.mpr (ends_onFiles.mpr ((FileSystem.isStep_rename _ _).ends_withFaults
    tidy.toIsCalm (fun renamed => ?_) fun count failed => ?_))
  case refine_2 =>
    exact ⟨_, rfl, spelt.isRewritten_of_error 2 (by decide) (congrArg (· + 1) more) tidy.tick there
      (fun both => FileSystem.not_passes (by omega) failed both.1) _⟩
  replace passed := passed.succ renamed
  refine (tidy.ends_rename isFile_pathAside isFile_path written trivial (by decide)).imp
    fun _ files done last => ?_
  obtain ⟨rfl, tidy, moved, -, -⟩ := done
  rw [← last] at passed
  rw [more] at last
  exact spelt.ends_opening_withFaults tidy passed frames all last moved

end Rewriting

/-- Whichever of its steps fails, a journal is rewritten or stays as it is. -/
theorem IsSpelt.ends_rewrite_withFaults (spelt : journal.IsSpelt entries)
    (made : ∀ delta ∈ deltas, delta.IsMade) (fits : deltas.length < 2 ^ 64) :
    Work.Ends (rewrite deltas) (journal.withFaults faults) fun result after =>
      ∃ calm, after = calm.withFaults faults ∧
        journal.IsRewritten faults entries deltas result calm := by
  have ⟨_, ⟨tidy, _⟩, _⟩ := spelt.isOpen
  have flushed : (journal.withFaults faults).pending = [] := spelt.flushed
  have passed : Passes faults journal.files.steps journal.files.steps := FileSystem.passes_self _
  refine Work.ends_bind.mpr ((ends_flush_iff_of_flushed flushed).mpr ?_)
  -- A file is created beside the journal.
  refine Work.ends_bind.mpr (ends_onFiles.mpr ((FileSystem.isStep_create pathAside).ends_withFaults
    tidy.toIsCalm (fun created => ?_) fun count failed => ?_))
  case refine_2 =>
    exact ⟨_, rfl, spelt.isRewritten_of_error 0 (by decide) rfl tidy.tick rfl
      (fun both => FileSystem.not_passes le_rfl failed both.1) _⟩
  replace passed := passed.succ created
  refine (tidy.ends_create isFile_pathAside trivial).imp fun _ files done steps => ?_
  obtain ⟨number, rfl, tidy, created, spared, -⟩ := done
  have there := spared.file path isFile_path.plain (by decide)
  rw [← steps] at passed
  -- The entries are encoded, and unless one of them is too long, they are written to this file.
  refine Work.ends_bind.mpr ?_
  cases all : areEncoded 1 deltas with
  | false =>
      refine (ends_encodedFrom_of_not all).imp fun _ after done => ?_
      obtain ⟨⟨fault, rfl⟩, rfl⟩ := done
      exact ⟨_, rfl, spelt.isRewritten_of_error 0 (by decide) steps tidy there (by simp [all]) _⟩
  | true =>
      have kept := (frames_of_areEncoded made (by omega) all).areKept
      refine (ends_encodedFrom kept).imp fun _ after done => ?_
      obtain ⟨rfl, bytes, rfl, frames⟩ := done
      exact spelt.ends_filling_withFaults tidy passed frames all steps created there

end Journal

end ShelfLibrary
