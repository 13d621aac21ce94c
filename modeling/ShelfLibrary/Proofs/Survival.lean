import ShelfLibrary.Proofs.Faltering

/-!
# Changes that survive

Stores are asked for one change after another while any step on their files may fail.  A change
that has come to the journal is made and survives, whether it is acknowledged or not: a later step
may have failed.  So does the next one, unless a frame was torn, or a journal that had taken the
place of another one was not opened.  After a torn frame the next change can be lost.
-/

namespace ShelfLibrary

open FileSystem (Passes)

variable {files : FileSystem} {faults : Nat → Option Nat} {entries : List JournalEntry}
  {delta : Delta} {deltas : List Delta} {nodes next : Table Entry} {bytes frame : Bytes}

/-- Entries tell the table that they make. -/
theorem Journal.Holds.tells (holds : Journal.Holds files entries)
    (replayed : DiskStores.tableOf [] entries = .ok nodes) : files.Tells nodes := by
  obtain ⟨tidy, bytes, stored, spells⟩ := holds
  exact ⟨tidy, entries, bytes, [], by rwa [List.append_nil], spells, Journal.stops_nil, replayed⟩

namespace DiskStores

variable {stores : DiskStores}

/-- The stores with a plan of faults. -/
def withFaults (stores : DiskStores) (faults : Nat → Option Nat) : DiskStores :=
  { stores with journal := stores.journal.withFaults faults }

/-- The stores after the entry of a change has been appended in part. -/
def torn (stores : DiskStores) (frame : Bytes) (count : Nat) : DiskStores :=
  { stores with journal := stores.journal.torn frame count }

/-! ## The journal after a change -/

/-- Rewrites the journal if it has become too long. -/
def tend (limit : Nat) : Task Unit := do
  let size ← onJournal Journal.size
  if limit < size then compact

/-- What has become of stores whose journal was looked after under a plan of faults, once it had
taken a change. -/
structure IsTended (stores : DiskStores) (faults : Nat → Option Nat) (entries : List JournalEntry)
    (result : Except StorageError Unit) (after : DiskStores) : Prop where
  /-- The nodes stay. -/
  nodes_eq : after.nodes = stores.nodes
  /-- A step has been taken. -/
  steps_lt : stores.journal.files.steps < after.journal.files.steps
  /-- No more than five steps have been taken. -/
  steps_le : after.journal.files.steps ≤ stores.journal.files.steps + 5
  /-- The change is acknowledged if all steps that are taken succeed and the entries can be written,
  if it comes to that. -/
  done_iff : result = .ok () ↔
    Passes faults stores.journal.files.steps after.journal.files.steps ∧
      (stores.journal.files.steps + 1 < after.journal.files.steps →
        Journal.areEncoded 1 (puts stores.nodes) = true)
  /-- Nothing is left to be written. -/
  flushed : after.journal.pending = []
  /-- The journal tells the nodes. -/
  tells : after.journal.files.Tells stores.nodes
  /-- The journal makes the nodes, unless it is the last of the steps that has failed. -/
  live : (after.journal.files.steps = stores.journal.files.steps + 5 →
    faults (stores.journal.files.steps + 4) = none) →
      ∃ others, after.IsLive others ∧ others.length ≤ entries.length

/-- Stores stay live when nothing but the size of the journal has been asked for. -/
theorem IsLive.isTended_tick (live : stores.IsLive entries) {result : Except StorageError Unit}
    (done : result = .ok () ↔
      Passes faults stores.journal.files.steps (stores.journal.files.steps + 1)) :
    stores.IsTended faults entries result
      { stores with journal.files := stores.journal.files.tick } where
  nodes_eq := rfl
  steps_lt := Nat.lt_succ_self _
  steps_le := Nat.add_le_add_left (by decide) _
  done_iff := done.trans (and_iff_left fun more => absurd more (lt_irrefl _)).symm
  flushed := live.spelt.flushed
  tells := live.tick.tells
  live := fun _ => ⟨entries, live.tick, le_rfl⟩

/-- Whichever step fails after a change has been taken down, the journal tells the nodes. -/
theorem IsLive.ends_tend (live : stores.IsLive entries) (fits : entries.length < 2 ^ 64)
    (limit : Nat) :
    Work.Ends (tend limit) (stores.withFaults faults) fun result after =>
      ∃ calm, after = calm.withFaults faults ∧ stores.IsTended faults entries result calm := by
  have proper := live.areProper
  have few : (puts stores.nodes).length ≤ entries.length := by
    rw [puts, List.length_map]
    exact proper.few
  obtain ⟨bytes, isOpen, -⟩ := live.spelt.isOpen
  refine Work.ends_bind.mpr (ends_onJournal.mpr (isOpen.ends_size_withFaults live.spelt.flushed
    (fun measured => ?_) fun count failed => ?_))
  case refine_2 =>
    exact ⟨_, rfl, live.isTended_tick (iff_of_false (by simp)
      (FileSystem.not_passes le_rfl failed))⟩
  simp only [Result.mapError_ok]
  split
  case isFalse =>
    have passed : Passes faults stores.journal.files.steps (stores.journal.files.steps + 1) :=
      (FileSystem.passes_self _).succ measured
    exact ⟨_, rfl, live.isTended_tick ⟨fun _ => passed, fun _ => rfl⟩⟩
  refine Work.ends_bind.mpr (Work.ends_get.mpr (ends_onJournal.mpr ?_))
  refine (live.tick.spelt.ends_rewrite_withFaults proper.isMade_of_mem_puts (by omega)).imp ?_
  rintro result _ ⟨journal, rfl, rewritten⟩
  obtain ⟨others, which, holds, spelt⟩ := rewritten.kept
  have replayed : tableOf [] others = .ok stores.nodes ∧ others.length ≤ entries.length := by
    rcases which with rfl | rfl
    · exact ⟨live.replayed, le_rfl⟩
    · exact ⟨Journal.tableOf_puts proper.sorted, by rwa [Journal.length_numberFrom]⟩
  have later : stores.journal.files.steps + 1 < journal.files.steps := rewritten.steps_lt
  exact ⟨{ stores with journal := journal }, rfl, {
    nodes_eq := rfl
    steps_lt := Nat.lt_of_succ_lt later
    steps_le := rewritten.steps_le
    done_iff := Result.mapError_eq_ok.trans (rewritten.done_iff.trans (and_congr
      (FileSystem.passes_iff_of_passed measured).symm ⟨fun all _ => all, fun all => all later⟩))
    flushed := rewritten.flushed
    tells := holds.tells replayed.1
    live := fun opened => ⟨others, ⟨spelt opened, replayed.1⟩, replayed.2⟩ }⟩

/-! ## Calls -/

/-- The steps of a change, in their order. -/
inductive ChangeStep where
  /-- Its entry is appended to the journal. -/
  | append
  /-- The size of the journal is asked for. -/
  | measure
  /-- If the journal has become too long, a file is created beside it. -/
  | create
  /-- The entries of all nodes are written to this file. -/
  | fill
  /-- It takes the place of the journal. -/
  | rename
  /-- It is opened. -/
  | reopen

/-- How many steps of a change come before one. -/
def ChangeStep.index : ChangeStep → Nat
  | .append => 0
  | .measure => 1
  | .create => 2
  | .fill => 3
  | .rename => 4
  | .reopen => 5

theorem ChangeStep.exists_index {n : Nat} (few : n < 6) : ∃ step : ChangeStep, step.index = n := by
  interval_cases n
  · exact ⟨.append, rfl⟩
  · exact ⟨.measure, rfl⟩
  · exact ⟨.create, rfl⟩
  · exact ⟨.fill, rfl⟩
  · exact ⟨.rename, rfl⟩
  · exact ⟨.reopen, rfl⟩

/-- A change that stores are asked for. -/
structure Call where
  /-- The stores before. -/
  before : DiskStores
  /-- The change. -/
  delta : Delta

namespace Call

/-- The answer. -/
def result (call : Call) : Except StorageError Unit := ((change call.delta).run call.before).1

/-- The stores afterwards. -/
def after (call : Call) : DiskStores := ((change call.delta).run call.before).2

/-- The entry of the change. -/
def entry (call : Call) : JournalEntry := .number (call.before.journal.sequence + 1) call.delta

/-- What is to be appended to the journal: nothing if the change does not fit the nodes, or its
entry does not fit a frame. -/
def frame? (call : Call) : Option Bytes :=
  match call.delta.check call.before.nodes with
  | .ok () => call.entry.encode.toOption
  | .error _ => none

/-- The fault that is planned for a step. -/
def fault? (call : Call) (step : ChangeStep) : Option Nat :=
  call.before.journal.files.faults (call.before.journal.files.steps + step.index)

/-- The call has come to a step. -/
def Takes (call : Call) (step : ChangeStep) : Prop :=
  call.before.journal.files.steps + step.index < call.after.journal.files.steps

/-- An entry is appended or leaves nothing behind, and a journal that has replaced another is
opened. -/
structure IsSteady (call : Call) : Prop where
  /-- If the entry is not appended, it does not go to the buffer, and none of its bytes to the
  file. -/
  appended : ∀ frame count, call.frame? = some frame → call.fault? .append = some count →
    Journal.capacity ≤ frame.length ∧ count = 0
  /-- The journal is opened. -/
  reopened : call.Takes .reopen → call.fault? .reopen = none

/-- The nodes that are read back when so many bytes of a frame have come to the file. -/
def nodesAfter (call : Call) (frame : Bytes) (count : Nat) : Table Entry :=
  if count < frame.length then call.before.nodes else call.delta.applyTo call.before.nodes

end Call

/-- The files that may be found once stores have been left: what is in the buffer is lost with the
process, or it has been written out. -/
def Leaves (stores : DiskStores) (files : FileSystem) : Prop :=
  files = stores.journal.files.restarted ∨ files = stores.journal.close.restarted

/-- However stores are left, they are opened again with these nodes. -/
def Restores (stores : DiskStores) (nodes : Table Entry) : Prop :=
  ∀ files, stores.Leaves files → Reopens files stores.directory (· = nodes)

/-- What becomes of a change that stores are asked for. -/
structure Call.Settles (call : Call) : Prop where
  /-- A change that does not fit is refused, and nothing is done. -/
  refused : call.frame? = none → (∃ cause, call.result = .error cause) ∧ call.after = call.before
  /-- A change whose entry is not appended is refused, and the nodes stay.  It is read back all the
  same if its whole frame has come to the file, as it does when the buffer is written out. -/
  unwritten : ∀ frame count, call.frame? = some frame → call.fault? .append = some count →
    call.result = .error .io ∧ call.after.nodes = call.before.nodes ∧
      Reopens call.after.journal.files.restarted call.after.directory
        (· = call.nodesAfter frame count) ∧
      (call.after.journal.files.faults call.after.journal.files.steps = none →
        Reopens call.after.journal.close.restarted call.after.directory
          (· = call.nodesAfter frame
            (if frame.length < Journal.capacity then frame.length else count)))
  /-- A change whose entry is appended is made and survives.  It is acknowledged if no later step
  fails and the journal can be rewritten, if it comes to that. -/
  written : ∀ frame, call.frame? = some frame → call.fault? .append = none →
    call.after.nodes = call.delta.applyTo call.before.nodes ∧ call.after.Restores call.after.nodes ∧
      (call.result = .ok () ↔ (∀ step, call.Takes step → call.fault? step = none) ∧
        (call.Takes .create → Journal.areEncoded 1 (puts call.after.nodes) = true))

/-- The entry of the change is appended to the journal. -/
def Call.isEntered (call : Call) : Bool := call.frame?.isSome && (call.fault? .append).isNone

/-- The calls by which changes are asked for one after another. -/
def calls (stores : DiskStores) : List Delta → List Call
  | [] => []
  | delta :: rest => ⟨stores, delta⟩ :: calls (Call.after ⟨stores, delta⟩) rest

/-- The stores after changes have been asked for. -/
def changeAll (stores : DiskStores) : List Delta → DiskStores
  | [] => stores
  | delta :: rest => changeAll (Call.after ⟨stores, delta⟩) rest

namespace Call

variable {call : Call}

theorem of_frame?_eq_some (framed : call.frame? = some frame) :
    call.delta.apply call.before.nodes = .ok (call.delta.applyTo call.before.nodes) ∧
      call.entry.encode = .ok frame := by
  rw [frame?] at framed
  cases checked : call.delta.check call.before.nodes with
  | error cause => simp [checked] at framed
  | ok fits =>
      simp only [checked] at framed
      refine ⟨by simp [Delta.apply, checked, bind, Except.bind, pure, Except.pure], ?_⟩
      cases encoded : call.entry.encode with
      | error fault => simp [encoded, Except.toOption] at framed
      | ok bytes => simpa [encoded, Except.toOption] using framed

/-- A change that does not come to the journal has no effect. -/
theorem ends_change_of_none (unframed : call.frame? = none) :
    Work.Ends (change call.delta) call.before fun result after =>
      (∃ cause, result = .error cause) ∧ after = call.before := by
  rw [change, Work.ends_bind]
  simp only [Work.ends_get]
  cases applied : call.delta.apply call.before.nodes with
  | error cause => exact ⟨⟨cause, rfl⟩, rfl⟩
  | ok nodes =>
      have fits : call.delta.check call.before.nodes = .ok () := by
        cases checked : call.delta.check call.before.nodes with
        | ok _ => rfl
        | error cause => simp [Delta.apply, checked, bind, Except.bind] at applied
      rw [frame?, fits] at unframed
      simp only [Work.ends_bind, ends_onJournal]
      cases encoded : call.entry.encode with
      | ok frame => simp [encoded, Except.toOption] at unframed
      | error fault =>
          refine (Journal.ends_append_of_not encoded).imp fun _ _ done => ?_
          obtain ⟨rfl, rfl⟩ := done
          exact ⟨⟨.io, rfl⟩, rfl⟩

theorem ne_nil_of_frame? (framed : call.frame? = some frame) : frame ≠ [] := by
  rintro rfl
  cases Frame.length_of_encode (of_frame?_eq_some framed).2

/-- A change that comes to the journal is made once its entry has been appended. -/
theorem ends_change_iff (framed : call.frame? = some frame)
    {goal : Except StorageError Unit → DiskStores → Prop} :
    Work.Ends (change call.delta) call.before goal ↔
      Work.Ends (Journal.append call.delta) call.before.journal fun result journal =>
        match result with
        | .ok _ => Work.Ends (tend call.before.maxJournalSize)
            { call.before with
              journal := journal
              nodes := call.delta.applyTo call.before.nodes } goal
        | .error _ => goal (.error .io) { call.before with journal := journal } := by
  rw [change, Work.ends_bind]
  simp only [Work.ends_get, (of_frame?_eq_some framed).1, Work.ends_bind, ends_onJournal]
  refine iff_of_eq (congrArg (Work.Ends _ _) (funext fun result => funext fun journal => ?_))
  cases result with
  | ok count =>
      simp only [Result.mapError_ok, Work.ends_modify, tend, Work.ends_bind, ends_onJournal]
  | error fault => rfl

/-- That is done in one step if the buffer is empty. -/
theorem ends_change (framed : call.frame? = some frame)
    (flushed : call.before.journal.pending = [])
    {goal : Except StorageError Unit → DiskStores → Prop} :
    Work.Ends (change call.delta) call.before goal ↔
      match call.fault? .append with
      | none => Work.Ends (tend call.before.maxJournalSize)
          { call.before with
            journal := call.before.journal.extended frame
            nodes := call.delta.applyTo call.before.nodes } goal
      | some count => goal (.error .io) (call.before.torn frame count) := by
  rw [ends_change_iff framed, Journal.ends_append_planned flushed (of_frame?_eq_some framed).2
    (ne_nil_of_frame? framed)]
  exact Iff.rfl

/-- A change whose entry is not appended leaves a torn frame. -/
theorem of_unwritten (framed : call.frame? = some frame)
    (flushed : call.before.journal.pending = []) {count : Nat}
    (failed : call.fault? .append = some count) :
    call.result = .error .io ∧ call.after = call.before.torn frame count := by
  have ended : Work.Ends (change call.delta) call.before fun result after =>
      result = .error .io ∧ after = call.before.torn frame count := by
    rw [ends_change framed flushed, failed]
    exact ⟨rfl, rfl⟩
  exact ended

end Call

/-! ## Calls of live stores -/

theorem restarted_withFaults (calm : stores.journal.files.IsCalm) :
    (stores.withFaults faults).journal.files.restarted = stores.journal.files :=
  calm.restarted_withFaults faults

/-- Stores with an empty buffer are opened again with the nodes that their journal tells. -/
theorem restores_of_tells (flushed : stores.journal.pending = [])
    (tells : stores.journal.files.Tells nodes) : (stores.withFaults faults).Restores nodes := by
  have closed : (stores.withFaults faults).journal.close =
      (stores.withFaults faults).journal.files := Journal.close_of_flushed flushed
  rintro files (rfl | rfl)
  · rw [restarted_withFaults tells.tidy.toIsCalm]
    exact reopens_of_tells tells rfl
  · rw [closed, restarted_withFaults tells.tidy.toIsCalm]
    exact reopens_of_tells tells rfl

section Live

variable (live : stores.IsLive entries) (made : delta.IsMade) (fits : entries.length + 1 < 2 ^ 64)
  (framed : (Call.mk (stores.withFaults faults) delta).frame? = some frame)

include live made fits framed

/-- What is read back tells how much of a frame has come to the file. -/
theorem IsLive.reopens_nodesAfter {left : FileSystem} {count : Nat}
    (gains : Journal.Gains stores.journal.files frame count left) (directory : String) :
    Reopens left directory
      (· = (Call.mk (stores.withFaults faults) delta).nodesAfter frame count) := by
  obtain ⟨applied, encoded⟩ := Call.of_frame?_eq_some framed
  obtain ⟨-, bytes, held, spells⟩ := live.spelt.holds
  have stored := gains.stored _ held
  replace encoded : (JournalEntry.number (entries.length + 1) delta).encode = .ok frame :=
    live.spelt.counted ▸ encoded
  rw [Call.nodesAfter]
  split
  · rename_i short
    exact reopens_of_tells (live.tells_of_short encoded spells gains.tidy stored short) rfl
  · rename_i whole
    rw [List.take_of_length_le (Nat.le_of_not_lt whole)] at stored
    exact reopens_of_tells (live.tells_of_whole made fits encoded applied spells gains.tidy stored)
      rfl

/-- A change that has been appended leaves live stores, if the journal was not replaced in vain. -/
theorem IsLive.ends_change_appended
    (appended : (Call.mk (stores.withFaults faults) delta).fault? .append = none) :
    Work.Ends (change delta) (stores.withFaults faults) fun result after =>
      ∃ calm, after = calm.withFaults faults ∧
        { stores with
          journal := stores.journal.extended frame
          nodes := delta.applyTo stores.nodes : DiskStores }.IsTended faults
            (entries ++ [.number (entries.length + 1) delta]) result calm := by
  obtain ⟨applied, encoded⟩ := Call.of_frame?_eq_some framed
  have grown : { stores with
      journal := stores.journal.extended frame
      nodes := delta.applyTo stores.nodes : DiskStores }.IsLive
        (entries ++ [.number (entries.length + 1) delta]) :=
    ⟨live.spelt.extended made fits encoded, Journal.tableOf_append live.replayed applied⟩
  refine (Call.ends_change framed live.spelt.flushed).mpr ?_
  rw [appended]
  exact grown.ends_tend (by simpa using fits) _

end Live

/-- No step that a call takes fails if none fails while it lasts. -/
theorem Call.forall_takes_iff {call : Call}
    (most : call.after.journal.files.steps ≤ call.before.journal.files.steps + 6) :
    (∀ step, call.Takes step → call.fault? step = none) ↔
      Passes call.before.journal.files.faults call.before.journal.files.steps
        call.after.journal.files.steps := by
  refine ⟨fun taken n early late => ?_, fun passes step taken => ?_⟩
  · obtain ⟨step, same⟩ := ChangeStep.exists_index
      (show n - call.before.journal.files.steps < 6 by omega)
    have whole : call.before.journal.files.steps + step.index = n := by omega
    have passed := taken step (by rwa [Call.Takes, whole])
    rwa [Call.fault?, whole] at passed
  · exact passes _ (Nat.le_add_right _ _) taken

/-- A change that live stores are asked for settles, whichever of its steps fails. -/
theorem IsLive.settles (live : stores.IsLive entries) (made : delta.IsMade)
    (fits : entries.length + 1 < 2 ^ 64) :
    (Call.mk (stores.withFaults faults) delta).Settles where
  refused unframed := Call.ends_change_of_none unframed
  unwritten frame count framed failed := by
    obtain ⟨result, after⟩ := Call.of_unwritten framed live.spelt.flushed failed
    rw [after]
    refine ⟨result, rfl, ?_, fun passed => ?_⟩
    · have gains := live.spelt.gains_torn frame count
      have left : ((stores.withFaults faults).journal.torn frame count).files.restarted =
        (stores.journal.torn frame count).files := gains.tidy.restarted_withFaults faults
      exact left ▸ live.reopens_nodesAfter made fits framed gains _
    · exact live.reopens_nodesAfter made fits framed (live.spelt.gains_close_torn passed) _
  written frame framed appended := by
    obtain ⟨calm, after, tended⟩ := live.ends_change_appended made fits framed appended
    change (Call.mk (stores.withFaults faults) delta).after = _ at after
    have begun : faults stores.journal.files.steps = none := appended
    have most : calm.journal.files.steps ≤ stores.journal.files.steps + 6 := tended.steps_le
    rw [Call.forall_takes_iff (after ▸ most), after]
    refine ⟨tended.nodes_eq, restores_of_tells tended.flushed (tended.nodes_eq ▸ tended.tells), ?_⟩
    refine tended.done_iff.trans (and_congr ?_ ?_)
    · exact (FileSystem.passes_iff_of_passed begun).symm
    · have made : (calm.withFaults faults).nodes = delta.applyTo stores.nodes := tended.nodes_eq
      rw [Call.Takes, after, made]
      exact Iff.rfl

/-- A steady call leaves live stores, with the nodes that its change makes if it has come to the
journal. -/
theorem IsLive.of_isSteady (live : stores.IsLive entries) (made : delta.IsMade)
    (fits : entries.length + 1 < 2 ^ 64)
    (steady : (Call.mk (stores.withFaults faults) delta).IsSteady) :
    ∃ (calm : DiskStores) (others : List JournalEntry),
      (Call.mk (stores.withFaults faults) delta).after = calm.withFaults faults ∧
        calm.IsLive others ∧ others.length ≤ entries.length + 1 ∧
          (if (Call.mk (stores.withFaults faults) delta).isEntered then delta.apply stores.nodes
            else .ok stores.nodes) = .ok calm.nodes := by
  rw [Call.isEntered]
  cases framed : (Call.mk (stores.withFaults faults) delta).frame? with
  | none =>
      obtain ⟨-, after⟩ := Call.ends_change_of_none framed
      exact ⟨stores, entries, after, live, Nat.le_succ _, rfl⟩
  | some frame =>
      cases appended : (Call.mk (stores.withFaults faults) delta).fault? .append with
      | none =>
          obtain ⟨calm, after, tended⟩ := live.ends_change_appended made fits framed appended
          change (Call.mk (stores.withFaults faults) delta).after = _ at after
          obtain ⟨others, live, few⟩ := tended.live fun last => by
            refine steady.reopened ?_
            replace last : calm.journal.files.steps = stores.journal.files.steps + 6 := last
            rw [Call.Takes, after]
            change stores.journal.files.steps + 5 < calm.journal.files.steps
            omega
          refine ⟨calm, others, after, live, by simpa using few, ?_⟩
          rw [tended.nodes_eq]
          exact (Call.of_frame?_eq_some framed).1
      | some count =>
          obtain ⟨-, after⟩ := Call.of_unwritten framed live.spelt.flushed appended
          obtain ⟨long, rfl⟩ := steady.appended frame count framed appended
          exact ⟨stores.torn frame 0, entries, after, ⟨live.spelt.torn_of_long long, live.replayed⟩,
            Nat.le_succ _, rfl⟩

section Torn

variable {other : Delta} {more held : Bytes} {count : Nat}

/-- Files in which a frame is followed by another one with the same number tell the change of the
first one. -/
theorem IsLive.tells_of_same_number (live : stores.IsLive entries) (made : delta.IsMade)
    (fits : entries.length + 1 < 2 ^ 64) (applied : delta.apply stores.nodes = .ok next)
    (framed : (JournalEntry.number (entries.length + 1) delta).encode = .ok frame)
    (otherMade : other.IsMade)
    (otherFramed : (JournalEntry.number (entries.length + 1) other).encode = .ok more)
    (spells : Journal.Spells 1 entries bytes) (tidy : files.IsTidy)
    (stored : Journal.stored? files = some (Frame.header ++ bytes ++ frame ++ more)) :
    files.Tells next := by
  have stops := Journal.stops_of_encode otherMade fits otherFramed
    (show _ ≠ 1 + (entries.length + 1) by omega) []
  rw [List.append_nil] at stops
  refine ⟨tidy, entries ++ [.number (entries.length + 1) delta], bytes ++ frame, more, ?_,
    spells.append_change made fits framed, by simpa using stops,
    Journal.tableOf_append live.replayed applied⟩
  rwa [← List.append_assoc]

/-- A change whose entry could not be appended is made when the stores are opened again, and the
next change, which is acknowledged, is lost: both entries have the same number.  That is so if both
frames fit the buffer and the journal does not become too long. -/
theorem IsLive.ends_change_torn (live : stores.IsLive entries) (made : delta.IsMade)
    (fits : entries.length + 1 < 2 ^ 64)
    (framed : (Call.mk (stores.withFaults faults) delta).frame? = some frame)
    (otherMade : other.IsMade)
    (otherFramed : (Call.mk ((stores.torn frame count).withFaults faults) other).frame? = some more)
    (appended : faults (stores.journal.files.steps + 1) = none)
    (measured : faults (stores.journal.files.steps + 2) = none)
    (room : frame.length + more.length ≤ Journal.capacity)
    (stored : Journal.stored? stores.journal.files = some held)
    (within : (held ++ frame ++ more).length ≤ stores.maxJournalSize) :
    Work.Ends (change other) ((stores.torn frame count).withFaults faults) fun result after =>
      result = .ok () ∧ after.nodes = other.applyTo stores.nodes ∧
        after.Restores (delta.applyTo stores.nodes) := by
  have applied : delta.apply stores.nodes = .ok (delta.applyTo stores.nodes) :=
    (Call.of_frame?_eq_some framed).1
  have encoded : (JournalEntry.number (stores.journal.sequence + 1) delta).encode = .ok frame :=
    (Call.of_frame?_eq_some framed).2
  have otherEncoded : (JournalEntry.number (stores.journal.sequence + 1) other).encode = .ok more :=
    (Call.of_frame?_eq_some otherFramed).2
  obtain ⟨bytes, isOpen, spells⟩ := live.spelt.isOpen
  obtain rfl : Frame.header ++ bytes = held :=
    Option.some.inj ((isOpen.stored live.spelt.flushed).symm.trans stored)
  refine (Call.ends_change_iff otherFramed).mpr ((isOpen.ends_append_torn live.spelt.flushed
    (Call.ne_nil_of_frame? framed) (Call.ne_nil_of_frame? otherFramed) room otherEncoded
      appended).imp fun result _ done => ?_)
  obtain ⟨rfl, journal, rfl, mended, flushed, steps⟩ := done
  rw [live.spelt.counted] at encoded otherEncoded
  have tells : journal.files.tick.Tells (delta.applyTo stores.nodes) :=
    live.tells_of_same_number made fits applied encoded otherMade otherEncoded spells
      mended.tidy.tick (mended.stored flushed)
  refine Work.ends_bind.mpr (ends_onJournal.mpr (mended.ends_size_withFaults flushed
    (fun _ => ?_) fun failing failed => ?_))
  case refine_2 =>
    rw [steps, measured] at failed
    cases failed
  simp only [Result.mapError_ok]
  have enough : ¬((stores.torn frame count).withFaults faults).maxJournalSize < _ :=
    Nat.not_lt.mpr within
  rw [if_neg enough]
  let calm : DiskStores := { stores with
    journal := { journal with files := journal.files.tick }
    nodes := other.applyTo stores.nodes }
  exact ⟨rfl, rfl, @restores_of_tells faults _ calm flushed tells⟩

end Torn

/-! ## Runs -/

/-- The changes that come to the journal. -/
def entered (calls : List Call) : List Delta := (calls.filter Call.isEntered).map Call.delta

/-- The changes that are acknowledged. -/
def acknowledged (calls : List Call) : List Delta :=
  (calls.filter fun call => call.result.isOk).map Call.delta

theorem calls_append (stores : DiskStores) (front back : List Delta) :
    calls stores (front ++ back) = calls stores front ++ calls (changeAll stores front) back := by
  induction front generalizing stores with
  | nil => rfl
  | cons delta rest ih => exact congrArg (_ :: ·) (ih _)

/-- A change that does not come to the journal is not acknowledged. -/
theorem acknowledged_sublist {calls : List Call} (settles : ∀ call ∈ calls, call.Settles) :
    (acknowledged calls).Sublist (entered calls) := by
  refine List.Sublist.map _ ?_
  have both : calls.filter (fun call => call.result.isOk) =
      calls.filter fun call => call.result.isOk && call.isEntered := by
    refine List.filter_congr fun call member => ?_
    cases framed : call.frame? with
    | none =>
        obtain ⟨⟨cause, refused⟩, -⟩ := (settles call member).refused framed
        rw [refused]
        rfl
    | some frame =>
        cases appended : call.fault? .append with
        | none => simp [Call.isEntered, framed, appended]
        | some count =>
            obtain ⟨refused, -⟩ := (settles call member).unwritten frame count framed appended
            rw [refused]
            rfl
  rw [both]
  exact List.monotone_filter_right _ fun call => by simp

theorem IsLive.settles_run (live : stores.IsLive entries) {last : Delta}
    (made : ∀ delta ∈ deltas ++ [last], delta.IsMade)
    (fits : entries.length + deltas.length + 1 < 2 ^ 64)
    (steady : ∀ call ∈ calls (stores.withFaults faults) deltas, call.IsSteady) :
    (∀ call ∈ calls (stores.withFaults faults) (deltas ++ [last]), call.Settles) ∧
      (entered (calls (stores.withFaults faults) deltas)).foldlM
        (fun nodes delta => delta.apply nodes) stores.nodes =
          .ok (changeAll (stores.withFaults faults) deltas).nodes ∧
      (changeAll (stores.withFaults faults) deltas).Restores
        (changeAll (stores.withFaults faults) deltas).nodes := by
  induction deltas generalizing stores entries with
  | nil =>
      refine ⟨fun call member => ?_, rfl, restores_of_tells live.spelt.flushed live.tells⟩
      obtain rfl := List.mem_singleton.mp member
      exact live.settles (made last (List.mem_singleton_self _)) (by simpa using fits)
  | cons delta rest ih =>
      rw [List.length_cons] at fits
      obtain ⟨madeFirst, madeRest⟩ := List.forall_mem_cons.mp made
      obtain ⟨steadyFirst, steadyRest⟩ := List.forall_mem_cons.mp steady
      have settles : (Call.mk (stores.withFaults faults) delta).Settles :=
        live.settles madeFirst (by omega)
      obtain ⟨calm, others, after, live, few, nodes⟩ :=
        live.of_isSteady madeFirst (by omega) steadyFirst
      rw [after] at steadyRest
      obtain ⟨settlesRest, replayed, restores⟩ := ih live madeRest (by omega) steadyRest
      rw [changeAll, calls, entered, List.filter_cons, after]
      refine ⟨List.forall_mem_cons.mpr ⟨settles, after ▸ settlesRest⟩, ?_, restores⟩
      split at nodes
      · rename_i isEntered
        rw [if_pos isEntered, List.map_cons, List.foldlM_cons, nodes]
        exact replayed
      · rename_i isEntered
        obtain same := Except.ok.inj nodes
        rw [if_neg isEntered, same]
        exact replayed

/-- Whichever steps fail, stores whose calls are steady hold just the changes that have come to the
journal, and so do the stores that are opened again; each change that has been acknowledged is one
of them.  The last call need not be steady. -/
theorem settles_calls {name : String} {config : Config} {start : DiskStores} (tidy : files.IsTidy)
    (opened : ((openIn name config).run files).1 = .ok start) {last : Delta}
    (made : ∀ delta ∈ deltas ++ [last], delta.IsMade)
    (fits : start.journal.sequence + deltas.length + 1 < 2 ^ 64)
    (steady : ∀ call ∈ calls (start.withFaults faults) deltas, call.IsSteady) :
    let asked := calls (start.withFaults faults) deltas
    let stores := changeAll (start.withFaults faults) deltas
    (∀ call ∈ calls (start.withFaults faults) (deltas ++ [last]), call.Settles) ∧
      (acknowledged asked).Sublist (entered asked) ∧
      (entered asked).foldlM (fun nodes delta => delta.apply nodes) start.nodes =
        .ok stores.nodes ∧
      stores.Restores stores.nodes := by
  intro asked stores
  obtain ⟨entries, live⟩ := exists_isLive_of_openIn tidy opened
  rw [live.spelt.counted] at fits
  obtain ⟨settles, replayed, restores⟩ := live.settles_run made fits steady
  refine ⟨settles, acknowledged_sublist fun call member => settles call ?_, replayed, restores⟩
  rw [calls_append]
  exact List.mem_append_left _ member

/-- A change is made although it is not acknowledged: the size of the journal could not be told. -/
theorem settles_calls_unmeasured :
    let put (key : String) : Delta := .put key (.ofSection key)
    let faults : Nat → Option Nat := fun step => if step = 5 then some 0 else none
    ∃ start, ((openIn "d" .usual).run .empty).1 = .ok start ∧
      let asked := calls (start.withFaults faults) [put "a"]
      let stores := changeAll (start.withFaults faults) [put "a"]
      (∀ call ∈ asked, call.IsSteady) ∧ asked.map Call.result = [.error .io] ∧
        (∀ call ∈ calls (start.withFaults faults) [put "a", put "b"], call.Settles) ∧
          entered asked = [put "a"] ∧ stores.nodes = [("a", .ofSection "a")] ∧
            stores.Restores stores.nodes := by
  intro put faults
  have evaluated : ((openIn "d" .usual).run .empty).1.toOption.any fun start =>
      start.journal.sequence = 0 ∧ start.journal.files.steps = 4 ∧
        (calls (start.withFaults faults) [put "a"]).map Call.result = [.error .io] ∧
          entered (calls (start.withFaults faults) [put "a"]) = [put "a"] ∧
            (changeAll (start.withFaults faults) [put "a"]).nodes = [("a", .ofSection "a")] := by
    decide +kernel
  obtain ⟨start, opened, sequence, steps, results, appended, nodes⟩ :=
    Result.exists_of_any evaluated
  have made : ∀ delta ∈ [put "a"] ++ [put "b"], delta.IsMade := by
    change ∀ delta ∈ [put "a", put "b"], delta.IsMade
    simp only [List.forall_mem_cons, List.not_mem_nil, false_implies, implies_true, and_true]
    exact ⟨⟨by decide +kernel, by decide +kernel⟩, ⟨by decide +kernel, by decide +kernel⟩⟩
  have planned (step : ChangeStep) :
      (Call.mk (start.withFaults faults) (put "a")).fault? step = faults (4 + step.index) :=
    congrArg (fun steps => faults (steps + step.index)) steps
  have steady : ∀ call ∈ calls (start.withFaults faults) [put "a"], call.IsSteady := by
    intro call member
    obtain rfl := List.mem_singleton.mp member
    refine ⟨fun frame count _ failed => ?_, fun _ => planned .reopen⟩
    rw [planned] at failed
    cases failed
  have few : start.journal.sequence + [put "a"].length + 1 < 2 ^ 64 := by
    rw [sequence]
    decide
  obtain ⟨settles, -, -, restores⟩ :=
    settles_calls FileSystem.isTidy_empty opened made few steady
  exact ⟨start, opened, steady, results, settles, appended, nodes, restores⟩

/-- Not all changes survive that are acknowledged, and not only these.  A frame that has been
written in part is made whole by the next one, which is lost in its place; and a change is made
before the journal is found too long and cannot be rewritten. -/
theorem refused_change_survives :
    let put (key : String) : Delta := .put key (.ofSection key)
    let fails (last count : Nat) : Nat → Option Nat :=
      fun step => if step = last then some count else none
    (∃ start, ((openIn "d" .usual).run .empty).1 = .ok start ∧
      let asked := calls (start.withFaults (fails 4 3)) [put "a", put "b"]
      let stores := changeAll (start.withFaults (fails 4 3)) [put "a", put "b"]
      asked.map Call.result = [.error .io, .ok ()] ∧ stores.nodes = [("b", .ofSection "b")] ∧
        stores.Restores [("a", .ofSection "a")]) ∧
    ∃ start, ((openIn "d" ⟨true, 20, true⟩).run .empty).1 = .ok start ∧
      let asked := calls (start.withFaults (fails 6 0)) [put "a"]
      let stores := changeAll (start.withFaults (fails 6 0)) [put "a"]
      asked.map Call.result = [.error .io] ∧ stores.nodes = [("a", .ofSection "a")] ∧
        stores.Restores [("a", .ofSection "a")] := by
  intro put fails
  have made : (put "a").IsMade := ⟨by decide +kernel, by decide +kernel⟩
  have otherMade : (put "b").IsMade := ⟨by decide +kernel, by decide +kernel⟩
  refine ⟨?_, ?_⟩
  · have evaluated : ((openIn "d" .usual).run .empty).1.toOption.any fun start =>
        start.journal.sequence = 0 ∧ start.journal.files.steps = 4 ∧ start.nodes = [] ∧
        (Call.mk (start.withFaults (fails 4 3)) (put "a")).frame?.any fun frame =>
          (Call.mk ((start.torn frame 3).withFaults (fails 4 3)) (put "b")).frame?.any fun more =>
            (Journal.stored? start.journal.files).any fun held =>
              frame.length + more.length ≤ Journal.capacity ∧
                (held ++ frame ++ more).length ≤ start.maxJournalSize := by
      decide +kernel
    obtain ⟨start, opened, sequence, steps, nodes, framed⟩ := Result.exists_of_any evaluated
    simp only [Option.any_eq_true, decide_eq_true_eq] at framed
    obtain ⟨frame, framed, more, otherFramed, held, stored, room, within⟩ := framed
    obtain ⟨entries, live⟩ := exists_isLive_of_openIn FileSystem.isTidy_empty opened
    have fits : entries.length + 1 < 2 ^ 64 := by
      rw [← live.spelt.counted, sequence]
      decide
    have failed : (Call.mk (start.withFaults (fails 4 3)) (put "a")).fault? .append = some 3 :=
      congrArg (fun steps => fails 4 3 (steps + 0)) steps
    obtain ⟨refused, after⟩ := Call.of_unwritten framed live.spelt.flushed failed
    obtain ⟨acknowledged, made, restores⟩ := live.ends_change_torn made fits framed otherMade
      otherFramed (congrArg (fun steps => fails 4 3 (steps + 1)) steps)
      (congrArg (fun steps => fails 4 3 (steps + 2)) steps) room stored within
    rw [nodes] at made restores
    have stores : changeAll (start.withFaults (fails 4 3)) [put "a", put "b"] =
        (Call.mk ((start.torn frame 3).withFaults (fails 4 3)) (put "b")).after := by
      rw [changeAll, after]
      rfl
    refine ⟨start, opened, ?_, ?_, ?_⟩
    · rw [calls, calls, calls, after, List.map_cons, refused, List.map_cons]
      exact congrArg (fun result => [_, result]) acknowledged
    · rw [stores]
      exact made
    · rw [stores]
      exact restores
  · have evaluated : ((openIn "d" ⟨true, 20, true⟩).run .empty).1.toOption.any fun start =>
        start.journal.sequence = 0 ∧ start.journal.files.steps = 4 ∧
          (Call.mk (start.withFaults (fails 6 0)) (put "a")).frame?.isSome ∧
          (calls (start.withFaults (fails 6 0)) [put "a"]).map Call.result = [.error .io] ∧
          (changeAll (start.withFaults (fails 6 0)) [put "a"]).nodes =
            [("a", .ofSection "a")] := by
      decide +kernel
    obtain ⟨start, opened, sequence, steps, entered, results, nodes⟩ :=
      Result.exists_of_any evaluated
    obtain ⟨frame, framed⟩ := Option.isSome_iff_exists.mp entered
    obtain ⟨entries, live⟩ := exists_isLive_of_openIn FileSystem.isTidy_empty opened
    have fits : entries.length + 1 < 2 ^ 64 := by
      rw [← live.spelt.counted, sequence]
      decide
    have settles : (Call.mk (start.withFaults (fails 6 0)) (put "a")).Settles :=
      live.settles made fits
    obtain ⟨-, restores, -⟩ := settles.written frame framed
      (congrArg (fun steps => fails 6 0 (steps + 0)) steps)
    exact ⟨start, opened, results, nodes, nodes ▸ restores⟩

end DiskStores

end ShelfLibrary
