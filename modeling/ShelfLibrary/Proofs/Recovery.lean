import ShelfLibrary.Proofs.Entries
import ShelfLibrary.Proofs.Journal

/-!
# Journals that are cut off

Opening a journal recovers what it can.  However a journal has been written, opened again and
rewritten, and wherever its file is cut off after the header, it is opened with the changes whose
frames are still whole, its file ends after them, and later changes are recorded from there on.
-/

namespace ShelfLibrary

namespace Journal

variable {delta : Delta} {deltas recorded : List Delta} {sequence count cut : Nat}
  {bytes contents : Bytes} {files : FileSystem} {journal : Journal}

/-! ## The file of a journal -/

/-- The frames of changes numbered from a number on; a change that is too long has none. -/
def image : Nat → List Delta → Bytes
  | _, [] => []
  | sequence, delta :: rest =>
    (JournalEntry.number sequence delta).encode.toOption.getD [] ++ image (sequence + 1) rest

/-- Whether all changes numbered from a number on have frames. -/
def areEncoded : Nat → List Delta → Bool
  | _, [] => true
  | sequence, delta :: rest =>
    (JournalEntry.number sequence delta).encode.isOk && areEncoded (sequence + 1) rest

/-- The file of a journal of changes. -/
def fileOf (deltas : List Delta) : Bytes := Frame.header ++ image 1 deltas

/-- What the file of the journal holds. -/
def stored? (files : FileSystem) : Option Bytes := (files.file? path).map Prod.snd

theorem Frames.image_eq (frames : Frames sequence deltas bytes) :
    image sequence deltas = bytes := by
  induction deltas generalizing sequence bytes with
  | nil => exact frames.symm
  | cons delta rest ih =>
      obtain ⟨-, frame, others, framed, rfl, onward⟩ := frames
      rw [image, framed, ih onward]
      rfl

theorem Frames.areEncoded (frames : Frames sequence deltas bytes) :
    areEncoded sequence deltas = true := by
  induction deltas generalizing sequence bytes with
  | nil => rfl
  | cons delta rest ih =>
      obtain ⟨-, frame, others, framed, -, onward⟩ := frames
      rw [Journal.areEncoded, framed, ih onward]
      rfl

theorem Records.fileOf_eq (records : Records contents deltas) : fileOf deltas = contents := by
  obtain ⟨bytes, rfl, frames⟩ := records
  rw [fileOf, frames.image_eq]

/-- A change that can be made is read back from its frame. -/
theorem isKept_of_encode (made : delta.IsMade) (counted : sequence < 2 ^ 64) {frame : Bytes}
    (framed : (JournalEntry.number sequence delta).encode = .ok frame) :
    IsKept (.number sequence delta) :=
  ⟨(Frame.encode_eq_ok.mp framed).1,
    JournalEntry.decodePayload_toJson ⟨made, JournalEntry.isStandard_stamp, counted⟩⟩

/-- Changes that can be made are read back from their frames. -/
theorem frames_of_areEncoded (made : ∀ delta ∈ deltas, delta.IsMade)
    (counted : sequence + deltas.length ≤ 2 ^ 64) (encoded : areEncoded sequence deltas = true) :
    Frames sequence deltas (image sequence deltas) := by
  induction deltas generalizing sequence with
  | nil => rfl
  | cons delta rest ih =>
      obtain ⟨first, others⟩ := Bool.and_eq_true_iff.mp encoded
      rw [List.length_cons] at counted
      cases framed : (JournalEntry.number sequence delta).encode with
      | error fault => simp [framed, Except.isOk, Except.toBool] at first
      | ok frame =>
          have kept := isKept_of_encode (made delta List.mem_cons_self) (by omega) framed
          refine ⟨kept, frame, image (sequence + 1) rest, framed, ?_, ?_⟩
          · rw [image, framed]
            rfl
          · exact ih (fun other member => made other (List.mem_cons_of_mem _ member))
              (by omega) others

/-! ## Cutting off -/

/-- What is done with a journal. -/
inductive Step where
  /-- It is left and opened again. -/
  | reopen
  /-- A change is added. -/
  | append (delta : Delta)
  /-- It is replaced by a journal of other changes. -/
  | rewrite (deltas : List Delta)

namespace Step

/-- The changes that a step is about. -/
def changes : Step → List Delta
  | .reopen => []
  | .append delta => [delta]
  | .rewrite others => others

/-- The journal after a step; what is refused leaves it open. -/
def run (journal : Journal) : Step → Except FileFault Journal
  | .reopen => (openAmong.run journal.close).1.map Prod.snd
  | .append delta => .ok ((Journal.append delta).run journal).2
  | .rewrite others => .ok ((Journal.rewrite others).run journal).2

/-- The changes in a journal after a step; those that are too long are refused. -/
def record (recorded : List Delta) : Step → List Delta
  | .reopen => recorded
  | .append delta =>
    if areEncoded (recorded.length + 1) [delta] then recorded ++ [delta] else recorded
  | .rewrite others => if areEncoded 1 others then others else recorded

end Step

/-- The journal after steps. -/
def runAll (journal : Journal) : List Step → Except FileFault Journal
  | [] => .ok journal
  | step :: rest => do runAll (← step.run journal) rest

/-- The journal after it has been opened and steps have followed. -/
def history (files : FileSystem) (steps : List Step) : Except FileFault Journal := do
  let (_, journal) ← (openAmong.run files).1
  runAll journal steps

/-- A journal is open and records changes, all of which have been written. -/
structure Stands (journal : Journal) (recorded : List Delta) : Prop where
  /-- The file is that of the changes. -/
  isOpen : ∃ contents, journal.IsOpen contents ∧ Records contents recorded
  /-- Nothing is left to be written. -/
  flushed : journal.pending = []
  /-- The number of the last entry is the number of changes. -/
  counted : journal.sequence = recorded.length

theorem close_of_flushed (flushed : journal.pending = []) : journal.close = journal.files :=
  congrArg Journal.files (ends_flush_of_flushed flushed).2

/-- The file of a journal holds the frames of the changes. -/
theorem Stands.stored (stands : journal.Stands recorded) :
    stored? journal.files = some (fileOf recorded) := by
  obtain ⟨contents, ⟨-, front, found, whole⟩, records⟩ := stands.isOpen
  rw [stored?, found, records.fileOf_eq, whole, stands.flushed, List.append_nil]
  rfl

/-- Opened with the entries of some changes, a journal stands. -/
structure Opens (files : FileSystem) (recorded : List Delta) (journal : Journal) : Prop where
  /-- The entries are those of the changes, numbered from one on. -/
  opened : (openAmong.run files).1 = .ok (numberFrom 1 recorded, journal)
  /-- The journal records the changes. -/
  stands : journal.Stands recorded

theorem exists_opens {front : Bytes} (frames : Frames 1 recorded front)
    (ends : Work.Ends openAmong files fun result after => ∃ number,
      result = .ok (numberFrom 1 recorded, ⟨after, number, [], recorded.length⟩) ∧ after.IsTidy ∧
        after.file? path = some (number, Frame.header ++ front)) :
    ∃ journal, Opens files recorded journal := by
  obtain ⟨number, opened, tidy, found⟩ := ends
  exact ⟨_, opened, ⟨_, ⟨tidy, _, found, (List.append_nil _).symm⟩, front, rfl, frames⟩, rfl, rfl⟩

/-- A file that begins with the frames of changes is opened with these changes. -/
theorem opens_torn (tidy : files.IsTidy) {front torn : Bytes} (frames : Frames 1 recorded front)
    (stops : Stops (1 + recorded.length) torn)
    (stored : stored? files = some (Frame.header ++ front ++ torn)) :
    ∃ journal, Opens files recorded journal := by
  obtain ⟨⟨number, contents⟩, found, same⟩ := Option.map_eq_some_iff.mp stored
  obtain rfl : contents = _ := same
  have ends := ends_openAmong_spelt tidy found frames.spells (by rwa [length_numberFrom])
  refine exists_opens frames (ends.imp fun result after done => ?_)
  obtain ⟨rfl, tidy, cut, -⟩ := done
  exact ⟨number, by rw [lastSequence_numberFrom], tidy, cut⟩

theorem Stands.opens (stands : journal.Stands recorded) :
    ∃ after, Opens journal.close recorded after := by
  obtain ⟨contents, isOpen, bytes, rfl, frames⟩ := stands.isOpen
  have stored := stands.stored
  rw [fileOf, frames.image_eq, ← List.append_nil (_ ++ bytes)] at stored
  rw [close_of_flushed stands.flushed]
  exact opens_torn isOpen.tidy frames stops_nil stored

/-! ### Steps -/

theorem areEncoded_singleton :
    areEncoded sequence [delta] = (JournalEntry.number sequence delta).encode.isOk := by
  rw [areEncoded, areEncoded, Bool.and_true]

/-- Nothing is done about a change that is too long. -/
theorem ends_append_of_not {fault : FrameFault}
    (long : (JournalEntry.number (journal.sequence + 1) delta).encode = .error fault) :
    Work.Ends (Journal.append delta) journal fun result after =>
      result = .error (.malformed fault) ∧ after = journal := by
  rw [Journal.append, Work.ends_bind, Work.ends_get]
  simp [encoded, long]

theorem Stands.append (stands : journal.Stands recorded) (made : delta.IsMade)
    (fits : recorded.length + 1 < 2 ^ 64) :
    ((Journal.append delta).run journal).2.Stands (Step.record recorded (.append delta)) := by
  obtain ⟨contents, isOpen, records⟩ := stands.isOpen
  rw [Step.record, areEncoded_singleton]
  cases framed : (JournalEntry.number (recorded.length + 1) delta).encode with
  | ok frame =>
      rw [← stands.counted] at framed fits
      have kept := isKept_of_encode made fits framed
      have ends := isOpen.ends_append records stands.counted kept framed
      obtain ⟨-, isOpen, records, flushed, counted, -⟩ := ends
      exact ⟨⟨_, isOpen, records⟩, flushed, counted⟩
  | error fault =>
      rw [← stands.counted] at framed
      have same : ((Journal.append delta).run journal).2 = journal := (ends_append_of_not framed).2
      rw [same]
      exact stands

theorem Frames.areKept (frames : Frames sequence deltas bytes) : AreKept sequence deltas := by
  induction deltas generalizing sequence bytes with
  | nil => trivial
  | cons delta rest ih =>
      obtain ⟨kept, -, others, -, -, onward⟩ := frames
      exact ⟨kept, ih onward⟩

theorem ends_encodedFrom_of_not (long : areEncoded sequence deltas = false) :
    Work.Ends (encodedFrom sequence deltas) journal fun result after =>
      (∃ fault, result = .error fault) ∧ after = journal := by
  induction deltas generalizing sequence with
  | nil => cases long
  | cons delta rest ih =>
      rw [encodedFrom, Work.ends_bind]
      cases framed : (JournalEntry.number sequence delta).encode with
      | error fault => simp [encoded, framed]
      | ok frame =>
          rw [areEncoded, framed] at long
          simp only [encoded, framed, Work.ends_pure, Work.ends_bind]
          refine (ih long).imp fun result after done => ?_
          obtain ⟨⟨fault, rfl⟩, rfl⟩ := done
          exact ⟨⟨fault, rfl⟩, rfl⟩

/-- A journal stays as it is when one of the changes that should replace it is too long. -/
theorem IsOpen.ends_rewrite_of_not (isOpen : journal.IsOpen contents)
    (flushed : journal.pending = []) (long : areEncoded 1 deltas = false) :
    Work.Ends (rewrite deltas) journal fun result after => (∃ fault, result = .error fault) ∧
      after.IsOpen contents ∧ after.pending = [] ∧ after.sequence = journal.sequence := by
  obtain ⟨tidy, front, found, whole⟩ := isOpen
  rw [rewrite, Work.ends_bind]
  refine (ends_flush_of_flushed flushed).imp fun result between done => ?_
  obtain ⟨rfl, rfl⟩ := done
  -- Only the file through which the journal would have been replaced is made.
  refine Work.ends_bind.mpr (ends_onFiles.mpr ?_)
  refine (tidy.ends_create isFile_pathAside trivial).imp fun result files done => ?_
  obtain ⟨number, rfl, tidy, -, spares, -⟩ := done
  refine Work.ends_bind.mpr ((ends_encodedFrom_of_not long).imp fun result after done => ?_)
  obtain ⟨⟨fault, rfl⟩, rfl⟩ := done
  have there := spares.file path isFile_path.plain (by decide)
  exact ⟨⟨fault, rfl⟩, ⟨tidy, front, there.trans found, whole⟩, flushed, rfl⟩

theorem Stands.rewrite (stands : journal.Stands recorded) (made : ∀ delta ∈ deltas, delta.IsMade)
    (fits : deltas.length < 2 ^ 64) :
    ((Journal.rewrite deltas).run journal).2.Stands (Step.record recorded (.rewrite deltas)) := by
  obtain ⟨contents, isOpen, records⟩ := stands.isOpen
  rw [Step.record]
  cases all : areEncoded 1 deltas with
  | true =>
      have kept := (frames_of_areEncoded made (by omega) all).areKept
      obtain ⟨-, isOpen, flushed, counted, -⟩ := isOpen.ends_rewrite kept
      exact ⟨isOpen, flushed, counted⟩
  | false =>
      obtain ⟨-, isOpen, flushed, counted⟩ := isOpen.ends_rewrite_of_not stands.flushed all
      exact ⟨⟨contents, isOpen, records⟩, flushed, counted.trans stands.counted⟩

/-- A step leaves a journal of the changes that are recorded then. -/
theorem Stands.step (stands : journal.Stands recorded) {step : Step}
    (made : ∀ delta ∈ step.changes, delta.IsMade)
    (fits : recorded.length + step.changes.length < 2 ^ 64) :
    ∃ after, step.run journal = .ok after ∧ after.Stands (step.record recorded) := by
  cases step with
  | reopen =>
      obtain ⟨after, opens⟩ := stands.opens
      exact ⟨after, by rw [Step.run, opens.opened]; rfl, opens.stands⟩
  | append delta => exact ⟨_, rfl, stands.append (made delta List.mem_cons_self) fits⟩
  | rewrite others =>
      exact ⟨_, rfl, stands.rewrite made (Nat.lt_of_le_of_lt (Nat.le_add_left _ _) fits)⟩

/-- Those of changes that are added to so many others; the ones that are too long are refused. -/
def written : Nat → List Delta → List Delta
  | _, [] => []
  | count, delta :: rest =>
    if areEncoded (count + 1) [delta] then delta :: written (count + 1) rest else written count rest

/-- The files with the journal cut off after its first bytes. -/
def cutOff (files : FileSystem) (cut : Nat) : FileSystem :=
  ((FileSystem.truncate path cut).run files).2

end Journal

end ShelfLibrary
