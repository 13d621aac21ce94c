import ShelfLibrary.Disk.Stores
import ShelfLibrary.Proofs.FileWork
import ShelfLibrary.Proofs.Table

/-!
# Journals that are replayed

A journal records changes when its frames, in order, hold the entries of these changes under the
numbers from one on.  Replayed, it gives back precisely these entries, and a change that is added to
it is recorded after them.
-/

namespace ShelfLibrary

variable {delta : Delta} {deltas : List Delta} {sequence : Nat} {bytes contents : Bytes}

namespace Journal

/-! ## Replaying -/

/-- The entries of changes numbered from a number on. -/
def numberFrom : Nat → List Delta → List JournalEntry
  | _, [] => []
  | sequence, delta :: rest => .number sequence delta :: numberFrom (sequence + 1) rest

/-- An entry fits a frame and is read back. -/
def IsKept (entry : JournalEntry) : Prop :=
  Frame.Holds JournalEntry.decode entry.toJson entry

/-- Bytes are the frames of changes numbered from a number on, each of which is read back. -/
def Frames : Nat → List Delta → Bytes → Prop
  | _, [], bytes => bytes = []
  | sequence, delta :: rest, bytes =>
    IsKept (.number sequence delta) ∧ ∃ frame others,
      (JournalEntry.number sequence delta).encode = .ok frame ∧ bytes = frame ++ others ∧
        Frames (sequence + 1) rest others

/-- A file is a journal of changes. -/
def Records (contents : Bytes) (deltas : List Delta) : Prop :=
  ∃ bytes, contents = Frame.header ++ bytes ∧ Frames 1 deltas bytes

/-- Bytes are frames of entries numbered from a number on. -/
def Spells : Nat → List JournalEntry → Bytes → Prop
  | _, [], bytes => bytes = []
  | sequence, entry :: rest, bytes =>
    entry.sequence = sequence ∧ ∃ payload frame others, Frame.encode payload = .ok frame ∧
      Frame.decodePayload JournalEntry.decode payload = .ok entry ∧ bytes = frame ++ others ∧
        Spells (sequence + 1) rest others

/-- Bytes do not begin with a frame of the entry of a number. -/
def Stops (sequence : Nat) (bytes : Bytes) : Prop :=
  ∀ payload rest entry, Frame.read bytes = .ok (payload, rest) →
    Frame.decodePayload JournalEntry.decode payload = .ok entry → entry.sequence ≠ sequence

theorem stops_of_read {fault : FrameFault} (unread : Frame.read bytes = .error fault) :
    Stops sequence bytes := by
  intro payload rest entry read
  rw [unread] at read
  cases read

theorem stops_nil : Stops sequence [] :=
  stops_of_read rfl

theorem Frames.spells (frames : Frames sequence deltas bytes) :
    Spells sequence (numberFrom sequence deltas) bytes := by
  induction deltas generalizing sequence bytes with
  | nil => exact frames
  | cons delta rest ih =>
      obtain ⟨kept, frame, others, framed, same, onward⟩ := frames
      exact ⟨rfl, _, frame, others, framed, kept.decoded, same, ih onward⟩

/-- Entries are read as far as bytes spell them. -/
theorem entriesFrom_append {entries : List JournalEntry} {torn : Bytes}
    (spells : Spells sequence entries bytes) (stops : Stops (sequence + entries.length) torn)
    {fuel : Nat} (enough : (bytes ++ torn).length ≤ fuel) :
    entriesFrom fuel sequence (bytes ++ torn) = (entries, bytes.length) := by
  induction entries generalizing sequence bytes fuel with
  | nil =>
      obtain rfl : bytes = [] := spells
      rw [List.nil_append]
      cases fuel with
      | zero => rfl
      | succ fuel =>
          unfold entriesFrom
          split
          · rfl
          · rename_i payload rest read
            split
            · rfl
            · rename_i entry decoded
              rw [if_neg
                (show ¬entry.sequence = sequence from stops payload rest entry read decoded)]
              rfl
  | cons entry rest ih =>
      obtain ⟨numbered, payload, frame, others, framed, decoded, rfl, onward⟩ := spells
      have read := Frame.read_append framed (others ++ torn)
      have size := Frame.length_of_encode framed
      rw [List.append_assoc, List.length_append] at enough
      obtain ⟨fuel, rfl⟩ : ∃ left, fuel = left + 1 := ⟨fuel - 1, by omega⟩
      have left := ih onward (by rwa [List.length_cons, Nat.add_comm rest.length, ← Nat.add_assoc]
        at stops) (show (others ++ torn).length ≤ fuel by omega)
      simp only [entriesFrom, List.append_assoc, read, decoded, numbered, if_true, left,
        List.length_append, size]

/-- Whatever bytes are, they spell some entries, and what follows these is not the next one. -/
theorem exists_spells (sequence : Nat) (bytes : Bytes) :
    ∃ entries front torn, bytes = front ++ torn ∧ Spells sequence entries front ∧
      Stops (sequence + entries.length) torn := by
  induction size : bytes.length using Nat.strong_induction_on generalizing sequence bytes with
  | _ n ih =>
      by_cases stops : Stops sequence bytes
      · exact ⟨[], [], bytes, rfl, rfl, stops⟩
      · simp only [Stops, not_forall, not_not] at stops
        obtain ⟨payload, rest, entry, read, decoded, numbered⟩ := stops
        obtain ⟨frame, framed, rfl⟩ := Frame.read_eq_ok.mp read
        have longer := Frame.length_of_encode framed
        rw [List.length_append] at size
        obtain ⟨entries, front, torn, rfl, spells, stops⟩ :=
          ih rest.length (by omega) (sequence + 1) rest rfl
        refine ⟨entry :: entries, frame ++ front, torn, by simp, ?_, ?_⟩
        · exact ⟨numbered, payload, frame, front, framed, decoded, rfl, spells⟩
        · rwa [List.length_cons, Nat.add_comm entries.length, ← Nat.add_assoc]

/-- A file is replayed as far as it spells entries. -/
theorem replay_append {entries : List JournalEntry} {torn : Bytes}
    (spells : Spells 1 entries bytes) (stops : Stops (1 + entries.length) torn) :
    replay (Frame.header ++ bytes ++ torn) = .ok (entries, (Frame.header ++ bytes).length) := by
  have read := entriesFrom_append spells stops le_rfl
  simp only [List.append_assoc, replay, Frame.afterHeader_header, bind, Except.bind, read, pure,
    Except.pure]
  rw [List.length_append]

theorem lastSequence_eq {entries : List JournalEntry}
    (numbered : entries.map JournalEntry.sequence = List.range' 1 entries.length) :
    lastSequence entries = entries.length := by
  rw [lastSequence, ← List.getLast?_map, numbered, List.getLast?_range']
  split
  · rename_i empty
    rw [empty]
    rfl
  · simp only [Option.getD_some]
    omega

theorem length_numberFrom (sequence : Nat) (deltas : List Delta) :
    (numberFrom sequence deltas).length = deltas.length := by
  induction deltas generalizing sequence with
  | nil => rfl
  | cons delta rest ih => rw [numberFrom, List.length_cons, List.length_cons, ih]

theorem numberFrom_append (sequence : Nat) (deltas : List Delta) (delta : Delta) :
    numberFrom sequence (deltas ++ [delta]) =
      numberFrom sequence deltas ++ [.number (sequence + deltas.length) delta] := by
  induction deltas generalizing sequence with
  | nil => rfl
  | cons first rest ih =>
      rw [List.cons_append, numberFrom, ih, numberFrom, List.cons_append, List.length_cons,
        Nat.add_comm rest.length, ← Nat.add_assoc]

theorem lastSequence_numberFrom (deltas : List Delta) :
    lastSequence (numberFrom 1 deltas) = deltas.length := by
  have numbered (sequence : Nat) : (numberFrom sequence deltas).map JournalEntry.sequence =
      List.range' sequence deltas.length := by
    induction deltas generalizing sequence with
    | nil => rfl
    | cons delta rest ih =>
        rw [numberFrom, List.map_cons, ih, List.length_cons, List.range'_succ]
        rfl
  rw [lastSequence_eq (by rw [numbered, length_numberFrom]), length_numberFrom]

/-- The last of some entries that are spelt has their number. -/
theorem Spells.lastSequence_eq {entries : List JournalEntry} (spells : Spells 1 entries bytes) :
    lastSequence entries = entries.length := by
  have numbered {sequence : Nat} {bytes : Bytes} (spells : Spells sequence entries bytes) :
      entries.map JournalEntry.sequence = List.range' sequence entries.length := by
    clear * - spells
    induction entries generalizing sequence bytes with
    | nil => rfl
    | cons entry rest ih =>
        obtain ⟨same, -, -, others, -, -, -, onward⟩ := spells
        rw [List.map_cons, ih onward, List.length_cons, List.range'_succ, same]
  exact Journal.lastSequence_eq (numbered spells)

theorem records_nil : Records Frame.header [] :=
  ⟨[], by simp, rfl⟩

/-- An entry that is spelt after others is spelt with them. -/
theorem spells_append {entries : List JournalEntry} {entry : JournalEntry} {payload frame : Bytes}
    (spells : Spells sequence entries bytes) (numbered : entry.sequence = sequence + entries.length)
    (framed : Frame.encode payload = .ok frame)
    (decoded : Frame.decodePayload JournalEntry.decode payload = .ok entry) :
    Spells sequence (entries ++ [entry]) (bytes ++ frame) := by
  induction entries generalizing sequence bytes with
  | nil =>
      obtain rfl : bytes = [] := spells
      exact ⟨numbered, payload, frame, [], framed, decoded, by simp, rfl⟩
  | cons first rest ih =>
      obtain ⟨same, text, front, others, firstFramed, firstDecoded, rfl, onward⟩ := spells
      rw [List.length_cons] at numbered
      exact ⟨same, text, front, others ++ frame, firstFramed, firstDecoded, by simp,
        ih onward (by omega)⟩

theorem frames_append (frames : Frames sequence deltas bytes)
    (kept : IsKept (.number (sequence + deltas.length) delta)) {frame : Bytes}
    (framed : (JournalEntry.number (sequence + deltas.length) delta).encode = .ok frame) :
    Frames sequence (deltas ++ [delta]) (bytes ++ frame) := by
  induction deltas generalizing sequence bytes with
  | nil =>
      obtain rfl : bytes = [] := frames
      exact ⟨kept, frame, [], framed, by simp, rfl⟩
  | cons first rest ih =>
      obtain ⟨firstKept, front, others, firstFramed, rfl, onward⟩ := frames
      have next : sequence + (first :: rest).length = sequence + 1 + rest.length := by
        rw [List.length_cons]
        omega
      rw [next] at kept framed
      exact ⟨firstKept, front, others ++ frame, firstFramed, by simp, ih onward kept framed⟩

/-- A change that is added to a journal is recorded last. -/
theorem records_append (records : Records contents deltas)
    (kept : IsKept (.number (deltas.length + 1) delta)) {frame : Bytes}
    (framed : (JournalEntry.number (deltas.length + 1) delta).encode = .ok frame) :
    Records (contents ++ frame) (deltas ++ [delta]) := by
  obtain ⟨bytes, rfl, frames⟩ := records
  rw [Nat.add_comm] at kept framed
  exact ⟨bytes ++ frame, by simp, frames_append frames kept framed⟩

/-! ## Tables that are replayed -/

theorem tableOf_append {table nodes next : Table Entry} {entries : List JournalEntry}
    {entry : JournalEntry} (made : DiskStores.tableOf table entries = .ok nodes)
    (applied : entry.delta.apply nodes = .ok next) :
    DiskStores.tableOf table (entries ++ [entry]) = .ok next := by
  induction entries generalizing table with
  | nil =>
      obtain rfl : table = nodes := Except.ok.inj made
      simp [DiskStores.tableOf, applied]
  | cons first rest ih =>
      simp only [List.cons_append, DiskStores.tableOf] at made ⊢
      split at made
      · rename_i between step
        exact ih made
      · simp at made

/-- The changes that make a table make it. -/
theorem tableOf_puts {nodes : Table Entry} (sorted : Table.Sorted nodes) :
    DiskStores.tableOf [] (numberFrom 1 (DiskStores.puts nodes)) = .ok nodes := by
  have general (sequence : Nat) (table rest : Table Entry) (distinct : (Table.keys rest).Nodup)
      (fresh : ∀ entry ∈ rest, Table.contains table entry.1 = false) :
      DiskStores.tableOf table (numberFrom sequence (DiskStores.puts rest)) =
        .ok (Table.overwrite table rest) := by
    induction rest generalizing sequence table with
    | nil => rfl
    | cons node rest ih =>
        obtain ⟨key, entry⟩ := node
        obtain ⟨first, others⟩ := List.nodup_cons.mp distinct
        have absent := fresh (key, entry) List.mem_cons_self
        have applied : (Delta.put key entry).apply table = .ok (Table.insert table key entry) := by
          simp [Delta.apply, Delta.check, Delta.applyTo, absent, bind, Except.bind, pure,
            Except.pure]
        simp only [DiskStores.puts, List.map_cons, numberFrom, DiskStores.tableOf,
          JournalEntry.number, applied]
        refine ih (sequence + 1) _ others fun node member => ?_
        have different : key ≠ node.1 :=
          fun same => first (List.mem_map.mpr ⟨node, member, same.symm⟩)
        rw [Table.contains, Table.get?_insert_of_ne table entry different]
        exact fresh node (List.mem_cons_of_mem _ member)
  rw [general 1 [] nodes (Table.nodup_keys sorted) fun _ _ => rfl]
  exact congrArg Except.ok (Table.ofEntries_of_sorted sorted)

/-! ## Opening -/

section Files

open FileSystem

theorem isFile_path : IsFile [] "namespace.journal" :=
  ⟨⟨by simp, by decide⟩, ⟨by decide +kernel, by decide +kernel⟩, by simp, by decide⟩

theorem isFile_pathAside : IsFile [] "namespace.journal.tmp" :=
  ⟨⟨by simp, by decide⟩, ⟨by decide +kernel, by decide +kernel⟩, by simp, by decide⟩

variable {files : FileSystem} {number : Nat}

/-- A journal that has been recovered is opened at its end. -/
theorem ends_openAmong_of_recover
    {goal : Except FileFault (List JournalEntry × Journal) → FileSystem → Prop}
    (recovered : Work.Ends recover files fun result after =>
      ∃ entries number contents, result = .ok entries ∧ after.IsTidy ∧
        after.file? path = some (number, contents) ∧
        goal (.ok (entries, ⟨after.tick, number, [], lastSequence entries⟩)) after.tick) :
    Work.Ends openAmong files goal := by
  rw [openAmong, Work.ends_bind]
  refine recovered.imp fun result after done => ?_
  obtain ⟨entries, number, contents, rfl, tidy, found, next⟩ := done
  have located := tidy.locate_file isFile_path found
  change after.locate path = _ at located
  simp only [Work.ends_bind, ends_openToAppend tidy.toIsCalm, located, Work.ends_get,
    Work.ends_pure]
  exact next

/-- What follows the entries of a journal is cut off when the journal is recovered. -/
theorem ends_recover_spelt (tidy : files.IsTidy) {entries : List JournalEntry} {torn : Bytes}
    (found : files.file? path = some (number, Frame.header ++ bytes ++ torn))
    (spells : Spells 1 entries bytes) (stops : Stops (1 + entries.length) torn) :
    Work.Ends recover files fun result after => result = .ok entries ∧
      after.IsTidy ∧ after.file? path = some (number, Frame.header ++ bytes) ∧
      files.Spares after [path] := by
  obtain ⟨-, held⟩ := file?_eq_some.mp found
  have located := tidy.locate_file isFile_path found
  change files.locate path = _ at located
  have nonempty : (Frame.header ++ bytes ++ torn).isEmpty = false := rfl
  rw [recover, Work.ends_bind, contents?, Work.ends_bind, ends_find, located]
  simp only [Work.ends_bind, ends_read tidy.toIsCalm, located, held, nonempty,
    Bool.false_eq_true, if_false, Work.ends_pure, replay_append spells stops]
  have there : files.tick.file? path = some (number, Frame.header ++ bytes ++ torn) := by
    rw [file?_tick, found]
  split
  · refine Work.ends_bind.mpr ((tidy.tick.ends_truncate isFile_path there _).imp
      fun result after done => ?_)
    obtain ⟨rfl, tidy, cut, spares⟩ := done
    rw [List.take_left] at cut
    exact ⟨rfl, tidy, cut, (Spares.refl _ _).of_tick.trans spares⟩
  · rename_i whole
    simp only [List.length_append] at whole
    obtain rfl : torn = [] := List.length_eq_zero_iff.mp (by omega)
    rw [List.append_nil] at there
    exact ⟨rfl, tidy.tick, there, (Spares.refl _ _).of_tick⟩

/-- A journal is opened with the entries that its file spells, and what follows them is cut off. -/
theorem ends_openAmong_spelt (tidy : files.IsTidy) {entries : List JournalEntry} {torn : Bytes}
    (found : files.file? path = some (number, Frame.header ++ bytes ++ torn))
    (spells : Spells 1 entries bytes) (stops : Stops (1 + entries.length) torn) :
    Work.Ends openAmong files fun result after =>
      result = .ok (entries, ⟨after, number, [], lastSequence entries⟩) ∧ after.IsTidy ∧
      after.file? path = some (number, Frame.header ++ bytes) ∧ files.Spares after [path] := by
  refine ends_openAmong_of_recover ((ends_recover_spelt tidy found spells stops).imp
    fun result after done => ?_)
  obtain ⟨rfl, tidy, whole, spares⟩ := done
  exact ⟨entries, number, _, rfl, tidy, whole, rfl, tidy.tick, whole,
    spares.trans (Spares.refl _ _).of_tick⟩

/-- A journal of changes is opened with the entries of all of them. -/
theorem ends_openAmong (tidy : files.IsTidy) (found : files.file? path = some (number, contents))
    (records : Records contents deltas) :
    Work.Ends openAmong files fun result after =>
      result = .ok (numberFrom 1 deltas, ⟨after, number, [], deltas.length⟩) ∧
      after.IsTidy ∧ files.Spares after [] := by
  obtain ⟨bytes, rfl, frames⟩ := records
  rw [← List.append_nil (Frame.header ++ bytes)] at found
  refine (ends_openAmong_spelt tidy found frames.spells stops_nil).imp fun result after done => ?_
  obtain ⟨rfl, tidy, whole, spares⟩ := done
  rw [List.append_nil] at found
  refine ⟨by rw [lastSequence_numberFrom], tidy, spares.locked, fun other plain _ => ?_⟩
  by_cases same : other = path
  · rw [same, whole, found]
  · exact spares.file other plain (by simpa using same)

/-- The contents of a journal that is not there yet, or is empty, are none. -/
theorem ends_contents?_new (tidy : files.IsTidy)
    (fresh : ∀ number contents, files.file? path = some (number, contents) → contents = []) :
    Work.Ends contents? files fun result after =>
      result = .ok none ∧ after.IsTidy ∧ files.Spares after [path] := by
  rw [contents?, Work.ends_bind, ends_find]
  cases found : files.file? path with
  | none =>
      have free := tidy.locate_free isFile_path trivial found
      change files.locate path = _ at free
      rw [free]
      exact ⟨rfl, tidy, Spares.refl _ _⟩
  | some file =>
      obtain ⟨number, contents⟩ := file
      obtain rfl := fresh number contents found
      have located := tidy.locate_file isFile_path found
      change files.locate path = _ at located
      obtain ⟨-, held⟩ := file?_eq_some.mp found
      rw [located]
      simp only [Work.ends_bind, ends_read tidy.toIsCalm, located, held, List.isEmpty_nil, if_true,
        Work.ends_pure]
      exact ⟨trivial, tidy.tick, (Spares.refl _ _).of_tick⟩

/-- A journal is made where there is none and where the file is empty. -/
theorem ends_openAmong_new (tidy : files.IsTidy)
    (fresh : ∀ number contents, files.file? path = some (number, contents) → contents = []) :
    Work.Ends openAmong files fun result after =>
      (∃ number, result = .ok ([], ⟨after, number, [], 0⟩) ∧
        after.file? path = some (number, Frame.header)) ∧
      after.IsTidy ∧ files.Spares after [path] := by
  refine ends_openAmong_of_recover ?_
  rw [recover, Work.ends_bind]
  refine (ends_contents?_new tidy fresh).imp fun result between done => ?_
  obtain ⟨rfl, tidy, spared⟩ := done
  refine Work.ends_bind.mpr ((tidy.ends_overwrite isFile_path trivial).imp
    fun result after done => ?_)
  obtain ⟨rfl, tidy, ⟨number, written⟩, spares, -⟩ := done
  exact ⟨[], number, _, rfl, tidy, written, ⟨number, rfl, written⟩, tidy.tick,
    (spared.trans spares).trans (Spares.refl _ _).of_tick⟩

end Files

/-! ## Writing -/

section Writing

open FileSystem

variable {journal : Journal} {α : Type}

theorem ends_onFiles {action : FileAction α} {goal : Except FileFault α → Journal → Prop} :
    Work.Ends (onFiles action) journal goal ↔
      Work.Ends action journal.files fun result files =>
        goal result { journal with files := files } :=
  Iff.rfl

/-- An open journal of given contents, some of which may still be in the buffer. -/
structure IsOpen (journal : Journal) (contents : Bytes) : Prop where
  /-- The files are tidy. -/
  tidy : journal.files.IsTidy
  /-- What has been written is in the file that is written to. -/
  written : ∃ front, journal.files.file? path = some (journal.body, front) ∧
    contents = front ++ journal.pending

/-- What has been done to a journal is about its own file. -/
structure Advances (journal after : Journal) : Prop where
  /-- The other files are spared. -/
  spares : journal.files.Spares after.files [path]
  /-- The number of the last entry is the same. -/
  sequence : after.sequence = journal.sequence
  /-- What the file holds is not lost. -/
  grown : ∀ front, journal.files.file? path = some (journal.body, front) →
    ∃ more, after.files.file? path = some (after.body, front ++ more)

theorem Advances.refl (journal : Journal) : journal.Advances journal :=
  ⟨.refl _ _, rfl, fun front found => ⟨[], by rw [found, List.append_nil]⟩⟩

theorem Advances.trans {between after : Journal} (front : journal.Advances between)
    (back : between.Advances after) : journal.Advances after := by
  refine ⟨front.spares.trans back.spares, back.sequence.trans front.sequence,
    fun held found => ?_⟩
  obtain ⟨first, between⟩ := front.grown held found
  obtain ⟨second, after⟩ := back.grown _ between
  exact ⟨first ++ second, by rw [after, List.append_assoc]⟩

/-- Nothing is done to write an empty buffer out. -/
theorem ends_flush_of_flushed (flushed : journal.pending = []) :
    Work.Ends flush journal fun result after => result = .ok () ∧ after = journal := by
  rw [flush, Work.ends_bind, Work.ends_get]
  simp [flushed]

theorem IsOpen.ends_flush (isOpen : journal.IsOpen contents) :
    Work.Ends flush journal fun result after => result = .ok () ∧ after.IsOpen contents ∧
      after.pending = [] ∧ journal.Advances after := by
  obtain ⟨tidy, front, found, whole⟩ := isOpen
  rw [flush, Work.ends_bind]
  simp only [Work.ends_get]
  split
  · rename_i flushed
    exact ⟨rfl, ⟨tidy, front, found, whole⟩, List.isEmpty_iff.mp flushed, .refl _⟩
  · obtain ⟨there, held⟩ := file?_eq_some.mp found
    simp only [Work.ends_bind, ends_onFiles, ends_append tidy.toIsCalm, Work.ends_modify]
    rw [held, ← whole]
    have written : (journal.files.tick.setBody journal.body contents).file? path =
        some (journal.body, contents) := tidy.tick.file?_setBody_self there
    refine ⟨trivial, ⟨tidy.tick.setBody _ _, contents, written, by simp⟩, trivial,
      ⟨rfl, fun other plain apart => ?_⟩, rfl, fun held same => ⟨journal.pending, ?_⟩⟩
    · exact tidy.tick.file?_setBody isFile_path.plain plain there (by simpa [path] using apart)
    · rw [found] at same
      cases same
      exact whole ▸ written

theorem IsOpen.ends_buffer (isOpen : journal.IsOpen contents) :
    Work.Ends (buffer bytes) journal fun result after => result = .ok () ∧
      after.IsOpen (contents ++ bytes) ∧ journal.Advances after := by
  have put {journal : Journal} (isOpen : journal.IsOpen contents)
      (fits : capacity ≤ bytes.length → journal.pending = []) :
      Work.Ends (if capacity ≤ bytes.length then do
          onFiles (FileSystem.write (← get).body bytes)
        else modify fun journal => { journal with pending := journal.pending ++ bytes } : Task Unit)
        journal fun result after => result = .ok () ∧ after.IsOpen (contents ++ bytes) ∧
          journal.Advances after := by
    obtain ⟨tidy, front, found, whole⟩ := isOpen
    split
    · rename_i long
      have flushed := fits long
      simp only [Work.ends_bind, Work.ends_get, ends_onFiles]
      refine (tidy.ends_write isFile_path.plain found).imp fun result files done => ?_
      obtain ⟨rfl, tidy, written, spares, -⟩ := done
      refine ⟨rfl, ⟨tidy, _, written, by simp [whole, flushed]⟩, spares, rfl, fun held same => ?_⟩
      rw [found] at same
      cases same
      exact ⟨bytes, written⟩
    · rw [Work.ends_modify]
      exact ⟨rfl, ⟨tidy, front, found, by simp [whole]⟩, .refl _ _, rfl,
        fun held same => ⟨[], by rw [same, List.append_nil]⟩⟩
  rw [buffer, Work.ends_bind]
  simp only [Work.ends_get]
  split
  · rw [Work.ends_bind]
    refine isOpen.ends_flush.imp fun result between done => ?_
    obtain ⟨rfl, isOpen, flushed, advances⟩ := done
    refine (put isOpen fun _ => flushed).imp fun result after done => ?_
    exact ⟨done.1, done.2.1, advances.trans done.2.2⟩
  · rename_i room
    refine put isOpen fun long => List.length_eq_zero_iff.mp ?_
    omega

/-- The frame of a change that is added to a journal comes last. -/
theorem IsOpen.ends_append_frame (isOpen : journal.IsOpen contents) {frame : Bytes}
    (framed : (JournalEntry.number (journal.sequence + 1) delta).encode = .ok frame) :
    Work.Ends (append delta) journal fun result after => (∃ count, result = .ok count) ∧
      after.IsOpen (contents ++ frame) ∧ after.pending = [] ∧
      after.sequence = journal.sequence + 1 ∧ journal.files.Spares after.files [path] := by
  rw [append, Work.ends_bind]
  simp only [Work.ends_get, Work.ends_bind, encoded, framed, Work.ends_pure]
  refine isOpen.ends_buffer.imp fun result between done => ?_
  obtain ⟨rfl, isOpen, advances⟩ := done
  refine isOpen.ends_flush.imp fun result after done => ?_
  obtain ⟨rfl, isOpen, flushed, onward⟩ := done
  simp only [Work.ends_modify]
  exact ⟨⟨_, rfl⟩, ⟨isOpen.tidy, isOpen.written⟩, flushed, trivial,
    advances.spares.trans onward.spares⟩

/-- A change that is added to a journal is recorded last. -/
theorem IsOpen.ends_append (isOpen : journal.IsOpen contents) (records : Records contents deltas)
    (counted : journal.sequence = deltas.length)
    (kept : IsKept (.number (journal.sequence + 1) delta)) {frame : Bytes}
    (framed : (JournalEntry.number (journal.sequence + 1) delta).encode = .ok frame) :
    Work.Ends (append delta) journal fun result after => (∃ count, result = .ok count) ∧
      after.IsOpen (contents ++ frame) ∧ Records (contents ++ frame) (deltas ++ [delta]) ∧
      after.pending = [] ∧ after.sequence = (deltas ++ [delta]).length ∧
      journal.files.Spares after.files [path] := by
  refine (isOpen.ends_append_frame framed).imp fun result after done => ?_
  obtain ⟨added, isOpen, flushed, numbered, spares⟩ := done
  rw [counted] at kept framed numbered
  exact ⟨added, isOpen, records_append records kept framed, flushed, by simp [numbered], spares⟩

theorem ends_size {goal : Except FileFault Nat → Journal → Prop} (isOpen : journal.IsOpen contents)
    (flushed : journal.pending = []) :
    Work.Ends size journal goal ↔
      goal (.ok contents.length) { journal with files := journal.files.tick } := by
  obtain ⟨tidy, front, found, whole⟩ := isOpen
  obtain ⟨-, held⟩ := file?_eq_some.mp found
  have located := tidy.locate_file isFile_path found
  change journal.files.locate path = _ at located
  rw [size, ends_onFiles, FileSystem.ends_size tidy.toIsCalm, located]
  simp [whole, flushed, held]

/-- The entries of changes numbered from a number on are all read back. -/
def AreKept : Nat → List Delta → Prop
  | _, [] => True
  | sequence, delta :: rest => IsKept (.number sequence delta) ∧ AreKept (sequence + 1) rest

theorem ends_encodedFrom (kept : AreKept sequence deltas) :
    Work.Ends (encodedFrom sequence deltas) journal fun result after =>
      after = journal ∧ ∃ bytes, result = .ok bytes ∧ Frames sequence deltas bytes := by
  induction deltas generalizing sequence with
  | nil => exact ⟨rfl, [], rfl, rfl⟩
  | cons delta rest ih =>
      obtain ⟨frame, framed, -, -⟩ := kept.1.exists_frame
      have encode : (JournalEntry.number sequence delta).encode = .ok frame := framed
      rw [encodedFrom, Work.ends_bind]
      simp only [encoded, encode, Work.ends_pure, Work.ends_bind]
      refine (ih kept.2).imp fun result after done => ?_
      obtain ⟨rfl, bytes, rfl, frames⟩ := done
      exact ⟨rfl, frame ++ bytes, rfl, kept.1, frame, bytes, encode, rfl, frames⟩

/-- A journal that is rewritten records other changes. -/
theorem IsOpen.ends_rewrite (isOpen : journal.IsOpen contents) (kept : AreKept 1 deltas) :
    Work.Ends (rewrite deltas) journal fun result after => result = .ok () ∧
      (∃ contents, after.IsOpen contents ∧ Records contents deltas) ∧
      after.pending = [] ∧ after.sequence = deltas.length ∧
      journal.files.Spares after.files [path, pathAside] := by
  rw [rewrite, Work.ends_bind]
  refine isOpen.ends_flush.imp fun result between done => ?_
  obtain ⟨rfl, isOpen, -, advances⟩ := done
  obtain ⟨tidy, front, found, -⟩ := isOpen
  refine Work.ends_bind.mpr (ends_onFiles.mpr ?_)
  refine (tidy.ends_create isFile_pathAside trivial).imp fun result files done => ?_
  obtain ⟨number, rfl, tidy, made, first, -⟩ := done
  refine Work.ends_bind.mpr ((ends_encodedFrom kept).imp fun result after done => ?_)
  obtain ⟨rfl, bytes, rfl, frames⟩ := done
  refine Work.ends_bind.mpr (ends_onFiles.mpr ?_)
  refine (tidy.ends_write isFile_pathAside.plain made).imp fun result files done => ?_
  obtain ⟨rfl, tidy, written, second, -⟩ := done
  refine Work.ends_bind.mpr (ends_onFiles.mpr ?_)
  refine (tidy.ends_rename isFile_pathAside isFile_path written trivial (by decide)).imp
    fun result files done => ?_
  obtain ⟨rfl, tidy, moved, -, third⟩ := done
  have located := tidy.locate_file isFile_path moved
  change files.locate path = _ at located
  refine Work.ends_bind.mpr (ends_onFiles.mpr ?_)
  rw [ends_openToAppend tidy.toIsCalm, located]
  refine Work.ends_modify.mpr ?_
  have opening : journal.files.Spares between.files [path, pathAside] :=
    advances.spares.mono (by simp)
  have spares := opening.trans ((first.mono (by simp [pathAside])).trans
    ((second.mono (by simp [pathAside])).trans (third.mono (by simp [path, pathAside]))))
  refine ⟨rfl, ⟨Frame.header ++ bytes, ⟨tidy.tick, _, moved, by simp⟩, bytes, rfl, frames⟩, rfl,
    rfl, ?_⟩
  exact spares.trans (Spares.refl _ _).of_tick

end Writing

end Journal

end ShelfLibrary
