import ShelfLibrary.Proofs.Halting
import ShelfLibrary.Proofs.Opening

/-!
# The journal of stores in use

The journal makes the table of nodes that is kept in memory: however stores have been opened,
changed, compacted and opened again, the entries in their file are replayed without a refusal and
come to this table.  When a change is stopped on its way, what is left comes to the table before or
after it.
-/

namespace ShelfLibrary

open DiskStores (tableOf puts openIn)

variable {files : FileSystem} {entries : List JournalEntry} {delta : Delta} {deltas : List Delta}
  {table nodes next : Table Entry} {sequence : Nat} {bytes contents : Bytes} {name : String}
  {config : Config}

/-! ## Tables -/

/-- The locations of all nodes can be made. -/
def AreMade (nodes : Table Entry) : Prop := ∀ node ∈ nodes, node.2.location.IsMade

/-- Nodes in key order, at most so many, that can be made. -/
structure AreProper (nodes : Table Entry) (count : Nat) : Prop where
  /-- The keys are in order. -/
  sorted : Table.Sorted nodes
  /-- The locations can be made. -/
  made : AreMade nodes
  /-- There are not too many. -/
  few : nodes.length ≤ count

theorem areProper_nil : AreProper [] 0 :=
  ⟨Table.sorted_nil, fun _ member => (nomatch member), le_rfl⟩

theorem Delta.apply_eq_ok (applied : delta.apply nodes = .ok next) :
    next = delta.applyTo nodes := by
  unfold Delta.apply at applied
  cases checked : delta.check nodes with
  | error cause => simp [checked, bind, Except.bind] at applied
  | ok fits =>
      simp only [checked, bind, Except.bind, pure, Except.pure, Except.ok.injEq] at applied
      exact applied.symm

theorem AreProper.insert {count : Nat} (proper : AreProper nodes count) {entry : Entry}
    (made : entry.location.IsMade) (key : String) :
    AreProper (Table.insert nodes key entry) (count + 1) := by
  refine ⟨Table.sorted_insert proper.sorted key entry, fun node member => ?_, ?_⟩
  · rcases Table.mem_insert member with rfl | old
    · exact made
    · exact proper.made node old
  · exact (Table.length_insert_le nodes key entry).trans (Nat.succ_le_succ proper.few)

/-- A change that can be made leaves nodes that can be made. -/
theorem AreProper.apply {count : Nat} (proper : AreProper nodes count) (made : delta.IsMade)
    (applied : delta.apply nodes = .ok next) : AreProper next (count + 1) := by
  rw [Delta.apply_eq_ok applied]
  cases delta with
  | put key entry => exact proper.insert made key
  | update key entry => exact proper.insert made key
  | remove key =>
      refine ⟨Table.sorted_erase proper.sorted key, fun node member => ?_, ?_⟩
      · exact proper.made node (List.mem_of_mem_filter member)
      · exact (List.length_filter_le _ _).trans (Nat.le_succ_of_le proper.few)
  | clear => exact ⟨Table.sorted_nil, fun _ member => (nomatch member), Nat.zero_le _⟩

/-- Entries that can be made come to nodes that can be made. -/
theorem AreProper.tableOf {count : Nat} (proper : AreProper table count)
    (made : ∀ entry ∈ entries, entry.delta.IsMade) (replayed : tableOf table entries = .ok nodes) :
    AreProper nodes (count + entries.length) := by
  induction entries generalizing table count with
  | nil =>
      obtain rfl : table = nodes := Except.ok.inj replayed
      exact proper
  | cons entry rest ih =>
      rw [DiskStores.tableOf] at replayed
      split at replayed
      · rename_i between applied
        have grown := proper.apply (made entry List.mem_cons_self) applied
        have whole :=
          ih grown (fun other member => made other (List.mem_cons_of_mem _ member)) replayed
        rwa [List.length_cons, Nat.add_comm rest.length, ← Nat.add_assoc]
      · simp at replayed

theorem AreProper.isMade_of_mem_puts {count : Nat} (proper : AreProper nodes count) :
    ∀ delta ∈ puts nodes, delta.IsMade := by
  intro delta member
  obtain ⟨⟨key, entry⟩, inside, rfl⟩ := List.mem_map.mp member
  exact proper.made _ inside

/-! ## Journals -/

namespace Journal

variable {journal : Journal}

theorem Spells.isMade (spells : Spells sequence entries bytes) :
    ∀ entry ∈ entries, entry.delta.IsMade := by
  induction entries generalizing sequence bytes with
  | nil => exact fun _ member => nomatch member
  | cons entry rest ih =>
      obtain ⟨-, payload, -, others, -, decoded, -, onward⟩ := spells
      obtain ⟨document, read⟩ := Frame.exists_of_decodePayload decoded
      exact List.forall_mem_cons.mpr ⟨JournalEntry.isMade_of_decode read, ih onward⟩

/-- The entry of a change is spelt after those of others. -/
theorem Spells.append_change (spells : Spells 1 entries bytes) (made : delta.IsMade)
    (fits : entries.length + 1 < 2 ^ 64) {frame : Bytes}
    (framed : (JournalEntry.number (entries.length + 1) delta).encode = .ok frame) :
    Spells 1 (entries ++ [.number (entries.length + 1) delta]) (bytes ++ frame) :=
  spells_append spells (Nat.add_comm _ _) framed (isKept_of_encode made fits framed).decoded

/-- A journal is open, and its file holds the frames of entries and nothing else. -/
structure IsSpelt (journal : Journal) (entries : List JournalEntry) : Prop where
  /-- The entries are spelt in the file. -/
  isOpen : ∃ bytes, journal.IsOpen (Frame.header ++ bytes) ∧ Spells 1 entries bytes
  /-- Nothing is left to be written. -/
  flushed : journal.pending = []
  /-- The number of the last entry is the number of entries. -/
  counted : journal.sequence = entries.length

/-- An entry that is added is spelt last. -/
theorem IsSpelt.ends_append (spelt : journal.IsSpelt entries) (made : delta.IsMade)
    (fits : entries.length + 1 < 2 ^ 64) {frame : Bytes}
    (framed : (JournalEntry.number (journal.sequence + 1) delta).encode = .ok frame) :
    Work.Ends (append delta) journal fun result after => (∃ count, result = .ok count) ∧
      after.IsSpelt (entries ++ [.number (entries.length + 1) delta]) := by
  obtain ⟨bytes, isOpen, spells⟩ := spelt.isOpen
  refine (isOpen.ends_append_frame framed).imp fun _ after done => ?_
  obtain ⟨added, isOpen, flushed, numbered, -⟩ := done
  rw [spelt.counted] at framed numbered
  exact ⟨added, ⟨bytes ++ frame, by rwa [← List.append_assoc],
    spells.append_change made fits framed⟩, flushed, by simp [numbered]⟩

/-- A journal that is rewritten holds the entries of other changes, or it is as it was. -/
theorem IsSpelt.ends_rewrite (spelt : journal.IsSpelt entries)
    (made : ∀ delta ∈ deltas, delta.IsMade) (fits : deltas.length < 2 ^ 64) :
    Work.Ends (rewrite deltas) journal fun _ after =>
      after.IsSpelt (numberFrom 1 deltas) ∨ after.IsSpelt entries := by
  obtain ⟨bytes, isOpen, spells⟩ := spelt.isOpen
  cases all : areEncoded 1 deltas with
  | true =>
      have kept := (frames_of_areEncoded made (by omega) all).areKept
      refine (isOpen.ends_rewrite kept).imp fun _ after done => .inl ?_
      obtain ⟨-, ⟨_, isOpen, written, rfl, frames⟩, flushed, counted, -⟩ := done
      exact ⟨⟨written, isOpen, frames.spells⟩, flushed, by rw [counted, length_numberFrom]⟩
  | false =>
      refine (isOpen.ends_rewrite_of_not spelt.flushed all).imp fun _ after done => .inr ?_
      obtain ⟨-, isOpen, flushed, same⟩ := done
      exact ⟨⟨bytes, isOpen, spells⟩, flushed, same.trans spelt.counted⟩

/-! ### Opening -/

/-- A journal that begins with some entries is opened with them. -/
theorem ends_openAmong_told {torn : Bytes} (tidy : files.IsTidy)
    (stored : stored? files = some (Frame.header ++ bytes ++ torn))
    (spells : Spells 1 entries bytes) (stops : Stops (1 + entries.length) torn) :
    Work.Ends openAmong files fun result after => ∃ journal, result = .ok (entries, journal) ∧
      journal.files = after ∧ journal.IsSpelt entries := by
  obtain ⟨⟨number, contents⟩, found, same⟩ := Option.map_eq_some_iff.mp stored
  obtain rfl : contents = _ := same
  refine (ends_openAmong_spelt tidy found spells stops).imp fun _ after done => ?_
  obtain ⟨rfl, tidy, whole, -⟩ := done
  exact ⟨_, rfl, rfl, ⟨bytes, ⟨tidy, _, whole, (List.append_nil _).symm⟩, spells⟩, rfl,
    spells.lastSequence_eq⟩

/-- A journal is opened without entries where there is none. -/
theorem ends_openAmong_fresh (tidy : files.IsTidy)
    (fresh : ∀ number contents, files.file? path = some (number, contents) → contents = []) :
    Work.Ends openAmong files fun result after => ∃ journal, result = .ok ([], journal) ∧
      journal.files = after ∧ journal.IsSpelt [] := by
  refine (ends_openAmong_new tidy fresh).imp fun _ after done => ?_
  obtain ⟨⟨number, rfl, made⟩, tidy, -⟩ := done
  exact ⟨_, rfl, rfl, ⟨[], ⟨tidy, _, made, by simp⟩, rfl⟩, rfl, rfl⟩

/-- A file that does not begin as a journal is not opened. -/
theorem ends_openAmong_of_not {number : Nat} {fault : FrameFault} (tidy : files.IsTidy)
    (found : files.file? path = some (number, contents)) (nonempty : contents ≠ [])
    (strange : Frame.afterHeader contents = .error fault) :
    Work.Ends openAmong files fun result _ => result = .error (.malformed fault) := by
  obtain ⟨-, held⟩ := FileSystem.file?_eq_some.mp found
  have located := tidy.locate_file isFile_path found
  change files.locate path = _ at located
  have unread : replay contents = .error fault := by
    rw [replay, strange]
    rfl
  rw [openAmong, Work.ends_bind, recover, Work.ends_bind, contents?, Work.ends_bind,
    FileSystem.ends_find, located]
  simp [FileSystem.ends_read tidy.toIsCalm, located, held, nonempty, unread, Except.map]

end Journal

/-! ## Stores -/

/-- Files can be opened with a table of nodes: the journal begins with entries that make it, and
does not go on with the next one. -/
structure FileSystem.Tells (files : FileSystem) (nodes : Table Entry) : Prop where
  /-- The directory is tidy. -/
  tidy : files.IsTidy
  /-- The entries make the table. -/
  told : ∃ entries bytes torn, Journal.stored? files = some (Frame.header ++ bytes ++ torn) ∧
    Journal.Spells 1 entries bytes ∧ Journal.Stops (1 + entries.length) torn ∧
    tableOf [] entries = .ok nodes

namespace DiskStores

variable {stores : DiskStores}

/-- Stores whose journal makes their table of nodes. -/
structure IsLive (stores : DiskStores) (entries : List JournalEntry) : Prop where
  /-- The entries are spelt in the journal. -/
  spelt : stores.journal.IsSpelt entries
  /-- The entries make the table. -/
  replayed : tableOf [] entries = .ok stores.nodes

theorem IsLive.areProper (live : stores.IsLive entries) :
    AreProper stores.nodes entries.length := by
  obtain ⟨bytes, -, spells⟩ := live.spelt.isOpen
  have proper := areProper_nil.tableOf spells.isMade live.replayed
  rwa [Nat.zero_add] at proper

theorem IsLive.tells (live : stores.IsLive entries) :
    stores.journal.files.Tells stores.nodes := by
  obtain ⟨bytes, ⟨tidy, front, found, whole⟩, spells⟩ := live.spelt.isOpen
  rw [live.spelt.flushed, List.append_nil] at whole
  subst whole
  refine ⟨tidy, entries, bytes, [], ?_, spells, Journal.stops_nil, live.replayed⟩
  rw [Journal.stored?, found, List.append_nil]
  rfl

/-! ### Opening -/

/-- What is left to do once the journal has been opened. -/
theorem ends_openIn_of_spelt
    (opened : Work.Ends Journal.openAmong files fun result after => ∃ journal,
      result = .ok (entries, journal) ∧ journal.files = after ∧ journal.IsSpelt entries) :
    Work.Ends (openIn name config) files fun result _ =>
      match tableOf [] entries with
      | .ok nodes => ∃ stores, result = .ok stores ∧ stores.IsLive entries ∧ stores.nodes = nodes
      | .error cause => result = .error cause := by
  rw [openIn, Work.ends_bind, ends_opening]
  refine opened.imp fun result after done => ?_
  obtain ⟨journal, rfl, rfl, spelt⟩ := done
  simp only [Result.mapError_ok]
  split
  · rename_i cause refused
    simp only [refused]
    exact rfl
  · rename_i nodes replayed
    simp only [replayed, Work.ends_bind, ends_opening]
    obtain ⟨bytes, ⟨tidy, front, found, whole⟩, spells⟩ := spelt.isOpen
    have free : ∀ part ∈ shelvesPath, '/' ∉ part.toList := by decide
    have dotless : ∀ folder ∈ shelvesPath, '.' ∉ folder.toList := by decide
    refine (tidy.ends_makeDirectories free dotless
      ⟨by decide +kernel, by decide +kernel⟩).imp fun result last done => ?_
    obtain ⟨rfl, tidy, spares, -⟩ := done
    simp only [Work.ends_get, Work.ends_pure]
    have kept := (spares.file _ Journal.isFile_path.plain (by simp)).trans found
    exact ⟨_, rfl, ⟨⟨⟨bytes, ⟨tidy, front, kept, whole⟩, spells⟩, spelt.flushed, spelt.counted⟩,
      replayed⟩, rfl⟩

end DiskStores

/-- Files that tell a table of nodes are opened with it. -/
theorem FileSystem.Tells.ends_openIn (tells : files.Tells nodes) :
    Work.Ends (openIn name config) files fun result _ => ∃ stores entries, result = .ok stores ∧
      stores.IsLive entries ∧ stores.nodes = nodes := by
  obtain ⟨tidy, entries, bytes, torn, stored, spells, stops, replayed⟩ := tells
  have read := Journal.ends_openAmong_told tidy stored spells stops
  refine (DiskStores.ends_openIn_of_spelt read).imp fun result _ done => ?_
  rw [replayed] at done
  obtain ⟨stores, rfl, live, same⟩ := done
  exact ⟨stores, entries, rfl, live, same⟩

namespace DiskStores

variable {stores : DiskStores}

/-- Stores that could be opened are live. -/
theorem exists_isLive_of_openIn (tidy : files.IsTidy) {start : DiskStores}
    (opened : ((openIn name config).run files).1 = .ok start) :
    ∃ entries, start.IsLive entries := by
  have live {entries : List JournalEntry}
      (ends : Work.Ends Journal.openAmong files fun result after => ∃ journal,
        result = .ok (entries, journal) ∧ journal.files = after ∧ journal.IsSpelt entries) :
      ∃ entries, start.IsLive entries := by
    have done := @ends_openIn_of_spelt files entries name config ends
    rw [Work.Ends, opened] at done
    split at done
    · obtain ⟨stores, same, live, -⟩ := done
      exact ⟨entries, Except.ok.inj same ▸ live⟩
    · cases done
  by_cases fresh : ∀ number contents, files.file? Journal.path = some (number, contents) →
    contents = []
  · exact live (Journal.ends_openAmong_fresh tidy fresh)
  simp only [not_forall] at fresh
  obtain ⟨number, contents, found, nonempty⟩ := fresh
  cases begun : Frame.afterHeader contents with
  | ok rest =>
      obtain rfl := Frame.afterHeader_eq_ok.mp begun
      obtain ⟨entries, front, torn, rfl, spells, stops⟩ := Journal.exists_spells 1 rest
      refine live (Journal.ends_openAmong_told tidy ?_ spells stops)
      rw [Journal.stored?, found, List.append_assoc]
      rfl
  | error fault =>
      have refused : Work.Ends (openIn name config) files fun result _ =>
          result = .error (ioError (.malformed fault)) := by
        rw [openIn, Work.ends_bind, ends_opening]
        refine (Journal.ends_openAmong_of_not tidy found nonempty begun).imp fun result _ done => ?_
        rw [done]
        exact rfl
      rw [Work.Ends, opened] at refused
      cases refused

/-! ### Changes -/

theorem IsLive.tick (live : stores.IsLive entries) :
    { stores with journal.files := stores.journal.files.tick : DiskStores }.IsLive entries := by
  obtain ⟨⟨⟨bytes, ⟨tidy, front, found, whole⟩, spells⟩, flushed, counted⟩, replayed⟩ := live
  exact ⟨⟨⟨bytes, ⟨tidy.tick, front, found, whole⟩, spells⟩, flushed, counted⟩, replayed⟩

/-- The table stays the same when the journal is rewritten. -/
theorem IsLive.ends_compact (live : stores.IsLive entries) (fits : entries.length < 2 ^ 64) :
    Work.Ends compact stores fun _ after => after.nodes = stores.nodes ∧
      ∃ others, after.IsLive others ∧ others.length ≤ entries.length := by
  have proper := live.areProper
  have few : (puts stores.nodes).length ≤ entries.length := by
    rw [puts, List.length_map]
    exact proper.few
  rw [compact, Work.ends_bind]
  simp only [Work.ends_get, ends_onJournal]
  refine (live.spelt.ends_rewrite proper.isMade_of_mem_puts (by omega)).imp fun _ journal done => ?_
  refine ⟨trivial, ?_⟩
  rcases done with rewritten | same
  · refine ⟨_, ⟨rewritten, Journal.tableOf_puts proper.sorted⟩, ?_⟩
    rwa [Journal.length_numberFrom]
  · exact ⟨entries, ⟨same, live.replayed⟩, le_rfl⟩

/-- A change goes to the journal before it is made; one that is refused has no effect. -/
theorem IsLive.ends_change (live : stores.IsLive entries) (made : delta.IsMade)
    (fits : entries.length + 1 < 2 ^ 64) :
    Work.Ends (change delta) stores fun result after =>
      (∃ others, after.IsLive others ∧ others.length ≤ entries.length + 1) ∧
      match delta.apply stores.nodes with
      | .error cause => result = .error cause ∧ after = stores
      | .ok nodes =>
        match (JournalEntry.number (stores.journal.sequence + 1) delta).encode with
        | .error _ => result = .error .io ∧ after = stores
        | .ok _ => after.nodes = nodes := by
  have same : ∃ others, stores.IsLive others ∧ others.length ≤ entries.length + 1 :=
    ⟨entries, live, Nat.le_succ _⟩
  rw [change, Work.ends_bind]
  simp only [Work.ends_get]
  cases applied : delta.apply stores.nodes with
  | error cause => exact ⟨same, rfl, rfl⟩
  | ok nodes =>
      simp only [Work.ends_bind, ends_onJournal]
      cases framed : (JournalEntry.number (stores.journal.sequence + 1) delta).encode with
      | error fault =>
          refine (Journal.ends_append_of_not framed).imp fun _ _ done => ?_
          obtain ⟨rfl, rfl⟩ := done
          exact ⟨same, rfl, rfl⟩
      | ok frame =>
          refine (live.spelt.ends_append made fits framed).imp fun _ journal done => ?_
          obtain ⟨⟨count, rfl⟩, spelt⟩ := done
          have grown : { stores with journal := journal, nodes := nodes : DiskStores }.IsLive
              (entries ++ [.number (entries.length + 1) delta]) :=
            ⟨spelt, Journal.tableOf_append live.replayed applied⟩
          obtain ⟨bytes, isOpen, -⟩ := spelt.isOpen
          simp only [Result.mapError_ok, Work.ends_modify, Journal.ends_size isOpen spelt.flushed]
          have size : (entries ++ [JournalEntry.number (entries.length + 1) delta]).length =
              entries.length + 1 := by simp
          split
          · refine (grown.tick.ends_compact (by omega)).imp fun _ after done => ?_
            obtain ⟨kept, others, live, few⟩ := done
            exact ⟨⟨others, live, by omega⟩, kept⟩
          · exact ⟨⟨_, grown.tick, size.le⟩, rfl⟩

/-- A journal to which a frame has been added in part still tells the table. -/
theorem IsLive.tells_of_short (live : stores.IsLive entries) {frame : Bytes}
    (framed : (JournalEntry.number (entries.length + 1) delta).encode = .ok frame)
    (spells : Journal.Spells 1 entries bytes) (tidy : files.IsTidy) {count : Nat}
    (stored : Journal.stored? files = some (Frame.header ++ bytes ++ frame.take count))
    (short : count < frame.length) : files.Tells stores.nodes := by
  have unread := Frame.read_take framed short
  exact ⟨tidy, entries, bytes, _, stored, spells, Journal.stops_of_read unread, live.replayed⟩

/-- With the whole frame it tells the next one. -/
theorem IsLive.tells_of_whole (live : stores.IsLive entries) (made : delta.IsMade)
    (fits : entries.length + 1 < 2 ^ 64) {frame : Bytes}
    (framed : (JournalEntry.number (entries.length + 1) delta).encode = .ok frame)
    (applied : delta.apply stores.nodes = .ok next) (spells : Journal.Spells 1 entries bytes)
    (tidy : files.IsTidy)
    (stored : Journal.stored? files = some (Frame.header ++ bytes ++ frame)) :
    files.Tells next := by
  have whole := spells.append_change made fits framed
  rw [← List.append_nil (_ ++ frame), List.append_assoc Frame.header] at stored
  exact ⟨tidy, _, _, [], stored, whole, Journal.stops_nil,
    Journal.tableOf_append live.replayed applied⟩

theorem IsLive.ends_openAmong (live : stores.IsLive entries) :
    Work.Ends Journal.openAmong stores.journal.files fun result after => ∃ journal,
      result = .ok (entries, journal) ∧ journal.files = after ∧ journal.IsSpelt entries := by
  obtain ⟨bytes, isOpen, spells⟩ := live.spelt.isOpen
  obtain ⟨tidy, front, found, whole⟩ := isOpen
  rw [live.spelt.flushed, List.append_nil] at whole
  subst whole
  refine Journal.ends_openAmong_told tidy ?_ spells Journal.stops_nil
  rw [Journal.stored?, found, List.append_nil]
  rfl

/-! ### Uses -/

/-- What is done with stores in a directory. -/
inductive Use where
  /-- The nodes are changed. -/
  | change (delta : Delta)
  /-- The journal is rewritten. -/
  | compact
  /-- The stores are left and opened again. -/
  | reopen (config : Config)

namespace Use

/-- The changes that a use is about. -/
def changes : Use → List Delta
  | .change delta => [delta]
  | .compact => []
  | .reopen _ => []

/-- The stores after a use; what is refused leaves them open. -/
def run (stores : DiskStores) : Use → Except StorageError DiskStores
  | .change delta => .ok ((DiskStores.change delta).run stores).2
  | .compact => .ok (DiskStores.compact.run stores).2
  | .reopen config => ((openIn stores.directory config).run stores.journal.close).1

end Use

/-- The stores after uses. -/
def runAll (stores : DiskStores) : List Use → Except StorageError DiskStores
  | [] => .ok stores
  | use :: rest => do runAll (← use.run stores) rest

/-- A use leaves live stores. -/
theorem IsLive.run (live : stores.IsLive entries) {use : Use}
    (made : ∀ delta ∈ use.changes, delta.IsMade)
    (fits : entries.length + use.changes.length < 2 ^ 64) :
    ∃ after others, use.run stores = .ok after ∧ after.IsLive others ∧
      others.length ≤ entries.length + use.changes.length := by
  cases use with
  | change delta =>
      obtain ⟨⟨others, after, few⟩, -⟩ := live.ends_change (made delta List.mem_cons_self) fits
      exact ⟨_, others, rfl, after, few⟩
  | compact =>
      obtain ⟨-, others, after, few⟩ := live.ends_compact fits
      exact ⟨_, others, rfl, after, few⟩
  | reopen config =>
      have ends := @ends_openIn_of_spelt _ entries stores.directory config live.ends_openAmong
      rw [live.replayed] at ends
      obtain ⟨after, opened, again, -⟩ := ends
      refine ⟨after, entries, ?_, again, Nat.le_add_right _ _⟩
      rw [Use.run, Journal.close_of_flushed live.spelt.flushed]
      exact opened

/-- Uses leave live stores. -/
theorem IsLive.runAll (live : stores.IsLive entries) {uses : List Use}
    (made : ∀ delta ∈ uses.flatMap Use.changes, delta.IsMade)
    (fits : entries.length + (uses.flatMap Use.changes).length < 2 ^ 64) :
    ∃ after others, runAll stores uses = .ok after ∧ after.IsLive others ∧
      others.length ≤ entries.length + (uses.flatMap Use.changes).length := by
  induction uses generalizing stores entries with
  | nil => exact ⟨stores, entries, rfl, live, le_rfl⟩
  | cons use rest ih =>
      rw [List.flatMap_cons] at made fits ⊢
      rw [List.length_append] at fits ⊢
      obtain ⟨between, others, ran, live, few⟩ := live.run
        (fun delta member => made delta (List.mem_append_left _ member)) (by omega)
      obtain ⟨after, last, onward, live, most⟩ := ih live
        (fun delta member => made delta (List.mem_append_right _ member)) (by omega)
      exact ⟨after, last, by rw [DiskStores.runAll, ran]; exact onward, live, by omega⟩

/-- The journal makes the table of nodes: all of its file is replayed, and no entry is refused. -/
def Reflects (stores : DiskStores) : Prop :=
  ∃ contents entries, Journal.stored? stores.journal.files = some contents ∧
    Journal.replay contents = .ok (entries, contents.length) ∧
    tableOf [] entries = .ok stores.nodes

theorem IsLive.reflects (live : stores.IsLive entries) : stores.Reflects := by
  obtain ⟨bytes, ⟨-, front, found, whole⟩, spells⟩ := live.spelt.isOpen
  rw [live.spelt.flushed, List.append_nil] at whole
  subst whole
  refine ⟨_, entries, congrArg (Option.map Prod.snd) found, ?_, live.replayed⟩
  have replayed := Journal.replay_append spells Journal.stops_nil
  rwa [List.append_nil] at replayed

/-- Files can be opened, whatever the settings are, with nodes of some kind that the journal
makes. -/
def Reopens (files : FileSystem) (directory : String) (goal : Table Entry → Prop) : Prop :=
  ∀ config, ∃ again, ((openIn directory config).run files).1 = .ok again ∧ again.Reflects ∧
    goal again.nodes

theorem reopens_of_tells {goal : Table Entry → Prop} (tells : files.Tells nodes)
    (good : goal nodes) : Reopens files name goal := by
  intro config
  obtain ⟨stores, entries, opened, live, rfl⟩ :=
    @FileSystem.Tells.ends_openIn files _ name config tells
  exact ⟨stores, opened, live.reflects, good⟩

end DiskStores

end ShelfLibrary
