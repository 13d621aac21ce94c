import ShelfLibrary.Proofs.Opening
import ShelfLibrary.Proofs.Recovery
import ShelfLibrary.Proofs.Transaction

/-!
# Libraries on disk and in memory

A library on disk answers every query as a library in memory does and holds the same afterwards,
wherever between the queries it is closed or dropped and opened again.  The documents that it stores
have to be read back, and the system has to be able to have its files.
-/

namespace ShelfLibrary

variable {held : MemoryStores} {library : Library} {disk : DiskLibrary} {name : String}

/-! ## Runs -/

namespace DiskLibrary

open DiskStores (answer)

/-- What is done with a library on disk. -/
inductive Step where
  /-- A query is carried out. -/
  | query (query : Query)
  /-- The library is closed, or just dropped, and opened again with some settings. -/
  | reopen (closes : Bool) (config : Config)

/-- The query that a step carries out. -/
def Step.query? : Step → Option Query
  | query asked => some asked
  | reopen _ _ => none

/-- The files after a library is closed or dropped. -/
def leave (disk : DiskLibrary) (closes : Bool) : Except LibraryError FileSystem :=
  if closes then disk.close.1.map fun _ => disk.close.2 else .ok disk.release

/-- The library that is opened in a directory after another one there is left. -/
def reopen (disk : DiskLibrary) (name : String) (closes : Bool) (config : Config) :
    Except LibraryError DiskLibrary := do
  (openIn name config (← disk.leave closes)).1

/-- What the queries among steps come to, and the library after the steps. -/
def runAll (name : String) (disk : DiskLibrary) :
    List Step → Except LibraryError (List (Except LibraryError Outcome) × DiskLibrary)
  | [] => .ok ([], disk)
  | .query query :: rest => do
    let (result, after) := disk.perform (Library.execute query)
    let (results, last) ← runAll name after rest
    return (result :: results, last)
  | .reopen closes config :: rest => do
    runAll name (← disk.reopen name closes config) rest

/-- All calls of a task are admitted when they are made. -/
def Allows {α : Type} (disk : DiskLibrary) (task : Library.Task α) : Prop :=
  Action.Ends answer DiskStores.Admits task disk.library disk.stores fun _ _ _ => True

/-- All calls of some steps are admitted when they are made, and the settings are valid. -/
def AllowsAll (name : String) (disk : DiskLibrary) : List Step → Prop
  | [] => True
  | .query query :: rest =>
    disk.Allows (Library.execute query) ∧
      AllowsAll name (disk.perform (Library.execute query)).2 rest
  | .reopen closes config :: rest =>
    Config.minJournalSize ≤ config.maxJournalSize ∧
      (closes = true → disk.Allows (finish disk.config.compactOnClose)) ∧
        ∀ after, disk.reopen name closes config = .ok after → AllowsAll name after rest

/-! ## Steps -/

/-- A task whose calls are admitted comes to the same as over stores in memory. -/
theorem Holds.perform {α : Type} (holds : disk.Holds library held) {task : Library.Task α}
    (allows : disk.Allows task)
    (attains : Action.Attains task library held fun _ after world => after.Mirrors world) :
    let memory := task.runOn MemoryStores.answer library held
    (disk.perform task).1 = memory.1 ∧ (disk.perform task).2.Holds memory.2.1 memory.2.2 := by
  obtain ⟨rfl, mirrors, stores⟩ := holds
  have alike (request : StoreCall) (low : DiskStores) (high : MemoryStores)
      (related : low.Holds high disk.lock) (admits : DiskStores.Admits request low)
      (proper : request.IsProper high) :
      (answer request low).1 = (MemoryStores.answer request high).1 ∧
        (answer request low).2.Holds (MemoryStores.answer request high).2 disk.lock :=
    related.answer proper admits
  obtain ⟨result, state, after⟩ := Action.runOn_of_answer alike stores allows attains
  exact ⟨result, state, attains.runOn, after⟩

theorem attains_finish (mirrors : library.Mirrors held) (compacts : Bool) :
    Action.Attains (finish compacts) library held fun result after world =>
      result = .ok () ∧ after = library ∧ world = held := by
  have verified : Action.Attains Namespace.compact library.nodes held fun result nodes world =>
      result = .ok () ∧ nodes = library.nodes ∧ world = held := by
    refine Action.ends_bind.mpr (Action.ends_ask.mpr ⟨trivial, ?_⟩)
    exact Namespace.attains_verify mirrors.nodes_eq ⟨rfl, rfl, rfl⟩
  refine Action.ends_bind.mpr (Action.ends_get.mpr ?_)
  change Action.Attains (if compacts && !library.isPoisoned then
    Library.onNodes Namespace.compact else pure ()) library held _
  split
  · refine Action.ends_on.mpr (verified.imp fun result nodes world done => ?_)
    obtain ⟨rfl, rfl, rfl⟩ := done
    exact ⟨rfl, rfl, rfl⟩
  · exact ⟨rfl, rfl, rfl⟩

/-- Closing makes admitted calls only if the entries of the nodes are read back. -/
theorem allows_finish (kept : DiskStores.KeepsNodes disk.stores.nodes) (compacts : Bool) :
    disk.Allows (finish compacts) := by
  refine Action.ends_bind.mpr (Action.ends_get.mpr ?_)
  change Action.Ends answer DiskStores.Admits (if compacts && !disk.library.isPoisoned then
    Library.onNodes Namespace.compact else pure ()) disk.library disk.stores _
  split
  · refine Action.ends_on.mpr (Action.ends_bind.mpr (Action.ends_ask.mpr ⟨kept, ?_⟩))
    split
    · refine Action.ends_bind.mpr (Action.ends_ask.mpr ⟨trivial, ?_⟩)
      split
      · refine Action.ends_bind.mpr (Action.ends_get.mpr ?_)
        dsimp only
        split <;> trivial
      · trivial
    · trivial
  · trivial

/-- A library that is left leaves a directory in which it rests. -/
theorem Holds.leave (holds : disk.Holds library held) {closes : Bool}
    (allows : closes = true → disk.Allows (finish disk.config.compactOnClose)) :
    ∃ files, disk.leave closes = .ok files ∧ files.Rests held := by
  cases closes with
  | false => exact ⟨_, rfl, holds.rests_release⟩
  | true =>
      have attains := attains_finish holds.mirrors disk.config.compactOnClose
      obtain ⟨result, finished⟩ := holds.perform (allows rfl) <|
        attains.imp fun result after world done => by
          obtain ⟨-, rfl, rfl⟩ := done
          exact holds.mirrors
      obtain ⟨succeeds, same, still⟩ := attains.runOn
      rw [succeeds] at result
      rw [same, still] at finished
      refine ⟨disk.close.2, ?_, finished.rests_release⟩
      have closed : disk.close.1 = .ok () := result
      rw [DiskLibrary.leave, if_pos rfl, closed]
      rfl

/-- A library that is left and opened again holds the same. -/
theorem Holds.reopen (holds : disk.Holds library held) {closes : Bool} {config : Config}
    (large : Config.minJournalSize ≤ config.maxJournalSize)
    (allows : closes = true → disk.Allows (finish disk.config.compactOnClose)) :
    ∃ after, disk.reopen name closes config = .ok after ∧ after.Holds library held := by
  obtain ⟨files, left, rests⟩ := holds.leave allows
  have opening : ∃ after, openIn name config files = (.ok after, after.files) ∧
      after.Holds library held ∧ after.config = config :=
    openIn_of_rests holds.mirrors rests large
  obtain ⟨after, opened, still, -⟩ := opening
  exact ⟨after, by rw [DiskLibrary.reopen, left]; exact congrArg Prod.fst opened, still⟩

/-! ## Agreement -/

/-- Steps come to the same as their queries over stores in memory. -/
theorem Holds.runAll (holds : disk.Holds library held) {steps : List Step}
    (allows : disk.AllowsAll name steps) :
    let queries := steps.filterMap Step.query?
    let memory := Library.runAll MemoryStores.answer (library, held) queries
    ∃ last, disk.runAll name steps =
        .ok (Library.results MemoryStores.answer (library, held) queries, last) ∧
      last.Holds memory.1 memory.2 := by
  induction steps generalizing disk library held with
  | nil => exact ⟨disk, rfl, holds⟩
  | cons step rest ih =>
      cases step with
      | query asked =>
          obtain ⟨first, others⟩ := allows
          obtain ⟨result, still⟩ :=
            holds.perform first (Library.attains_execute_mirrors holds.mirrors asked)
          obtain ⟨last, ran, agrees⟩ := ih still others
          refine ⟨last, ?_, agrees⟩
          rw [DiskLibrary.runAll]
          simp only [ran, result]
          rfl
      | reopen closes config =>
          obtain ⟨large, closing, others⟩ := allows
          obtain ⟨after, reopened, still⟩ := holds.reopen large closing
          obtain ⟨last, ran, agrees⟩ := ih still (others after reopened)
          exact ⟨last, by rw [DiskLibrary.runAll, reopened]; exact ran, agrees⟩

/-- A library on disk, made in an empty directory, gives the same result for every query as a
library in memory and holds the same after all of them, wherever it is closed or dropped and opened
again, and whenever its journal is rewritten. -/
theorem agrees_runAll {config : Config} {steps : List Step}
    (large : Config.minJournalSize ≤ config.maxJournalSize)
    (allows : ∀ disk, (openIn name config .empty).1 = .ok disk → disk.AllowsAll name steps) :
    let queries := steps.filterMap Step.query?
    let memory := Library.runAll MemoryStores.answer (.empty, .empty) queries
    ∃ disk last, (openIn name config .empty).1 = .ok disk ∧
      disk.runAll name steps =
        .ok (Library.results MemoryStores.answer (.empty, .empty) queries, last) ∧
      last.Holds memory.1 memory.2 := by
  intro queries memory
  have opening : ∃ disk, openIn name config .empty = (.ok disk, disk.files) ∧
      disk.Holds .empty .empty ∧ disk.config = config :=
    openIn_of_rests Library.mirrors_empty FileSystem.rests_empty large
  obtain ⟨disk, opened, holds, -⟩ := opening
  have first : (openIn name config .empty).1 = .ok disk := congrArg Prod.fst opened
  obtain ⟨last, ran, agrees⟩ := holds.runAll (allows disk first)
  exact ⟨disk, last, first, ran, agrees⟩

/-! ### A run -/

theorem sequence_storeShelf {stores : DiskStores} {location : Location} {contents : ShelfData} :
    (answer (.storeShelf location contents) stores).2.journal.sequence =
      stores.journal.sequence := by
  have same : Work.Ends (DiskStores.storeShelf location contents) stores fun _ after =>
      after.journal.sequence = stores.journal.sequence := by
    rw [DiskStores.storeShelf, Work.ends_bind, DiskStores.ends_fileOf]
    cases DiskStores.shelfFile stores.directory location with
    | error cause => rfl
    | ok file =>
        simp only [Work.ends_bind, DiskStores.ends_fileBytes]
        cases Frame.fileOfJson contents.toJson with
        | error fault => trivial
        | ok bytes => exact rfl
  exact same

theorem isKept_put {sequence : Nat} (few : sequence ≤ 1) :
    Journal.IsKept (.number sequence (.put "a" (.ofShelf "a"))) := by
  have made : (Delta.put "a" (.ofShelf "a")).IsMade := ⟨by decide +kernel, by decide +kernel⟩
  have short : ∀ number ≤ 1, (Bytes.ofText
      (JournalEntry.number number (.put "a" (.ofShelf "a"))).toJson.compact).length ≤
        Frame.lengthLimit := by decide +kernel
  exact Journal.isKept_of_encode made (by omega) (Frame.encode_eq_ok.mpr ⟨short sequence few, rfl⟩)

theorem allows_buildShelf {disk : DiskLibrary} (holds : disk.Holds .empty .empty)
    (unnumbered : disk.stores.journal.sequence = 0) :
    disk.Allows (Library.execute (.single (.buildShelf ⟨none, "a", none, none⟩))) := by
  have canonical : (Location.ofKey "a").IsCanonical := ⟨"a", by decide, rfl⟩
  have first : DiskStores.Admits (.storeShelf (.ofKey "a") .empty) disk.stores := by
    refine ⟨⟨by decide +kernel, by decide +kernel⟩, by decide +kernel, ?_⟩
    exact (Frame.decodePayload_eq_ok (ShelfData.intsFit_toJson _)).mpr ⟨by decide, rfl⟩
  obtain ⟨stored, still⟩ := holds.stores.answer
    (show (StoreCall.storeShelf (.ofKey "a") .empty).IsProper .empty from canonical) first
  have fits : (Delta.put "a" (.ofShelf "a")).Fits [] := ⟨by decide, rfl, rfl⟩
  have second : DiskStores.Admits (.changeNodes (.put "a" (.ofShelf "a")))
      (answer (.storeShelf (.ofKey "a") .empty) disk.stores).2 := by
    refine ⟨isKept_put (by rw [sequence_storeShelf, unnumbered]), fun nodes applied _ => ?_⟩
    rw [still.nodes_eq] at applied
    obtain rfl := Except.ok.inj (fits.apply_eq.symm.trans applied)
    exact ⟨isKept_put le_rfl, trivial⟩
  obtain ⟨changed, last⟩ := still.answer
    (show (StoreCall.changeNodes (.put "a" (.ofShelf "a"))).IsProper _ from fits) second
  obtain ⟨counted, -⟩ := last.answer (show StoreCall.countNodes.IsProper _ from trivial) trivial
  rw [Allows, holds.library_eq]
  refine Plan.ends_call stored first ?_
  refine Plan.ends_call changed second ?_
  refine Plan.ends_call counted trivial ?_
  exact trivial

/-- A shelf is built, the journal is rewritten when the library is closed, and after that the shelf
cannot be built again. -/
theorem agrees_runAll_closed :
    let build : Query := .single (.buildShelf ⟨none, "a", none, none⟩)
    let config : Config := ⟨false, 4096, true⟩
    let steps : List Step := [.query build, .reopen true config, .query build, .reopen false .usual]
    ∃ disk last, (openIn "library" config .empty).1 = .ok disk ∧ disk.AllowsAll "library" steps ∧
      disk.runAll "library" steps =
        .ok ([.ok (.built "a" .shelf), .error (.resolution (.duplicate "a"))], last) ∧
      last.Holds ⟨.ofTable [("a", .ofShelf "a")], .empty, false⟩
        ⟨[("a", .ofShelf "a")], [("a", .empty)], none⟩ := by
  intro build config steps
  have allows : ∀ disk, (openIn "library" config .empty).1 = .ok disk →
      disk.AllowsAll "library" steps := by
    intro disk opened
    have opening : ∃ disk, openIn "library" config .empty = (.ok disk, disk.files) ∧
        disk.Holds .empty .empty ∧ disk.config = config :=
      openIn_of_rests Library.mirrors_empty FileSystem.rests_empty le_rfl
    obtain ⟨other, same, holds, -⟩ := opening
    obtain rfl := Except.ok.inj (opened.symm.trans (congrArg Prod.fst same))
    have unnumbered : disk.stores.journal.sequence = 0 := by
      have numbers : (openIn "library" config .empty).1.toOption.map
          (fun disk => disk.stores.journal.sequence) = some 0 := by decide +kernel
      rw [opened] at numbers
      exact Option.some.inj numbers
    have first := allows_buildShelf holds unnumbered
    obtain ⟨-, built⟩ := holds.perform first (Library.attains_execute_mirrors holds.mirrors build)
    have kept : DiskStores.KeepsNodes (disk.perform (Library.execute build)).2.stores.nodes := by
      rw [built.stores.nodes_eq]
      exact ⟨isKept_put le_rfl, trivial⟩
    have closes := allows_finish kept
    refine ⟨first, le_rfl, fun _ => closes _, fun after reopened => ?_⟩
    have reopening : ∃ after,
        (disk.perform (Library.execute build)).2.reopen "library" true config = .ok after ∧
          after.Holds _ _ := built.reopen le_rfl fun _ => closes _
    obtain ⟨again, same, still⟩ := reopening
    obtain rfl := Except.ok.inj (reopened.symm.trans same)
    refine ⟨?_, by decide, nofun, fun _ _ => trivial⟩
    rw [Allows, still.library_eq]
    exact trivial
  obtain ⟨disk, last, opened, ran, agrees⟩ := agrees_runAll le_rfl allows
  exact ⟨disk, last, opened, allows disk opened, ran, agrees⟩

end DiskLibrary

end ShelfLibrary
