import ShelfLibrary.Library.Selection

/-!
# Checkouts

A checkout gathers the shelves of its items, each shelf once, keeps those that pass the filter,
sorts them and cuts a page out of the result.  Shelves that no criterion tells apart stay in the
order in which they were gathered.
-/

namespace ShelfLibrary

/-- A candidate of a checkout with the item that it was gathered for. -/
structure Picked where
  /-- The candidate. -/
  candidate : Candidate
  /-- The item. -/
  item : CheckOutItem

namespace Picked

/-- The fields of the candidate that its item asks for; an absent one is null. -/
def row (picked : Picked) : Row :=
  if picked.item.selectsAll then ⟨picked.candidate.key, picked.candidate.record⟩
  else
    let fields := picked.item.selection.map fun path =>
      (path, (picked.candidate.local? path).getD .null)
    ⟨picked.candidate.key, Table.ofEntries fields⟩

end Picked

namespace SortItem

/-- The order of two values under a criterion. -/
def compare (item : SortItem) (left right : Value) : Ordering :=
  match item.order with
  | .ascending => left.sortCompare right
  | .descending => right.sortCompare left

/-- The order of two lists of values under as many criteria: the first that tells them apart. -/
def compareAll : List SortItem → List Value → List Value → Ordering
  | item :: items, x :: xs, y :: ys =>
    match item.compare x y with
    | .eq => compareAll items xs ys
    | order => order
  | _, _, _ => .eq

end SortItem

namespace Library

/-- Adds the candidates of an item that have not been gathered for an earlier one. -/
def addPicked (item : CheckOutItem) (gathered : List Picked) (candidates : List Candidate) :
    List Picked :=
  candidates.foldl (fun all candidate =>
    if all.any fun picked => picked.candidate.key == candidate.key then all
    else all ++ [⟨candidate, item⟩]) gathered

/-- The candidates of all items. -/
def gatherItems (gathered : List Picked) : List CheckOutItem → Session.Task (List Picked)
  | [] => return gathered
  | item :: rest => do
    let candidates ← gather item.path
    gatherItems (addPicked item gathered candidates) rest

/-- Those of the candidates that the filter keeps. -/
def selectPicked (filters : Filters) : List Picked → Session.Task (List Picked)
  | [] => return []
  | picked :: rest => do
    let keep ← filters.evaluate (operand picked.candidate)
    let others ← selectPicked filters rest
    return if keep then picked :: others else others

/-- The values by which a candidate is sorted. -/
def sortKeys (criteria : List SortItem) (picked : Picked) : Session.Task (List Value) :=
  criteria.mapM fun item => operand picked.candidate item.path

/-- The candidates in the order of the criteria. -/
def sortPicked (criteria : List SortItem) (all : List Picked) : Session.Task (List Picked) := do
  let keyed ← all.mapM fun picked => do return (← sortKeys criteria picked, picked)
  let sorted := keyed.mergeSort fun left right =>
    (SortItem.compareAll criteria left.1 right.1).isLE
  return sorted.map Prod.snd

/-- A part of a list: some items are skipped, and at most so many are taken. -/
def page {α : Type} (offset limit : Option Nat) (items : List α) : List α :=
  let rest := items.drop (offset.getD 0)
  match limit with
  | none => rest
  | some count => rest.take count

/-- The rows of a checkout. -/
def readRows (step : CheckOut) : Session.Task (List Row) := do
  let gathered ← gatherItems [] step.items
  let selected ← match step.filters with
    | none => pure gathered
    | some filters => selectPicked filters gathered
  let sorted ← if step.sort.isEmpty then pure selected else sortPicked step.sort selected
  return (page step.offset step.limit sorted).map Picked.row

/-- The rows of a checkout from an open library. -/
def checkOut (step : CheckOut) : Task (List Row) := do
  if (← get).isPoisoned then throw .poisoned
  Session.once (readRows step)

end Library

end ShelfLibrary
