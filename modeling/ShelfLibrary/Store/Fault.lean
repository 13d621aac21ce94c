import ShelfLibrary.Store.Call

/-!
# Stores with faults

Any stores can be made to fail: a plan of faults decides, for each call that is made, whether it is
refused before it takes effect.  A drift changes the number of nodes that is counted, so that a
library and its stores can be made to disagree.
-/

namespace ShelfLibrary

/-- Which calls fail, and why, by the number of calls made before. -/
abbrev FaultPlan := Nat → StoreCall → Option StorageError

/-- Stores some of whose calls fail. -/
structure FaultyStores (σ : Type) where
  /-- The stores behind them. -/
  stores : σ
  /-- Which calls fail. -/
  plan : FaultPlan
  /-- What is added to the number of nodes. -/
  drift : Int
  /-- How many calls have been made. -/
  calls : Nat

namespace StoreCall

/-- The name of what a call does. -/
def name : StoreCall → String
  | .loadNodes => "ns.load"
  | .changeNodes (.put _ _) => "ns.put"
  | .changeNodes (.update _ _) => "ns.update"
  | .changeNodes (.remove _) => "ns.remove"
  | .changeNodes .clear => "ns.clear"
  | .countNodes => "ns.len"
  | .compactNodes => "ns.compact"
  | .loadShelf _ => "shelf.load"
  | .storeShelf _ _ => "shelf.store"
  | .deleteShelf _ => "shelf.delete"
  | .loadCatalog => "cat.load"
  | .saveCatalog _ => "cat.save"

/-- The key or place that a call is about. -/
def subject? : StoreCall → Option String
  | .changeNodes (.put key _) => some key
  | .changeNodes (.update key _) => some key
  | .changeNodes (.remove key) => some key
  | .loadShelf location => some location.path
  | .storeShelf location _ => some location.path
  | .deleteShelf location => some location.path
  | _ => none

/-- Whether a name stands for a call: alone, or with the key or place after a colon. -/
def isNamed (call : StoreCall) (name : String) : Bool :=
  name == call.name || call.subject?.any fun subject => name == call.name ++ ":" ++ subject

end StoreCall

/-- The plan by which the calls under some names fail. -/
def FaultPlan.named (names : List String) : FaultPlan := fun _ call =>
  if names.any call.isNamed then some (.backend ("injected " ++ call.name)) else none

namespace FaultyStores

variable {σ : Type}

/-- Stores none of whose calls fail. -/
def sound (stores : σ) : FaultyStores σ := ⟨stores, fun _ _ => none, 0, 0⟩

/-- A number of nodes with a drift added; no less than nothing. -/
def shift (drift : Int) (count : Nat) : Nat := (count + drift).toNat

/-- A reply as it is passed on: a number of nodes is shifted by the drift. -/
def adjust (drift : Int) : (call : StoreCall) → call.Reply → call.Reply
  | .countNodes, reply => reply.map (shift drift)
  | _, reply => reply

/-- How stores with faults answer. -/
def answer (behind : Stores σ) : Stores (FaultyStores σ) := fun call state =>
  let next := { state with calls := state.calls + 1 }
  match state.plan state.calls call with
  | some cause => (.error cause, next)
  | none =>
    let (reply, stores) := behind call state.stores
    (adjust state.drift call reply, { next with stores := stores })

end FaultyStores

end ShelfLibrary
