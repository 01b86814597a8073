import ViewLayers.Operation.Lifecycle

/-!
A tracker follows one operation at a time. It issues a guard to every operation that it watches and
holds on to the last one; an operation settles the tracker's lifecycle only under a guard that is
both held and valid.
-/

namespace ViewLayers

structure Tracker (ε α : Type) where
  lifecycle : Lifecycle ε α := {}
  /-- Whether each guard ever issued is valid. -/
  guards : List Bool := []
  /-- The number of the guard in hand. -/
  held : Option Nat := none

namespace Tracker

variable {ε α : Type}

def isValid (t : Tracker ε α) (guard : Nat) : Bool := t.guards[guard]?.getD false

/-- Generations are counted from one. -/
def generation? (t : Tracker ε α) : Option Nat := t.held.map (· + 1)

def send (t : Tracker ε α) (s : Signal ε α) : Tracker ε α :=
  { t with lifecycle := t.lifecycle.send s }

/-- Put down the guard in hand, which ends its validity. -/
def letGo (t : Tracker ε α) : Tracker ε α :=
  match t.held with
  | some guard => { t with guards := t.guards.set guard false, held := none }
  | none => t

/-- Watch a new operation, under a new guard. -/
def watch (t : Tracker ε α) : Nat × Tracker ε α :=
  let t := t.letGo
  let guard := t.guards.length
  (guard, { t with guards := t.guards ++ [true], held := some guard }.send .watch)

def abort (t : Tracker ε α) : Tracker ε α := t.letGo.send .abort

def reset (t : Tracker ε α) : Tracker ε α := t.send .reset

/-- Whether an operation under a guard may settle. -/
def admits (t : Tracker ε α) (guard : Nat) : Bool := t.held == some guard && t.isValid guard

def settle (t : Tracker ε α) (r : Outcome ε α) : Tracker ε α := t.send (.ofOutcome r)

end Tracker

end ViewLayers
