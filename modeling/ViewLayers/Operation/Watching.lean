import ViewLayers.Operation.Gate
import ViewLayers.Operation.Tracker

/-!
A tracker in use: the handles that keep it alive, and the settlements of the operations that it was
given to watch. A settlement does not keep the tracker alive, and it finishes only by settling it.
-/

namespace ViewLayers

structure Settlement where
  guard : Nat
  gate : Nat

structure Watching (ε α : Type) where
  tracker : Tracker ε α := {}
  /-- Which of the handles ever made are not dropped. -/
  handles : List Bool := [true]
  /-- How many handles were made that do not keep the tracker alive. -/
  weakHandles : Nat := 0
  /-- Operations that were taken up and are being started. What has started is none. -/
  starting : List (Option Settlement) := []
  /-- What has finished or was dropped is none. -/
  settlements : List (Option Settlement) := []
  gates : Gates (Outcome ε α) := []

namespace Watching

variable {ε α : Type}

inductive Reentry where
  | abort
  | reset
  | watch

inductive Event (ε α : Type) where
  /-- Watch an operation, whose outcome may be known from the start. -/
  | watch (handle : Nat) (outcome : Option (Outcome ε α))
  | watchReentrant (handle : Nat) (act : Reentry) (outcome : Option (Outcome ε α))
  /-- Take up an operation and begin to start it; anything may come before it has started. -/
  | start (handle : Nat) (outcome : Option (Outcome ε α))
  /-- An operation has started: its settlement is there. -/
  | started (start : Nat)
  | abort (handle : Nat)
  | reset (handle : Nat)
  | clone (handle : Nat)
  | drop (handle : Nat)
  | downgrade (handle : Nat)
  | upgrade (weak : Nat)
  | poll (settlement : Nat)
  | forget (settlement : Nat)
  | settle (gate : Nat) (outcome : Outcome ε α)
  | abandon (gate : Nat) (lost : Outcome ε α)

def isHandle (s : Watching ε α) (handle : Nat) : Bool := s.handles[handle]?.getD false

/-- Whether a handle is left. -/
def isAlive (s : Watching ε α) : Bool := s.handles.any id

/-- Take up a new operation: its guard. -/
def beginWatch (s : Watching ε α) : Nat × Watching ε α :=
  let (guard, tracker) := s.tracker.watch
  (guard, { s with tracker })

/-- The gate of an operation that starts. -/
def addGate (s : Watching ε α) (outcome : Option (Outcome ε α)) : Nat × Watching ε α :=
  (s.gates.length, { s with gates := s.gates ++ [.ofOutcome outcome] })

def addSettlement (s : Watching ε α) (guard gate : Nat) : Watching ε α :=
  { s with settlements := s.settlements ++ [some ⟨guard, gate⟩] }

def abort (s : Watching ε α) : Watching ε α := { s with tracker := s.tracker.abort }

def reset (s : Watching ε α) : Watching ε α := { s with tracker := s.tracker.reset }

/-- The operation of the inner watch is dropped before it is polled. -/
def reenter (s : Watching ε α) : Reentry → Watching ε α
  | .abort => s.abort
  | .reset => s.reset
  | .watch => s.beginWatch.2

/-- Watch an operation that does something to the session while it starts. -/
def watchWith (s : Watching ε α) (start : Watching ε α → Watching ε α)
    (outcome : Option (Outcome ε α)) : Watching ε α :=
  let (guard, s) := s.beginWatch
  let (gate, s) := s.addGate outcome
  (start s).addSettlement guard gate

/-- The first half of a watch: the operation is taken up before it starts. -/
def beginStart (s : Watching ε α) (outcome : Option (Outcome ε α)) : Watching ε α :=
  let (guard, s) := s.beginWatch
  let (gate, s) := s.addGate outcome
  { s with starting := s.starting ++ [some ⟨guard, gate⟩] }

/-- The second half: the number of the settlement. -/
def endStart (s : Watching ε α) (start : Nat) : Option Nat × Watching ε α :=
  match s.starting[start]? with
  | some (some f) =>
    (some s.settlements.length,
      { s with starting := s.starting.set start none }.addSettlement f.guard f.gate)
  | _ => (none, s)

def addHandle (s : Watching ε α) : Nat × Watching ε α :=
  (s.handles.length, { s with handles := s.handles ++ [true] })

/-- The last handle takes the guard in hand with it. -/
def dropHandle (s : Watching ε α) (handle : Nat) : Watching ε α :=
  let s := { s with handles := s.handles.set handle false }
  if s.isAlive then s else { s with tracker := s.tracker.letGo }

/-- An outcome that comes under a guard that is no longer good is never applied, and its settlement
stays pending. -/
def poll (s : Watching ε α) (n : Nat) : Polled Unit × Watching ε α :=
  match s.settlements[n]? with
  | some (some f) =>
    match s.gates.outcome? f.gate with
    | some r =>
      if s.tracker.admits f.guard then
        (.done (), { s with
          settlements := s.settlements.set n none, tracker := s.tracker.settle r })
      else (.pending, s)
    | none => (.pending, s)
  | _ => (.gone, s)

def forget (s : Watching ε α) (n : Nat) : Bool × Watching ε α :=
  match s.settlements[n]? with
  | some (some f) =>
    (true, { s with settlements := s.settlements.set n none, gates := s.gates.desert f.gate })
  | _ => (false, s)

def settle (s : Watching ε α) (gate : Nat) (r : Outcome ε α) : Bool × Watching ε α :=
  let (b, gates) := s.gates.settle gate r
  (b, { s with gates })

def abandon (s : Watching ε α) (gate : Nat) (lost : Outcome ε α) : Bool × Watching ε α :=
  let (b, gates) := s.gates.abandon gate lost
  (b, { s with gates })

/-- A step through a handle, or none if that handle is not there. -/
def through (s : Watching ε α) (handle : Nat) (r : Reply Unit × Watching ε α) :
    Option (Reply Unit × Watching ε α) :=
  if s.isHandle handle then some r else none

/-- A step, or none where it speaks of a handle that is not there. -/
def step (s : Watching ε α) : Event ε α → Option (Reply Unit × Watching ε α)
  | .watch handle outcome =>
    s.through handle (.number s.settlements.length, s.watchWith id outcome)
  | .watchReentrant handle act outcome =>
    s.through handle (.number s.settlements.length, s.watchWith (reenter · act) outcome)
  | .start handle outcome => s.through handle (.number s.starting.length, s.beginStart outcome)
  | .started start => let (n, s) := s.endStart start; some (.numberIfAny n, s)
  | .abort handle => s.through handle (.nothing, s.abort)
  | .reset handle => s.through handle (.nothing, s.reset)
  | .clone handle => let (n, s') := s.addHandle; s.through handle (.number n, s')
  | .drop handle => s.through handle (.nothing, s.dropHandle handle)
  | .downgrade handle =>
    s.through handle (.number s.weakHandles, { s with weakHandles := s.weakHandles + 1 })
  | .upgrade weak =>
    if weak < s.weakHandles then
      if s.isAlive then let (n, s) := s.addHandle; some (.numberIfAny (some n), s)
      else some (.numberIfAny none, s)
    else none
  | .poll n => let (p, s) := s.poll n; some (.polled p, s)
  | .forget n => let (b, s) := s.forget n; some (.flag b, s)
  | .settle gate r => let (b, s) := s.settle gate r; some (.flag b, s)
  | .abandon gate lost => let (b, s) := s.abandon gate lost; some (.flag b, s)

end Watching

end ViewLayers
