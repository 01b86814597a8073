/-!
Gates: outcomes that are still to come. A gate is settled once, by whoever promised the outcome, and
only while somebody waits for it.
-/

namespace ViewLayers

variable {ρ : Type}

inductive Gate (ρ : Type) where
  /-- Somebody waits for the outcome. -/
  | awaited
  /-- Nobody waits any more, and nobody has tried to settle it since. -/
  | deserted
  | settled (outcome : ρ)
  /-- No outcome will ever come through it. -/
  | closed

/-- The gate of an operation whose outcome may be known from the start. -/
def Gate.ofOutcome : Option ρ → Gate ρ
  | some r => .settled r
  | none => .awaited

/-- Gates by their numbers. -/
abbrev Gates (ρ : Type) := List (Gate ρ)

namespace Gates

/-- Settle a gate, and say whether the outcome goes through. A gate that nobody waits at is closed
by the attempt. -/
def settle (gs : Gates ρ) (n : Nat) (r : ρ) : Bool × Gates ρ :=
  match gs[n]? with
  | some .awaited => (true, gs.set n (.settled r))
  | some .deserted => (false, gs.set n .closed)
  | _ => (false, gs)

/-- Give up a gate that has not been settled, whether or not somebody waits. -/
def abandon (gs : Gates ρ) (n : Nat) (lost : ρ) : Bool × Gates ρ :=
  match gs[n]? with
  | some .awaited => (true, gs.set n (.settled lost))
  | some .deserted => (true, gs.set n .closed)
  | _ => (false, gs)

/-- Wait no longer at a gate. -/
def desert (gs : Gates ρ) (n : Nat) : Gates ρ :=
  match gs[n]? with
  | some .awaited => gs.set n .deserted
  | some (.settled _) => gs.set n .closed
  | _ => gs

/-- What has come through a gate. -/
def outcome? (gs : Gates ρ) (n : Nat) : Option ρ :=
  match gs[n]? with
  | some (.settled r) => some r
  | _ => none

end Gates

inductive Polled (ρ : Type) where
  | done (r : ρ)
  | pending
  /-- It has finished or was dropped before, or never was. -/
  | gone

inductive Reply (ρ : Type) where
  | nothing
  | number (n : Nat)
  | numberIfAny (n : Option Nat)
  | flag (b : Bool)
  | polled (p : Polled ρ)

end ViewLayers
