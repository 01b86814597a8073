import ViewLayers.Operation.Gate

/-!
Staleness guards. A guard shares its validity with its clones, and validity never comes back. What a
guard wraps passes its outcome on only if the guard is valid when the outcome is first seen.
-/

namespace ViewLayers

structure Guard where
  generation : Nat
  /-- The number of the validity that the guard shares. -/
  family : Nat

structure Wrapped where
  family : Nat
  gate : Nat

structure Guards (ρ : Type) where
  /-- Whether each family of guards is valid. -/
  families : List Bool := []
  guards : List Guard := []
  /-- What has finished or was dropped is none. -/
  futures : List (Option Wrapped) := []
  gates : Gates ρ := []

namespace Guards

variable {ρ : Type}

inductive Event (ρ : Type) where
  | new (generation : Nat)
  | clone (guard : Nat)
  | invalidate (guard : Nat)
  /-- Wrap an operation, whose outcome may be known from the start. -/
  | wrap (guard : Nat) (outcome : Option ρ)
  | poll (future : Nat)
  | forget (future : Nat)
  | settle (gate : Nat) (outcome : ρ)
  | abandon (gate : Nat) (lost : ρ)

def isValid (s : Guards ρ) (family : Nat) : Bool := s.families[family]?.getD false

def poll (s : Guards ρ) (n : Nat) : Polled ρ × Guards ρ :=
  match s.futures[n]? with
  | some (some f) =>
    match s.gates.outcome? f.gate with
    | some r =>
      if s.isValid f.family then (.done r, { s with futures := s.futures.set n none })
      else (.pending, s)
    | none => (.pending, s)
  | _ => (.gone, s)

def forget (s : Guards ρ) (n : Nat) : Bool × Guards ρ :=
  match s.futures[n]? with
  | some (some f) =>
    (true, { s with futures := s.futures.set n none, gates := s.gates.desert f.gate })
  | _ => (false, s)

/-- A step, or none where it speaks of a guard that is not there. -/
def step (s : Guards ρ) : Event ρ → Option (Reply ρ × Guards ρ)
  | .new generation =>
    let guard := ⟨generation, s.families.length⟩
    some (.nothing, { s with families := s.families ++ [true], guards := s.guards ++ [guard] })
  | .clone guard =>
    s.guards[guard]?.map fun g => (.nothing, { s with guards := s.guards ++ [g] })
  | .invalidate guard =>
    s.guards[guard]?.map fun g => (.nothing, { s with families := s.families.set g.family false })
  | .wrap guard outcome =>
    s.guards[guard]?.map fun g =>
      let future := ⟨g.family, s.gates.length⟩
      (.number s.futures.length,
        { s with futures := s.futures ++ [some future], gates := s.gates ++ [.ofOutcome outcome] })
  | .poll future => let (p, s) := s.poll future; some (.polled p, s)
  | .forget future => let (b, s) := s.forget future; some (.flag b, s)
  | .settle gate r =>
    let (b, gates) := s.gates.settle gate r; some (.flag b, { s with gates })
  | .abandon gate lost =>
    let (b, gates) := s.gates.abandon gate lost; some (.flag b, { s with gates })

/-- The generation of each guard, and whether it is valid. -/
def shown (s : Guards ρ) : List (Nat × Bool) :=
  s.guards.map fun g => (g.generation, s.isValid g.family)

end Guards

end ViewLayers
