import ViewLayers.Operation.Gate
import ViewLayers.Localization.Messages

/-!
A cache of messages by locale and namespace. A lookup that finds nothing creates a load; until the
load has finished, further lookups share it. A load starts when it is first polled, through
whichever of the pending answers that share it, and a load that fails leaves empty messages behind.
-/

namespace ViewLayers

/-- What a load comes to. -/
abbrev Loaded := Except String Messages

/-- What a load does when it starts. What a loader does with the cache after that comes between the
poll that starts it and the one that finds what it came to, so a loader that does more waits. -/
inductive Loader where
  | come (result : Loaded)
  /-- Find out what the cache says of the load's own key. -/
  | probe
  /-- Come to what follows from the messages that the cache has and from the keys that load. -/
  | read (f : (String → Option Messages) → (String → Bool) → Loaded)
  | wait

inductive LoadState where
  | fresh (loader : Loader)
  | started (gate : Nat)
  | finished

structure Load where
  key : String
  state : LoadState

inductive CacheEntry where
  | ready (messages : Messages)
  | loading (load : Nat)

structure MessageCache where
  /-- There are none once the cache itself is dropped. -/
  entries : Dict CacheEntry := ∅
  isAlive : Bool := true
  loads : List Load := []
  /-- The load of each pending answer that has not finished or been dropped. -/
  pendings : List (Option Nat) := []
  gates : Gates Loaded := []

namespace MessageCache

inductive Event where
  | get (locale ns : String)
  | isLoading (locale ns : String)
  | insert (locale ns : String) (messages : Messages)
  | clear
  | lookup (locale ns : String) (loader : Loader)
  | poll (pending : Nat)
  | forget (pending : Nat)
  | settle (gate : Nat) (result : Loaded)
  | abandon (gate : Nat) (lost : Loaded)
  /-- Drop the cache itself. -/
  | drop

inductive Answer where
  | plain (r : Reply Unit)
  | messages (m : Option Messages)
  | ready (m : Messages)
  | pending (n : Nat)

def key (locale ns : String) : String := locale ++ ":" ++ ns

def get? (c : MessageCache) (k : String) : Option Messages :=
  match c.entries.get? k with
  | some (.ready m) => some m
  | _ => none

def isLoading (c : MessageCache) (k : String) : Bool :=
  match c.entries.get? k with
  | some (.loading _) => true
  | _ => false

def insert (c : MessageCache) (k : String) (m : Messages) : MessageCache :=
  { c with entries := c.entries.insert k (.ready m) }

/-- Another pending answer for a load. -/
def addPending (c : MessageCache) (load : Nat) : Answer × MessageCache :=
  (.pending c.pendings.length, { c with pendings := c.pendings ++ [some load] })

def lookup (c : MessageCache) (k : String) (loader : Loader) : Answer × MessageCache :=
  match c.entries.get? k with
  | some (.ready m) => (.ready m, c)
  | some (.loading load) => c.addPending load
  | none =>
    let load := c.loads.length
    let loads := c.loads ++ [⟨k, .fresh loader⟩]
    let entries := c.entries.insert k (.loading load)
    { c with loads, entries }.addPending load

/-- What a loader comes to if it starts now, unless it waits. -/
def outcome? (c : MessageCache) (k : String) : Loader → Option Loaded
  | .come r => some r
  | .probe =>
    some (.ok (Dict.ofList [("state", if c.isLoading k then "loading" else "idle")]))
  | .read f => some (f c.get? c.isLoading)
  | .wait => none

/-- Start a load that has not started. -/
def start (c : MessageCache) (load : Nat) : MessageCache :=
  match c.loads[load]? with
  | some ⟨k, .fresh loader⟩ =>
    let loads := c.loads.set load ⟨k, .started c.gates.length⟩
    { c with loads, gates := c.gates ++ [.ofOutcome (c.outcome? k loader)] }
  | _ => c

/-- What a load that has come to something leaves in the cache. -/
def store (c : MessageCache) (k : String) (r : Loaded) : MessageCache :=
  if c.isAlive then c.insert k (r.toOption.getD ∅) else c

/-- Bring a load as far as it goes, and say whether it has finished. -/
def advance (c : MessageCache) (load : Nat) : Bool × MessageCache :=
  let c := c.start load
  match c.loads[load]? with
  | some ⟨k, .started gate⟩ =>
    match c.gates.outcome? gate with
    | some r => (true, { c.store k r with loads := c.loads.set load ⟨k, .finished⟩ })
    | none => (false, c)
  | _ => (true, c)

def poll (c : MessageCache) (n : Nat) : Polled Unit × MessageCache :=
  match c.pendings[n]? with
  | some (some load) =>
    let (finished, c) := c.advance load
    if finished then (.done (), { c with pendings := c.pendings.set n none }) else (.pending, c)
  | _ => (.gone, c)

def forget (c : MessageCache) (n : Nat) : Bool × MessageCache :=
  match c.pendings[n]? with
  | some (some _) => (true, { c with pendings := c.pendings.set n none })
  | _ => (false, c)

/-- Whether a pending answer or an entry still holds a load. -/
def holds (c : MessageCache) (load : Nat) : Bool :=
  c.pendings.contains (some load) || c.entries.values.any fun
    | .loading l => l == load
    | .ready _ => false

/-- Nobody waits at the gate of a load that nothing holds any more. -/
def sweep (c : MessageCache) : MessageCache :=
  let gates := c.loads.zipIdx.foldl (fun gates (l, n) =>
    match l.state with
    | .started gate => if c.holds n then gates else gates.desert gate
    | _ => gates) c.gates
  { c with gates }

/-- How many loads have started. -/
def started (c : MessageCache) : Nat := c.gates.length

/-- A step, or none where it speaks to a cache that was dropped. -/
def step (c : MessageCache) : Event → Option (Answer × MessageCache)
  | .get locale ns =>
    if c.isAlive then some (.messages (c.get? (key locale ns)), c) else none
  | .isLoading locale ns =>
    if c.isAlive then some (.plain (.flag (c.isLoading (key locale ns))), c) else none
  | .insert locale ns m =>
    if c.isAlive then some (.plain .nothing, (c.insert (key locale ns) m).sweep) else none
  | .clear => if c.isAlive then some (.plain .nothing, { c with entries := ∅ }.sweep) else none
  | .drop =>
    if c.isAlive then some (.plain .nothing, { c with entries := ∅, isAlive := false }.sweep)
    else none
  | .lookup locale ns loader =>
    if c.isAlive then some (c.lookup (key locale ns) loader) else none
  | .poll n => let (p, c) := c.poll n; some (.plain (.polled p), c.sweep)
  | .forget n => let (b, c) := c.forget n; some (.plain (.flag b), c.sweep)
  | .settle gate r =>
    let (b, gates) := c.gates.settle gate r; some (.plain (.flag b), { c with gates })
  | .abandon gate lost =>
    let (b, gates) := c.gates.abandon gate lost; some (.plain (.flag b), { c with gates })

end MessageCache

end ViewLayers
