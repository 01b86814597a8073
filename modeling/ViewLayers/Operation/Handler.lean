import ViewLayers.Operation.Watching

/-!
Handlers: an operation that can be invoked again and again, each invocation taking the place of the
one before. A handler keeps the last request for retries. An error that was taken out of it can
retry too, as long as a handle of the handler is left.
-/

namespace ViewLayers

mutual

inductive Request (A ε α : Type) where
  /-- An operation without an outcome of its own waits at a gate. -/
  | mk (args : A) (outcome : Option (Outcome ε α)) (atCall : AtCall A ε α) (atPoll : AtPoll A ε α)

/-- What an operation does to its handler while it is being started. It cannot be a retry, which
would start the same request over and over without end. -/
inductive AtCall (A ε α : Type) where
  | nothing
  | abort
  | reset
  | invoke (request : Request A ε α)

inductive AtPoll (A ε α : Type) where
  | nothing
  | abort
  | reset
  | retry
  | invoke (request : Request A ε α)

end

def Request.args {A ε α : Type} : Request A ε α → A
  | .mk args _ _ _ => args

structure Handler (A ε α : Type) where
  watching : Watching ε α := {}
  /-- What the operation of each settlement has still to do when it is first polled. -/
  atPoll : List (AtPoll A ε α) := []
  last : Option (Request A ε α) := none
  /-- The arguments of every call. -/
  calls : List A := []
  /-- The reasons of the errors that were taken out. -/
  errors : List ε := []

namespace Handler

variable {A ε α : Type}

inductive Event (A ε α : Type) where
  | invoke (handle : Nat) (request : Request A ε α)
  | retry (handle : Nat)
  /-- Begin to invoke; anything may come before the operation has started. -/
  | start (handle : Nat) (args : A) (outcome : Option (Outcome ε α))
  | startRetry (handle : Nat) (outcome : Option (Outcome ε α))
  /-- An operation has started: its settlement is there. -/
  | started (start : Nat)
  | abort (handle : Nat)
  | reset (handle : Nat)
  | keepError (handle : Nat)
  | errorRetry (error : Nat)
  /-- An error takes a handle for the time of its retry. -/
  | upgrade (error : Nat)
  | clone (handle : Nat)
  | drop (handle : Nat)
  | poll (settlement : Nat)
  | forget (settlement : Nat)
  | settle (gate : Nat) (outcome : Outcome ε α)
  | abandon (gate : Nat) (lost : Outcome ε α)

inductive Answer (ε : Type) where
  | plain (r : Reply Unit)
  /-- The number of an error that was taken out, and its reason. -/
  | kept (error : Option (Nat × ε))
  | noSuchError

def abort (h : Handler A ε α) : Handler A ε α := { h with watching := h.watching.abort }

def reset (h : Handler A ε α) : Handler A ε α := { h with watching := h.watching.reset }

/-- How many settlements there have been, which is the number of the next one. -/
def size (h : Handler A ε α) : Nat := h.watching.settlements.length

/-- A call under way, with its guard and its gate: the tracker watches the new operation before the
operation is started. -/
def beginCall (h : Handler A ε α) (r : Request A ε α) (args : A)
    (outcome : Option (Outcome ε α)) : Nat × Nat × Handler A ε α :=
  let (guard, w) := h.watching.beginWatch
  let (gate, w) := w.addGate outcome
  (guard, gate, { h with watching := w, last := some r, calls := h.calls ++ [args] })

def endCall (h : Handler A ε α) (guard gate : Nat) (atPoll : AtPoll A ε α) : Handler A ε α :=
  { h with watching := h.watching.addSettlement guard gate, atPoll := h.atPoll ++ [atPoll] }

mutual

/-- Start an operation in place of the one before. Its settlement is the last of the session. -/
def invoke (h : Handler A ε α) : Request A ε α → Handler A ε α
  | .mk args outcome atCall atPoll =>
    let (guard, gate, h) := h.beginCall (.mk args outcome atCall atPoll) args outcome
    (h.duringCall atCall).endCall guard gate atPoll

def duringCall (h : Handler A ε α) : AtCall A ε α → Handler A ε α
  | .nothing => h
  | .abort => h.abort
  | .reset => h.reset
  | .invoke r => h.invoke r

end

/-- Invoke once more with the last request, if there was one: the number of the settlement. -/
def retry (h : Handler A ε α) : Option Nat × Handler A ε α :=
  match h.last with
  | some r => let h := h.invoke r; (some (h.size - 1), h)
  | none => (none, h)

def lastArgs? (h : Handler A ε α) : Option A := h.last.map Request.args

/-- The first half of a call: its operation has not started. -/
def beginStart (h : Handler A ε α) (args : A) (outcome : Option (Outcome ε α)) : Handler A ε α :=
  { h with
    watching := h.watching.beginStart outcome
    last := some (.mk args outcome .nothing .nothing)
    calls := h.calls ++ [args] }

/-- The first half of a call with the last arguments, if there was one: the number of the start. -/
def beginRetry (h : Handler A ε α) (outcome : Option (Outcome ε α)) :
    Option Nat × Handler A ε α :=
  match h.lastArgs? with
  | some args => (some h.watching.starting.length, h.beginStart args outcome)
  | none => (none, h)

/-- The second half of a call: the number of the settlement. -/
def endStart (h : Handler A ε α) (start : Nat) : Option Nat × Handler A ε α :=
  let (n, watching) := h.watching.endStart start
  (n, { h with watching, atPoll := h.atPoll ++ n.toList.map fun _ => .nothing })

def onPoll (h : Handler A ε α) : AtPoll A ε α → Handler A ε α
  | .nothing => h
  | .abort => h.abort
  | .reset => h.reset
  | .retry => h.retry.2
  | .invoke r => h.invoke r

/-- Do what the operation of a settlement does when it is first polled. It needs a handle. -/
def firstPoll (h : Handler A ε α) (n : Nat) : Handler A ε α :=
  let act := h.atPoll[n]?.getD .nothing
  let h := { h with atPoll := h.atPoll.set n .nothing }
  if h.watching.isAlive then h.onPoll act else h

def poll (h : Handler A ε α) (n : Nat) : Polled Unit × Handler A ε α :=
  match h.watching.settlements[n]? with
  | some (some _) =>
    let h := h.firstPoll n
    let (p, watching) := h.watching.poll n
    (p, { h with watching })
  | _ => (.gone, h)

/-- The reason of the error that the handler shows. -/
def error? (h : Handler A ε α) : Option ε := h.watching.tracker.lifecycle.error

/-- Take out the error that the handler shows. -/
def keepError (h : Handler A ε α) : Option (Nat × ε) × Handler A ε α :=
  match h.error? with
  | some e => (some (h.errors.length, e), { h with errors := h.errors ++ [e] })
  | none => (none, h)

/-- Retry through an error. It leads nowhere once the last handle is dropped. -/
def errorRetry (h : Handler A ε α) : Option Nat × Handler A ε α :=
  if h.watching.isAlive then h.retry else (none, h)

/-- A handle for an error that retries, unless the last one is dropped. -/
def upgrade (h : Handler A ε α) : Option Nat × Handler A ε α :=
  if h.watching.isAlive then
    let (n, watching) := h.watching.addHandle
    (some n, { h with watching })
  else (none, h)

/-- A step that concerns the handler's operations only as a watched one. -/
def onWatching (h : Handler A ε α) (e : Watching.Event ε α) :
    Option (Answer ε × Handler A ε α) :=
  (h.watching.step e).map fun (r, watching) => (.plain r, { h with watching })

def through (h : Handler A ε α) (handle : Nat) (r : Answer ε × Handler A ε α) :
    Option (Answer ε × Handler A ε α) :=
  if h.watching.isHandle handle then some r else none

/-- A step, or none where it speaks of a handle that is not there, or upgrades an error that is not
there. -/
def step (h : Handler A ε α) : Event A ε α → Option (Answer ε × Handler A ε α)
  | .invoke handle r =>
    let h' := h.invoke r
    h.through handle (.plain (.number (h'.size - 1)), h')
  | .retry handle => let (n, h') := h.retry; h.through handle (.plain (.numberIfAny n), h')
  | .start handle args outcome =>
    h.through handle (.plain (.number h.watching.starting.length), h.beginStart args outcome)
  | .startRetry handle outcome =>
    let (n, h') := h.beginRetry outcome
    h.through handle (.plain (.numberIfAny n), h')
  | .started start => let (n, h) := h.endStart start; some (.plain (.numberIfAny n), h)
  | .keepError handle => let (e, h') := h.keepError; h.through handle (.kept e, h')
  | .errorRetry error =>
    if error < h.errors.length then
      let (n, h) := h.errorRetry
      some (.plain (.numberIfAny n), h)
    else some (.noSuchError, h)
  | .upgrade error =>
    if error < h.errors.length then
      let (n, h) := h.upgrade
      some (.plain (.numberIfAny n), h)
    else none
  | .poll n => let (p, h) := h.poll n; some (.plain (.polled p), h)
  | .abort handle => h.onWatching (.abort handle)
  | .reset handle => h.onWatching (.reset handle)
  | .clone handle => h.onWatching (.clone handle)
  | .drop handle => h.onWatching (.drop handle)
  | .forget n => h.onWatching (.forget n)
  | .settle gate r => h.onWatching (.settle gate r)
  | .abandon gate lost => h.onWatching (.abandon gate lost)

end Handler

end ViewLayers
