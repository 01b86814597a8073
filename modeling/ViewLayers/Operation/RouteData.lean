import ViewLayers.Operation.Handler
import ViewLayers.Dict
import ViewLayers.Json.Writing

/-!
The data of a route: a handler that is invoked when the route's parameters change. Parameters are
compared by the text that they are written as.
-/

namespace ViewLayers

/-- The parameters that a route was matched with; an optional one may be absent. -/
abbrev RouteParams := Dict (Option String)

namespace RouteParams

/-- A parameter as a field: what is absent is null. -/
def field (e : String × Option String) : Json.Data × Json.Data :=
  (.text e.1, e.2.elim .null .text)

def data (p : RouteParams) : Json.Data := .map (p.entries.map field)

def text? (p : RouteParams) : Except Json.Unwritable String := p.data.write

end RouteParams

structure RouteData (ε α : Type) where
  handler : Handler RouteParams ε α := {}
  /-- The text of the parameters of the last sync. -/
  lastText : Option String := none
  /-- What the route's operation comes to, if it does not wait at a gate. -/
  outcome : RouteParams → Option (Outcome ε α)

namespace RouteData

variable {ε α : Type}

inductive Event (ε α : Type) where
  | sync (params : RouteParams)
  /-- Begin a sync; if it calls for the operation, anything may come before that has started. -/
  | startSync (params : RouteParams) (outcome : Option (Outcome ε α))
  | invoke (params : RouteParams)
  | retry
  /-- Retry through the error that the handler shows. -/
  | errorRetry
  | abort
  | reset
  | poll (settlement : Nat)
  | forget (settlement : Nat)
  | settle (gate : Nat) (outcome : Outcome ε α)
  | abandon (gate : Nat) (lost : Outcome ε α)
  /-- Whatever else is done with the handler, by all who have a handle of it. -/
  | other (e : Handler.Event RouteParams ε α)

def request (l : RouteData ε α) (p : RouteParams) : Request RouteParams ε α :=
  .mk p (l.outcome p) .nothing .nothing

def invoke (l : RouteData ε α) (p : RouteParams) : Nat × RouteData ε α :=
  let handler := l.handler.invoke (l.request p)
  (handler.size - 1, { l with handler })

/-- What is said where parameters cannot be written. -/
def refusal (cause : Json.Unwritable) : String :=
  "route params could not be keyed: " ++ cause.message

/-- Keep the parameters of a sync, unless they are those of the last one. -/
def keep? (l : RouteData ε α) (p : RouteParams) :
    Except Json.Unwritable (Option (RouteData ε α)) :=
  p.text?.map fun text =>
    if l.lastText = some text then none else some { l with lastText := some text }

/-- Invoke the handler unless the last sync was with the same parameters. -/
def sync (l : RouteData ε α) (p : RouteParams) :
    Except Json.Unwritable (Option Nat × RouteData ε α) :=
  (l.keep? p).map fun
    | some l => let (n, l) := l.invoke p; (some n, l)
    | none => (none, l)

/-- The first half of a sync: its operation, if it calls for one, has not started. -/
def beginSync (l : RouteData ε α) (p : RouteParams) (outcome : Option (Outcome ε α)) :
    Except Json.Unwritable (Option Nat × RouteData ε α) :=
  (l.keep? p).map fun
    | some l =>
      (some l.handler.watching.starting.length,
        { l with handler := l.handler.beginStart p outcome })
    | none => (none, l)

/-- The first handle of the handler is the one that is used here, and it is not dropped. -/
def dropsFirst : Handler.Event RouteParams ε α → Bool
  | .drop handle => handle = 0
  | _ => false

def onHandler (l : RouteData ε α) (e : Handler.Event RouteParams ε α) :
    Option (Handler.Answer ε × RouteData ε α) :=
  (l.handler.step e).map fun (a, handler) => (a, { l with handler })

def answer (r : Except Json.Unwritable (Option Nat × RouteData ε α)) :
    Option (Handler.Answer ε × RouteData ε α) :=
  r.toOption.map fun (n, l) => (.plain (.numberIfAny n), l)

/-- A step, or none where it speaks of a handle that is not there or drops the first one, or syncs
with parameters that cannot be written. -/
def step (l : RouteData ε α) : Event ε α → Option (Handler.Answer ε × RouteData ε α)
  | .sync p => answer (l.sync p)
  | .startSync p outcome => answer (l.beginSync p outcome)
  | .invoke p => let (n, l) := l.invoke p; some (.plain (.number n), l)
  | .retry => l.onHandler (.retry 0)
  | .errorRetry =>
    if l.handler.error?.isSome then
      let (n, handler) := l.handler.errorRetry
      some (.plain (.numberIfAny n), { l with handler })
    else some (.plain (.numberIfAny none), l)
  | .abort => l.onHandler (.abort 0)
  | .reset => l.onHandler (.reset 0)
  | .poll n => l.onHandler (.poll n)
  | .forget n => l.onHandler (.forget n)
  | .settle gate r => l.onHandler (.settle gate r)
  | .abandon gate lost => l.onHandler (.abandon gate lost)
  | .other e => if dropsFirst e then none else l.onHandler e

end RouteData

end ViewLayers
