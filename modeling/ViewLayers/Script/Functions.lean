import ViewLayers.Script.Patterns

/-!
Functions: their bodies, and the arrow functions that an expression may turn out to be.
-/

namespace ViewLayers.Script.Reading

/-- Statements between braces. -/
def block : Reading Unit := do
  expectMark "\x7b"
  repeating () fun _ => do
    if ← eatMark "\x7d" then return .inr ()
    call (.statement false)
    return .inl ()

/-- Parameters, result type and body. With types, the body may be left out. -/
def functionRest (awaits yields : Bool) : Reading Make := do
  let inside {α : Type} (p : Reading α) := within (·.inFunction awaits yields) p
  let (typed, ps) ← inside do
    let typed ← typeParameterList
    let ps ← parameters
    resultAnnotation
    return (typed, ps)
  let body ← atMark "\x7b"
  if body then inside block
  else if (← context).dialect.types then semicolon
  else fail
  return ⟨typed, ps, body⟩

/-- A function from its `function` on, and its name if it has one. -/
def functionFrom (awaits : Bool) (named : Bool) : Reading (Option String × Make) := do
  expectWord "function"
  let yields ← eatMark "*"
  let name ← (do
    if ← atIdentifier then return some (← identifier)
    if named then fail
    return none)
  return (name, ← functionRest awaits yields)

def atAsyncFunction : Reading Bool := do
  return (← atWord "async") && (← next (do return (← atWord "function") && !(← newline)))

def functionExpression : Reading Expr := do
  let awaits ← eatWord "async"
  let _ ← within (·.inFunction awaits false) (functionFrom awaits false)
  return .other

/-! ### Arrow functions -/

/-- `=>` and what follows it. -/
def arrowBody (awaits returnTypes : Bool) : Reading Unit := do
  if ← newline then fail
  expectMark "=>"
  let inside (c : Context) := { c with awaits, yields := false, decorating := false }
  if ← atMark "\x7b" then within (·.inFunction awaits false) block
  else
    let _ ← within inside (call (.assign returnTypes))

/-- An arrow function with parameters in parentheses. -/
def arrowFunction (returnTypes : Bool) : Reading Expr := do
  let awaits ← eatWord "async"
  within (·.inFunction awaits false) do
    typeParameters
    let _ ← parameters
  let stated ← atMark ":"
  within (fun c => { c with awaits }) resultAnnotation
  arrowBody awaits returnTypes
  -- in the middle of a conditional expression, the colon has to be the one that ends it
  if stated && !returnTypes then
    unless ← atMark ":" do fail
  return .other

/-- Whether an arrow function may start here, judged by its first tokens. -/
def maybeArrowFunction : Reading Bool := ahead do
  if ← eatWord "async" then
    if ← newline then return false
  if ← atMark "<" then
    let c ← context
    if !c.dialect.types then return false
    if !c.dialect.markup then return true
    -- among markup, only what cannot be an element is a list of type parameters
    advance
    let _ ← eatWord "const"
    unless ← atIdentifier do return false
    advance
    if ← atWord "extends" then
      return !(← next (do return (← atMark "=") || (← atMark ">") || (← atMark "/")))
    return (← atMark ",") || (← atMark "=")
  expectMark "("
  if (← atMark ")") || (← atMark "...") || (← atMark "[") || (← atMark "\x7b")
      || (← atMark "@") then return true
  unless (← atIdentifier) || (← atWord "this") do return false
  advance
  if ← atAnyWord then return true
  return (← atMark ":") || (← atMark "?") || (← atMark ",") || (← atMark "=") || (← atMark ")")

/-- An arrow function whose one parameter stands without parentheses. -/
def bareArrowFunction (returnTypes : Bool) : Reading (Option Expr) := do
  let async ← (do
    return (← atWord "async") && (← next (do
      return (← atIdentifier) && !(← newline) && (← next (atMark "=>")))))
  if async then advance
  if (← atIdentifier) && (← next (do return (← atMark "=>") && !(← newline))) then
    let _ ← within (fun c => { c with awaits := async || c.awaits }) identifier
    arrowBody async returnTypes
    return some .other
  return none

/-- An arrow function, if one stands here. -/
def arrow? (returnTypes : Bool) : Reading (Option Expr) := do
  if let some e ← bareArrowFunction returnTypes then return some e
  if ← maybeArrowFunction then attempt (arrowFunction returnTypes) else return none

end ViewLayers.Script.Reading
