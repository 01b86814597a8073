import ViewLayers.Script.Expressions

/-!
Classes: what they extend, and their members.
-/

namespace ViewLayers.Script.Reading

inductive Key where
  | constructor
  | prototype
  | other

def memberKey : Reading Key := do
  match ← token with
  | .privateName w =>
    advance
    flawIf (w == "constructor")
    return .other
  | .word "constructor" _ => advance; return .constructor
  | .word "prototype" _ => advance; return .prototype
  | .string (some "constructor") => advance; return .constructor
  | .string (some "prototype") => advance; return .prototype
  | _ => propertyKey; return .other

/-- Whether the parameters of a method stand here. -/
def atMethod : Reading Bool := do
  return (← atMark "(") || ((← atMark "<") && (← context).dialect.types)

/-- The value of a field, read as the body of a function of its own. -/
def fieldValue : Reading Unit := do
  if ← eatMark "=" then
    let _ ← within (fun c => { c with awaits := false, yields := false, inOperator := true })
      (call (.assign true))
  semicolon

/-- A method or field after its modifiers. -/
def methodOrField (modifiers : List String) : Reading Unit := do
  let isStatic := modifiers.contains "static"
  let awaits := modifiers.contains "async"
  let yields ← eatMark "*"
  let key ← memberKey
  let optional ← (do
    unless (← context).dialect.types do return false
    if ← eatMark "?" then return true
    if !(← newline) && (← atMark "!") then advance
    return false)
  flawIf (match key with
    | .prototype => isStatic
    | .constructor => !isStatic && optional
    | .other => false)
  if yields || awaits || (← atMethod) then
    let make ← functionRest awaits yields
    flawIf (match key with
      | .constructor => !isStatic && (yields || awaits || make.typeParameters
          || make.parameters.contains .receiver)
      | _ => false)
    flawIf (modifiers.contains "readonly")
  else
    flawIf (match key with
      | .constructor => true
      | _ => false)
    annotation
    fieldValue

def accessor (isStatic : Bool) : Reading Unit := do
  let gives ← atWord "get"
  advance
  let key ← memberKey
  flawIf (match key with
    | .constructor => !isStatic
    | .prototype => isStatic
    | .other => false)
  accessorRest gives

def accessibility : List String := ["public", "private", "protected"]

/-- The modifiers that a modifier has to stand before. -/
def mustPrecede : String → List String
  | "public" | "private" | "protected" =>
    accessibility ++ ["abstract", "accessor", "async", "override", "readonly", "static"]
  | "static" => ["accessor", "async", "override", "readonly"]
  | "override" => ["accessor", "async", "readonly"]
  | "abstract" => ["accessor", "override"]
  | _ => []

/-- Whether modifiers are all different and stand in an order that is allowed. -/
def inOrder : List String → Bool
  | [] => true
  | m :: ms => ms.all (fun m' => m' != m && !(mustPrecede m').contains m) && inOrder ms

def classMember : Reading Unit := do
  let decorated ← decorators
  if (← atWord "static") && (← next (atMark "\x7b")) then
    flawIf decorated
    advance
    within (fun c => { c with awaits := true, yields := false, returns := false,
                              inOperator := true, decorating := false }) block
    return
  let types := (← context).dialect.types
  let ms ← modifiers (if types then declarationModifiers else ["static", "async", "accessor"])
  flawIf (!inOrder ms)
  flawIf (ms.any accessibility.contains && (← atPrivateName))
  if ← atAccessor then accessor (ms.contains "static")
  else if types && (← atIndexSignature) then
    flawIf (ms.any fun m => m != "static" && m != "readonly")
    indexSignature
  else methodOrField ms

/-- Members between braces, semicolons among them. -/
def classBody : Reading Unit := do
  expectMark "\x7b"
  repeating () fun _ => do
    if ← eatMark "\x7d" then return .inr ()
    unless ← eatMark ";" do classMember
    return .inl ()

/-- Names of types with commas between them. -/
def typeNames : Reading Unit := repeating () fun _ => do
  entityName
  maybeTypeArguments
  if ← eatMark "," then return .inl ()
  return .inr ()

/-- A class from its `class` on, and its name if it has one. -/
def classFrom (named : Bool) : Reading (Option String) := do
  expectWord "class"
  let types := (← context).dialect.types
  let anonymous ← (do
    if types && (← atWord "implements") then return !(← next (atWord "implements"))
    return !(← atIdentifier))
  let name ← (do
    if anonymous then
      if named then fail
      return none
    return some (← identifier))
  typeParameters
  if ← eatWord "extends" then
    let _ ← call .leftHand
    if types then maybeTypeArguments
  if types then
    if ← eatWord "implements" then typeNames
  within (fun c => { c with decorating := false }) classBody
  return name

/-- A class in an expression, its decorators before it. -/
def classExpression : Reading Unit := do
  let _ ← decorators
  let _ ← classFrom false

end ViewLayers.Script.Reading
