import ViewLayers.Script.Reading

/-!
Types, and what the types of functions share with functions themselves: type parameters,
parameters and result types.
-/

namespace ViewLayers.Script.Reading

def type : Reading Unit := call .type

/-- Types where a conditional one needs parentheses, or no longer does. -/
def conditionally (b : Bool) (p : Reading Unit) : Reading Unit :=
  within (fun c => { c with conditionals := b }) p

/-- A name, or names with dots between them. -/
def entityName : Reading Unit := do
  let _ ← anyWord
  repeating () fun _ => do
    unless ← eatMark "." do return .inr ()
    let _ ← anyWord
    return .inl ()

/-- Types between angle brackets, at least one. -/
def typeArguments : Reading Unit := do
  splitAngle
  expectMark "<"
  let (ts, _) ← commaList ">" (conditionally true type)
  flawIf ts.isEmpty

def atAngle : Reading Bool := do
  match ← token with
  | .mark m => return m == "<" || m == "<<"
  | _ => return false

/-- Type arguments that start on the same line, if any. -/
def maybeTypeArguments : Reading Unit := do
  if (← atAngle) && !(← newline) then typeArguments

def typeParameter : Reading Unit := do
  repeating () fun _ => do
    -- `const`, `in` and `out` are modifiers if a name follows them
    if ← atWord "const" then advance; return .inl ()
    if ← atWord "in" then advance; return .inl ()
    if (← atWord "out") && (← next (do
        return (← atIdentifier) && !(← atWord "extends"))) then
      advance
      return .inl ()
    return .inr ()
  let _ ← identifier
  if ← eatWord "extends" then conditionally true type
  if ← eatMark "=" then conditionally true type

/-- Type parameters between angle brackets, if any, and whether there are. -/
def typeParameterList : Reading Bool := do
  unless (← context).dialect.types do return false
  unless ← eatMark "<" do return false
  let (ps, _) ← commaList ">" typeParameter
  flawIf ps.isEmpty
  return true

def typeParameters : Reading Unit := discard typeParameterList

/-- A type, or a predicate that a result may state in its place. -/
def resultType : Reading Unit := do
  if ← atWord "asserts" then
    if ← next (do return ((← atIdentifier) || (← atWord "this")) && !(← newline)
        && !(← atWord "is")) then
      advance
      advance
      if ← eatWord "is" then type
      return
  if ← atIdentifier then
    if ← next (do return (← atWord "is") && !(← newline)) then
      advance
      advance
  type

/-- `: type`, if it stands here and the dialect has types. -/
def annotation : Reading Unit := do
  if (← context).dialect.types then
    if ← eatMark ":" then conditionally true type

def resultAnnotation : Reading Unit := do
  if (← context).dialect.types then
    if ← eatMark ":" then conditionally true resultType

/-! ### Modifiers -/

def declarationModifiers : List String :=
  ["abstract", "accessor", "async", "declare", "override", "private", "protected", "public",
   "readonly", "static"]

/-- Whether a word before this token can be its modifier. -/
def followsModifier : Reading Bool := do
  return (← atMark "[") || (← atMark "\x7b") || (← atMark "*") || (← atMark "...")
    || (← atPlainKey)

/-- Words of `allowed` that stand as modifiers, in order. -/
def modifiers (allowed : List String) : Reading (List String) :=
  repeating [] fun seen => do
    match ← token with
    | .word w false =>
      let sameLine := w != "static"
      if allowed.contains w && (← next (do
          return (← followsModifier) && !(sameLine && (← newline)))) then
        -- a block follows `static` alone
        if w == "static" && (← next (atMark "\x7b")) then return .inr seen.reverse
        advance
        return .inl (w :: seen)
      return .inr seen.reverse
    | _ => return .inr seen.reverse

/-! ### Parameters -/

/-- Decorators, if any, and whether there are. -/
def decorators : Reading Bool := do
  unless ← atMark "@" do return false
  repeating () fun _ => do
    unless ← eatMark "@" do return .inr ()
    let _ ← within (fun c => { c with decorating := true }) (call .leftHand)
    return .inl ()
  return true

inductive Parameter where
  /-- The type of `this`, which takes no argument. -/
  | receiver
  | plain (initialised : Bool)
  | rest
deriving DecidableEq

structure Make where
  typeParameters : Bool
  parameters : List Parameter
  body : Bool

def Make.arguments (m : Make) : List Parameter := m.parameters.filter (· ≠ .receiver)

def parameter : Reading Parameter := do
  let types := (← context).dialect.types
  let _ ← decorators
  if types then
    let _ ← modifiers ["public", "private", "protected", "readonly", "override"]
  if types && (← atWord "this") then
    advance
    annotation
    return .receiver
  let rest ← eatMark "..."
  let _ ← call .pattern
  if types then
    if ← eatMark "?" then flawIf rest
  annotation
  let initialised ← eatMark "="
  if initialised then
    flawIf rest
    let _ ← value
  return if rest then .rest else .plain initialised

/-- Parameters in parentheses; the rest parameter ends them. -/
def parameters : Reading (List Parameter) := do
  expectMark "("
  let (ps, comma) ← commaList ")" parameter
  flawIf (ps.dropLast.contains .rest || comma && ps.getLast? == some .rest)
  return ps

/-! ### Members of types -/

/-- Whether an index signature stands here: brackets that hold a parameter. -/
def atIndexSignature : Reading Bool := ahead do
  expectMark "["
  if (← atMark "...") || (← atMark "]") then return true
  unless ← atIdentifier do return false
  advance
  if (← atMark ":") || (← atMark ",") then return true
  unless ← eatMark "?" do return false
  return (← atMark ":") || (← atMark ",") || (← atMark "]")

/-- The end of a member of a type. -/
def memberEnd : Reading Unit := do
  unless ← eatMark "," do semicolon

def indexSignature : Reading Unit := do
  expectMark "["
  let _ ← identifier
  annotation
  expectMark "]"
  annotation
  memberEnd

/-- Type parameters, parameters and result of a member. -/
def signature : Reading Unit := do
  typeParameters
  let _ ← parameters
  resultAnnotation

def atSignature : Reading Bool := return (← atMark "(") || (← atMark "<")

/-- Whether `get` or `set` stands here before the name of a property. -/
def atAccessor : Reading Bool := do
  if (← atWord "get") || (← atWord "set") then
    next (do return (← atPlainKey) || (← atMark "["))
  else return false

def typeMember : Reading Unit := do
  if ← atSignature then
    signature
    memberEnd
    return
  if (← atWord "new") && (← next atSignature) then
    advance
    signature
    memberEnd
    return
  let ms ← modifiers declarationModifiers
  flawIf (ms.any (· != "readonly"))
  if ← atAccessor then
    advance
    propertyKey
    signature
    memberEnd
  else if ← atIndexSignature then indexSignature
  else
    propertyKey
    let _ ← eatMark "?"
    if ← atSignature then signature else annotation
    memberEnd

/-- Members between braces. -/
def typeMembers : Reading Unit := do
  expectMark "\x7b"
  repeating () fun _ => do
    if ← eatMark "\x7d" then return .inr ()
    typeMember
    return .inl ()

/-- `+`, `-` or nothing, and then `word` or `mark`. -/
def mappedModifier (atIt : Reading Bool) : Reading Unit := do
  if (← atMark "+") || (← atMark "-") then
    advance
    unless ← atIt do fail
    advance
  else if ← atIt then advance

def atMappedType : Reading Bool := ahead do
  expectMark "\x7b"
  if (← atMark "+") || (← atMark "-") then
    advance
    return ← atWord "readonly"
  let _ ← eatWord "readonly"
  expectMark "["
  let _ ← identifier
  atWord "in"

def mappedType : Reading Unit := do
  expectMark "\x7b"
  mappedModifier (do return (← atWord "readonly") && (← next (atMark "[")))
  expectMark "["
  let _ ← identifier
  expectWord "in"
  conditionally true type
  if ← eatWord "as" then conditionally true type
  expectMark "]"
  mappedModifier (atMark "?")
  annotation
  let _ ← (do if ← eatMark "," then return true else eatMark ";")
  expectMark "\x7d"

/-! ### Types -/

/-- An element of a tuple, named or not. -/
def tupleElement : Reading Unit := do
  let named ← ahead do
    let _ ← eatMark "..."
    let _ ← anyWord
    let _ ← eatMark "?"
    atMark ":"
  let rest ← eatMark "..."
  if named then
    let _ ← anyWord
    let optional ← eatMark "?"
    flawIf (rest && optional)
    expectMark ":"
    type
  else
    type
    let _ ← eatMark "?"

/-- A type named by the module it comes from. -/
def importType : Reading Unit := do
  expectWord "import"
  expectMark "("
  type
  if ← eatMark "," then
    if ← atMark "\x7b" then
      let _ ← value
      let _ ← eatMark ","
  expectMark ")"
  repeating () fun _ => do
    unless ← eatMark "." do return .inr ()
    let _ ← anyWord
    return .inl ()
  maybeTypeArguments

/-- A type that is neither an array nor under an operator. -/
def primaryType : Reading Unit := do
  match ← token with
  | .number | .bigint | .string _ => advance
  | .template .. => templateOf false (conditionally true type)
  | .mark m =>
    if m == "\x7b" then
      if ← atMappedType then mappedType else typeMembers
    else if m == "[" then
      advance
      let _ ← commaList "]" (conditionally true tupleElement)
    else if m == "(" then
      advance
      conditionally true type
      expectMark ")"
    else if m == "-" then
      advance
      match ← token with
      | .number | .bigint => advance
      | _ => fail
    else if m == "!" then
      advance
      call .typeOperator
    else if m == "?" then
      advance
      match ← token with
      | .mark m => unless [",", "\x7d", ")", ">", "=", "|"].contains m do type
      | _ => type
    else fail
  | .word w escaped =>
    if escaped then entityName
    else if ["void", "null", "true", "false"].contains w then advance
    else if w == "this" then
      advance
      if (← atWord "is") && !(← newline) then
        advance
        type
    else if w == "typeof" then
      advance
      if ← atWord "import" then importType else
        entityName
        maybeTypeArguments
    else if w == "import" then importType
    else if w == "asserts" && (← next (do
        return ((← atIdentifier) || (← atWord "this")) && !(← newline))) then
      resultType
    else if reservedWords.contains w then fail
    else
      entityName
      maybeTypeArguments
  | _ => fail

/-- Whether a type may start here. -/
def startsType : Reading Bool := do
  match ← token with
  | .word w _ =>
    return !reservedWords.contains w
      || ["void", "null", "true", "false", "this", "typeof", "import", "new", "function"].contains w
  | .number | .bigint | .string _ | .template .. => return true
  | .mark m =>
    return ["\x7b", "[", "(", "<", "|", "&", "*", "?", "!", "...", "-"].contains m
  | _ => return false

/-- A type with the array and index brackets after it, and the marks that a type may carry in
documentation. -/
def postfixType : Reading Unit := do
  primaryType
  repeating () fun _ => do
    if ← newline then return .inr ()
    if ← eatMark "[" then
      if ← eatMark "]" then return .inl ()
      conditionally true type
      expectMark "]"
      return .inl ()
    if ← eatMark "!" then return .inl ()
    -- a question mark before a type may belong to a conditional type or expression
    if (← atMark "?") && !(← next startsType) then
      advance
      return .inl ()
    return .inr ()

/-- A type under its operators. -/
def typeOperatorRule : Reading Unit := do
  if (← atWord "keyof") || (← atWord "unique") || (← atWord "readonly") then
    advance
    call .typeOperator
  else if (← atWord "infer") && (← next atIdentifier) then
    advance
    let _ ← identifier
    -- the constraint is not taken where it would be the test of a conditional type
    if ← atWord "extends" then
      let _ ← attempt do
        advance
        conditionally false type
        if (← context).conditionals && (← atMark "?") then fail
  else conditionally true postfixType

/-- Types joined by `m`, which may also stand before the first. -/
def joinedTypes (m : String) (part : Reading Unit) : Reading Unit := do
  let _ ← eatMark m
  part
  repeating () fun _ => do
    unless ← eatMark m do return .inr ()
    part
    return .inl ()

/-- Whether parentheses here are the parameters of a function type. -/
def atFunctionParameters : Reading Bool := ahead do
  expectMark "("
  if (← atMark ")") || (← atMark "...") then return true
  let _ ← modifiers ["public", "private", "protected", "readonly", "override"]
  if (← atMark "[") || (← atMark "\x7b") then
    let _ ← call .pattern
  else if (← atIdentifier) || (← atWord "this") then advance
  else fail
  if (← atMark ":") || (← atMark ",") || (← atMark "?") || (← atMark "=") then return true
  expectMark ")"
  atMark "=>"

def atFunctionType : Reading Bool := do
  if (← atMark "<") || (← atWord "new") then return true
  if ← atWord "abstract" then return ← next (atWord "new")
  atFunctionParameters

def functionType : Reading Unit := do
  let _ ← eatWord "abstract"
  let _ ← eatWord "new"
  typeParameters
  let _ ← parameters
  expectMark "=>"
  resultType

def typeRule : Reading Unit := do
  if ← atFunctionType then functionType
  else
    joinedTypes "|" (joinedTypes "&" (call .typeOperator))
    if (← context).conditionals && !(← newline) && (← atWord "extends") then
      advance
      conditionally false type
      expectMark "?"
      conditionally true type
      expectMark ":"
      conditionally true type

end ViewLayers.Script.Reading
