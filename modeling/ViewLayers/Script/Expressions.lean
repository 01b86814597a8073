import ViewLayers.Script.Markup
import ViewLayers.Script.Target

/-!
Expressions, from the tightest part to the loosest: primary expressions, accesses and calls, unary
and binary operators, and assignment.
-/

namespace ViewLayers.Script.Reading

/-! ### Object literals -/

/-- A method that gives a value back as a property does takes no argument, and one that is given a
value takes just that. -/
def accessorRest (gives : Bool) : Reading Unit := do
  let arguments := (← functionRest false false).arguments
  flawIf (if gives then !arguments.isEmpty else arguments != [.plain false])

/-- Whether the token after this one can begin a name of a property, on the same line or not. -/
def nextKey (sameLine : Bool) : Reading Bool := next do
  if sameLine && (← newline) then return false
  return (← atPlainKey) || (← atMark "[")

def property : Reading Expr := do
  if ← eatMark "..." then return .spread (← value)
  if ((← atWord "get") || (← atWord "set")) && (← nextKey false) then
    let gives ← atWord "get"
    advance
    propertyKey
    accessorRest gives
    return .other
  let awaits ← (do
    return (← atWord "async") && ((← nextKey true)
      || (← next (do return (← atMark "*") && !(← newline)))))
  if awaits then advance
  let yields ← eatMark "*"
  if !awaits && !yields && (← atIdentifier)
      && (← next (do return (← atMark ",") || (← atMark "\x7d") || (← atMark "="))) then
    let _ ← identifier
    unless ← eatMark "=" do return .shorthand false
    let _ ← value
    modify fun s => { s with uncovered := s.uncovered + 1 }
    return .shorthand true
  if ← atPrivateName then fail
  propertyKey
  if (← atSignature) || awaits || yields then
    let _ ← functionRest awaits yields
    return .other
  expectMark ":"
  value

def objectLiteral : Reading Expr := do
  expectMark "\x7b"
  let (items, comma) ← withIn (commaList "\x7d" property)
  return .object items comma

def arrayLiteral : Reading Expr := do
  expectMark "["
  let (items, comma) ← commaList "]" do
    if ← atMark "," then return .hole
    if ← eatMark "..." then return .spread (← value)
    value
  return .array items comma

/-! ### Primary expressions -/

/-- Arguments in parentheses. -/
def arguments : Reading Unit := do
  expectMark "("
  let _ ← within (fun c => { c with inOperator := true, decorating := false }) <|
    commaList ")" do
      let _ ← eatMark "..."
      value

def templateLiteral (tagged : Bool) : Reading Unit :=
  templateOf tagged do
    let _ ← within (fun c => { c with inOperator := true, decorating := false }) expression

def parenthesized : Reading Expr := do
  expectMark "("
  let e ← within (fun c => { c with inOperator := true, decorating := false }) expression
  expectMark ")"
  return .paren e

/-- A regular expression, whose first slash is the current token. -/
def regularExpression : Reading Unit := do
  moveTo fun l =>
    match regex (l.here.drop 1) with
    | some rest => lexeme rest
    | none => ⟨.bad, false, [], []⟩

/-- `import(…)` and `import.meta`. -/
def importExpression : Reading Expr := do
  expectWord "import"
  if ← eatMark "." then
    if ← eatWord "meta" then return .other
    unless (← eatWord "source") || (← eatWord "defer") do fail
  expectMark "("
  let (args, _) ← withIn (commaList ")" value)
  flawIf (args.isEmpty || 2 < args.length)
  return .other

/-- A primary expression; `classExpression` reads a class from its decorators on. -/
def primary (classExpression : Reading Unit) : Reading Expr := do
  match ← token with
  | .number | .bigint | .string _ => advance; return .other
  | .template .. => templateLiteral false; return .other
  | .privateName _ =>
    advance
    unless ← atWord "in" do fail
    return .other
  | .mark m =>
    if m == "(" then parenthesized
    else if m == "[" then arrayLiteral
    else if m == "\x7b" then objectLiteral
    else if m == "/" || m == "/=" then
      regularExpression
      return .other
    else if m == "@" then
      classExpression
      return .other
    else if m == "<" && (← context).dialect.markup then
      advance
      call (.element false)
      return .other
    else fail
  | .word w escaped =>
    if escaped then return .name (← identifier)
    if ["this", "null", "true", "false"].contains w then
      advance
      return .other
    if w == "function" || (← atAsyncFunction) then functionExpression
    else if w == "class" then
      classExpression
      return .other
    else if w == "import" then importExpression
    else if w == "super" then
      advance
      unless (← atMark "(") || (← atMark ".") || (← atMark "[") do flaw
      return .other
    else return .name (← identifier)
  | _ => fail

/-! ### Accesses and calls -/

/-- Whether an expression may start here. -/
def startsExpression : Reading Bool := do
  match ← token with
  | .word w _ =>
    return !reservedWords.contains w
      || ["this", "super", "null", "true", "false", "function", "class", "new", "delete", "typeof",
          "void", "import"].contains w
  | .number | .bigint | .string _ | .template .. | .privateName _ => return true
  | .mark m =>
    return ["(", "[", "\x7b", "/", "/=", "+", "-", "~", "!", "++", "--", "<", "@"].contains m
  | _ => return false

/-- The binding strength of an operator; a larger one binds tighter. -/
def strength : String → Option Nat
  | "??" | "||" => some 1
  | "&&" => some 2
  | "|" => some 3
  | "^" => some 4
  | "&" => some 5
  | "==" | "!=" | "===" | "!==" => some 6
  | "<" | ">" | "<=" | ">=" | "instanceof" | "in" | "as" | "satisfies" => some 7
  | "<<" | ">>" | ">>>" => some 8
  | "+" | "-" => some 9
  | "*" | "/" | "%" => some 10
  | "**" => some 11
  | _ => none

/-- The operator that stands here, if it binds. -/
def operator : Reading (Option (String × Nat)) := do
  let c ← context
  match ← token with
  | .mark m => return (strength m).map (m, ·)
  | .word w false =>
    if w == "in" && !c.inOperator then return none
    if (w == "as" || w == "satisfies") && (!c.dialect.types || (← newline)) then return none
    return (strength w).map (w, ·)
  | _ => return none

/-- Whether type arguments that end here belong to the expression before them. -/
def endsTypeArguments : Reading Bool := do
  match ← token with
  | .template .. => return true
  | .mark m =>
    if m == "(" then return true
    if ["<", ">", "+", "-"].contains m then return false
  | _ => pure ()
  return (← newline) || (← operator).isSome || !(← startsExpression)

/-- Type arguments of an expression, if they stand here. -/
def expressionTypeArguments : Reading Bool := do
  unless (← context).dialect.types do return false
  unless ← atAngle do return false
  let r ← attempt do
    typeArguments
    unless ← endsTypeArguments do fail
  return r.isSome

/-- The name after a dot. -/
def memberName : Reading Unit := do
  match ← token with
  | .word .. | .privateName _ => advance
  | _ => fail

def index : Reading Unit := do
  expectMark "["
  let _ ← within (fun c => { c with inOperator := true, decorating := false }) expression
  expectMark "]"

/-- A step after an expression that calls nothing; `none` if there is none. -/
def memberStep (e : Expr) : Reading (Option Expr) := do
  let c ← context
  match ← token with
  | .template .. =>
    templateLiteral true
    return some .other
  | .mark m =>
    if m == "." then
      advance
      memberName
      return some .member
    if m == "[" && !c.decorating then
      index
      return some .member
    if m == "!" && c.dialect.types && !(← newline) then
      advance
      return some (.typed e)
    return none
  | _ => return none

def calleeRule (classExpression : Reading Unit) : Reading Expr := do
  let base ← (do
    if ← eatWord "new" then
      if ← eatMark "." then
        expectWord "target"
        return Expr.other
      if ← atWord "import" then fail
      let _ ← call .callee
      let _ ← expressionTypeArguments
      if ← atMark "?." then fail
      if ← atMark "(" then arguments
      return .other
    primary classExpression)
  repeating base fun e => do
    match ← memberStep e with
    | some e => return .inl e
    | none => return .inr e

/-- What may stand after `?.`. -/
def optionalStep : Reading Unit := do
  let _ ← expressionTypeArguments
  if ← atMark "(" then arguments
  else if ← atMark "[" then index
  else memberName

/-- Accesses and calls. Once one of them is optional, the whole is no target. -/
def leftHandRule : Reading Expr := do
  let base ← call .callee
  let (e, optional) ← repeating (base, false) fun (e, optional) => do
    if ← eatMark "?." then
      optionalStep
      return .inl (.other, true)
    if ← atMark "(" then
      arguments
      return .inl (.other, optional)
    if ← expressionTypeArguments then
      return .inl (.other, optional)
    match ← token with
    | .template .. => flawIf optional
    | _ => pure ()
    match ← memberStep e with
    | some e => return .inl (e, optional)
    | none => return .inr (e, optional)
  return if optional then .chain else e

/-! ### Operators -/

def targetOf (e : Expr) : Reading Unit := do
  unless e.isSimpleTarget do fail

/-- Whether an operand follows on the same line, where `await` and `yield` are no operators. -/
def nextOperand : Reading Bool := next do
  if ← newline then return false
  match ← token with
  | .word w _ => return !(["in", "instanceof", "of", "as", "satisfies"].contains w)
  | .number | .bigint | .string _ | .template .. => return true
  | _ => return false

def unaryRule : Reading Expr := do
  let c ← context
  match ← token with
  | .mark m =>
    if m == "++" || m == "--" then
      advance
      targetOf (← call .unary)
      return .other
    if ["+", "-", "~", "!"].contains m then
      advance
      let _ ← call .unary
      return .unary
    if m == "<" && c.dialect.types && !c.dialect.markup then
      advance
      unless ← eatWord "const" do type
      expectMark ">"
      return .typed (← call .unary)
  | .word w false =>
    if ["delete", "void", "typeof"].contains w then
      advance
      let _ ← call .unary
      return .unary
    if w == "await" && (c.awaits || (← nextOperand)) then
      flawIf !c.awaits
      advance
      let _ ← call .unary
      return .unary
  | _ => pure ()
  let e ← call .leftHand
  if ((← atMark "++") || (← atMark "--")) && !(← newline) then
    targetOf e
    advance
    return .other
  return e

/-- Join a `>` to the operator characters after it. -/
def joinGreater : Reading Unit := do
  if ← atMark ">" then
    moveTo fun l =>
      match markOf greaterMarks l.here with
      | some (t, rest) => ⟨t, l.newline, l.here, rest⟩
      | none => l

/-- The outline of a binary operation, and whether its operands may stand under it bare. -/
def combined (op : String) (l r : Expr) : Expr × Bool :=
  match op, l, r with
  | "??", .logical, _ | "??", _, .logical => (.coalesce, false)
  | "??", _, _ => (.coalesce, true)
  | "||", .coalesce, _ | "||", _, .coalesce => (.logical, false)
  | "&&", .coalesce, _ | "&&", _, .coalesce => (.logical, false)
  | "||", _, _ | "&&", _, _ => (.logical, true)
  | "**", .unary, _ => (.other, false)
  | _, _, _ => (.other, true)

def binaryRule (above : Nat) : Reading Expr := do
  let first ← call .unary
  repeating first fun l => do
    joinGreater
    match ← operator with
    | none => return .inr l
    | some (op, n) =>
      -- equal strengths group from the left, powers from the right
      unless above < n || (op == "**" && above == n) do return .inr l
      advance
      if op == "as" || op == "satisfies" then
        unless ← eatWord "const" do type
        return .inl (.typed l)
      let r ← call (.binary n)
      let (e, bare) := combined op l r
      flawIf !bare
      return .inl e

/-! ### Assignment -/

def yieldExpression : Reading Expr := do
  flawIf !(← context).yields
  advance
  if ← newline then return .other
  let all ← eatMark "*"
  let ends ← (do
    match ← token with
    | .mark m => return [";", "\x7d", "]", ")", ":", ","].contains m
    | .word w _ => return w == "in" || w == "of"
    | .eof => return true
    | _ => return false)
  if all || !ends then
    let _ ← call (.assign true)
  return .other

def assignmentMarks : List String :=
  ["+=", "-=", "*=", "/=", "%=", "**=", "<<=", ">>=", ">>>=", "&=", "|=", "^=", "&&=", "||=",
   "??="]

/-- Take up the properties of a target that are initialised. -/
def cover (e : Expr) : Reading Unit := do
  match e.targets with
  | some n => modify fun s => { s with uncovered := s.uncovered - n }
  | none => fail

def assignRule (returnTypes : Bool) : Reading Expr := do
  if ← atWord "yield" then
    if (← context).yields || (← nextOperand) then return ← yieldExpression
  if let some e ← arrow? returnTypes then return e
  let e ← call (.binary 0)
  joinGreater
  match ← token with
  | .mark m =>
    if m == "=" then
      cover e
      advance
      let _ ← call (.assign returnTypes)
      return .assign e true
    if assignmentMarks.contains m then
      targetOf e
      advance
      let _ ← call (.assign returnTypes)
      return .assign e false
    if m == "?" then
      advance
      let _ ← withIn (call (.assign false))
      expectMark ":"
      let _ ← call (.assign returnTypes)
      return .other
    return e
  | _ => return e

end ViewLayers.Script.Reading
