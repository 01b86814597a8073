import ViewLayers.Script.Classes

/-!
Statements and declarations.
-/

namespace ViewLayers.Script.Reading

/-! ### Variables -/

/-- One variable. A pattern and a constant need a value, unless `free`. -/
def declarator (constant free : Bool) : Reading Pattern := do
  let p ← call .pattern
  let types := (← context).dialect.types
  let isName := match p with
    | .name _ => true
    | _ => false
  if types && isName && !(← newline) then
    let _ ← eatMark "!"
  annotation
  if ← eatMark "=" then
    let _ ← call (.assign true)
  else flawIf (!free && (constant || !isName))
  return p

/-- Variables with commas between them. -/
def bindings (constant free : Bool) : Reading (List Pattern) := do
  let first ← declarator constant free
  let ps ← repeating [first] fun ps => do
    unless ← eatMark "," do return .inr ps
    return .inl ((← declarator constant free) :: ps)
  return ps.reverse

/-- Variables from after their keyword to the end of the statement. -/
def variableStatement (constant : Bool) : Reading (List Pattern) := do
  let ps ← withIn (bindings constant (← context).ambient)
  semicolon
  return ps

/-- Whether `let` here declares something, judged by what follows it. Under a statement that takes
only one, most of what follows makes it a plain name. -/
def atLetDeclaration (single : Bool) : Reading Bool := do
  return (← atWord "let") && (← next (do
    match ← token with
    | .word w _ => return !single && w != "in" && w != "instanceof"
    | .mark m => return m == "[" || !single && m == "\x7b"
    | _ => return false))

/-- A declaration of bindings whose resources are released at the end of their block. -/
def atUsing : Reading Bool := do
  let named := next (do return (← atIdentifier) && !(← newline) && !(← atWord "of")
    && !(← next (do return (← atMark "=>"))))
  if ← atWord "using" then named
  else if ← atWord "await" then next (do return (← atWord "using") && !(← newline) && (← named))
  else return false

/-! ### Declarations of types -/

def interface : Reading Unit := do
  expectWord "interface"
  let _ ← identifier
  typeParameters
  if ← eatWord "extends" then typeNames
  typeMembers

def typeAlias : Reading Unit := do
  expectWord "type"
  let _ ← identifier
  typeParameters
  expectMark "="
  conditionally true type
  semicolon

def enumMember : Reading Unit := do
  match ← token with
  | .word .. | .string _ => advance
  | .mark "[" =>
    advance
    match ← token with
    | .string _ | .template false _ => advance
    | _ => fail
    expectMark "]"
  | _ => fail
  if ← eatMark "=" then
    let _ ← value

/-- An enumeration, and its name. -/
def enum : Reading String := do
  expectWord "enum"
  let name ← identifier
  expectMark "\x7b"
  let _ ← commaList "\x7d" enumMember
  return name

/-- The statements of a namespace, in which imports and exports may stand. -/
def namespaceBody : Reading Unit := do
  expectMark "\x7b"
  within (fun c => { c with awaits := false }) <|
    repeating () fun _ => do
      if ← eatMark "\x7d" then return .inr ()
      let _ ← call .item
      return .inl ()

def namespaceDeclaration : Reading Unit := do
  if ← eatWord "global" then namespaceBody
  else
    let quotable ← atWord "module"
    advance
    if quotable && (← atString) then
      advance
      if ← atMark "\x7b" then namespaceBody else semicolon
    else
      let _ ← identifier
      repeating () fun _ => do
        unless ← eatMark "." do return .inr ()
        let _ ← anyWord
        return .inl ()
      namespaceBody

/-- Whether a declaration that only the typed dialect has starts here, judged by its first words. -/
def atTypedDeclaration : Reading Bool := ahead do
  repeating () fun _ => do
    match ← token with
    | .word w false =>
      if ["var", "let", "const", "function", "class", "enum"].contains w then return .inr true
      if w == "interface" || w == "type" then
        advance
        return .inr ((← atIdentifier) && !(← newline))
      if w == "module" || w == "namespace" then
        advance
        return .inr (((← atIdentifier) || (← atString)) && !(← newline))
      if w == "global" then
        advance
        return .inr ((← atMark "\x7b") || (← atIdentifier) || (← atWord "export"))
      if w == "import" then
        advance
        return .inr ((← atString) || (← atMark "*") || (← atMark "\x7b") || (← atIdentifier))
      if declarationModifiers.contains w then
        advance
        if (← newline) && w != "static" then return .inr false
        return .inl ()
      return .inr false
    | _ => return .inr false

/-! ### Declarations -/

/-- What an imported name stands for, from its `=` on: a module or a member of a namespace. -/
def importAlias : Reading Unit := do
  expectMark "="
  if (← atWord "require") && (← next (atMark "(")) then
    advance
    expectMark "("
    expectString
    expectMark ")"
  else entityName
  semicolon

/-- A declaration after its modifiers. -/
def bareDeclaration (abstract ambient : Bool) : Reading Declaration := do
  let types := (← context).dialect.types
  if ← atWord "class" then
    let some name ← classFrom true | fail
    return .class name
  if abstract then fail
  if (← atWord "function") || (← atAsyncFunction) then
    let awaits ← eatWord "async"
    let (some name, make) ← functionFrom awaits true | fail
    flawIf (ambient && make.body)
    return .function name
  if (← atWord "var") || (← atWord "let") then
    advance
    return .bindings (← variableStatement false)
  if ← atWord "const" then
    if types && (← next (atWord "enum")) then
      advance
      return .enum (← enum)
    advance
    return .bindings (← variableStatement true)
  unless types do fail
  if ← atWord "enum" then return .enum (← enum)
  if ← atWord "interface" then interface
  else if ← atWord "type" then typeAlias
  else if (← atWord "namespace") || (← atWord "module") || (← atWord "global") then
    namespaceDeclaration
  else if ← eatWord "import" then
    let _ ← identifier
    importAlias
  else fail
  return .typeLevel

/-- A declaration, and whether it stands under `declare`. `decorated` leaves only a class. -/
def declaration (decorated : Bool) : Reading (Declaration × Bool) := do
  let (abstract, ambient) ← repeating (false, false) fun (abstract, ambient) => do
    unless (← context).dialect.types do return .inr (abstract, ambient)
    if (← atWord "declare") && !ambient then
      advance
      return .inl (abstract, true)
    if (← atWord "abstract") && !abstract then
      advance
      return .inl (true, ambient)
    return .inr (abstract, ambient)
  let d ← within (fun c => { c with ambient := c.ambient || ambient })
    (bareDeclaration abstract ambient)
  match d with
  | .class _ => pure ()
  | _ => flawIf decorated
  return (d, ambient)

/-! ### Statements -/

def condition : Reading Unit := do
  expectMark "("
  let _ ← withIn expression
  expectMark ")"

def body : Reading Unit := call (.statement true)

/-- The rest of a loop's head after its first part. -/
def loopRest : Reading Unit := do
  expectMark ";"
  unless ← atMark ";" do
    let _ ← withIn expression
  expectMark ";"
  unless ← atMark ")" do
    let _ ← withIn expression
  expectMark ")"

/-- The rest of a head that runs over something, if one stands here. -/
def loopOver (awaits : Bool) : Reading Bool := do
  if ← eatWord "of" then
    let _ ← value
    expectMark ")"
    return true
  if ← eatWord "in" then
    flawIf awaits
    let _ ← withIn expression
    expectMark ")"
    return true
  return false

def withoutIn {α : Type} (p : Reading α) : Reading α :=
  within (fun c => { c with inOperator := false }) p

def forStatement : Reading Unit := do
  expectWord "for"
  let awaits ← eatWord "await"
  flawIf (awaits && !(← context).awaits)
  expectMark "("
  let plainRest : Reading Unit := do
    flawIf awaits
    loopRest
  if ← atMark ";" then plainRest
  else if (← atWord "var") || (← atWord "const") || (← atLetDeclaration false) || (← atUsing) then
    let constant := !(← atWord "var") && !(← atWord "let")
    let _ ← eatWord "await"
    advance
    -- what runs over something has no values of its own; else they are required as elsewhere
    let iterating ← attempt do
      let _ ← withoutIn (bindings constant true)
      unless ← loopOver awaits do fail
    if iterating.isNone then
      let _ ← withoutIn (bindings constant false)
      plainRest
  else
    let async ← atWord "async"
    let lets ← atWord "let"
    let e ← withoutIn expression
    if (← atWord "of") || (← atWord "in") then
      flawIf ((← atWord "of") && (lets || async && !awaits && (match e with
        | .name _ => true
        | _ => false)))
      cover e
      let _ ← loopOver awaits
    else plainRest
  body

def switchStatement : Reading Unit := do
  expectWord "switch"
  condition
  expectMark "\x7b"
  repeating () fun _ => do
    if ← eatMark "\x7d" then return .inr ()
    if ← eatWord "case" then
      let _ ← withIn expression
    else expectWord "default"
    expectMark ":"
    repeating () fun _ => do
      if (← atWord "case") || (← atWord "default") || (← atMark "\x7d") then return .inr ()
      call (.statement false)
      return .inl ()
    return .inl ()

def tryStatement : Reading Unit := do
  expectWord "try"
  block
  let caught ← eatWord "catch"
  if caught then
    if ← eatMark "(" then
      let _ ← call .pattern
      annotation
      expectMark ")"
    block
  let finished ← eatWord "finally"
  if finished then block
  flawIf (!caught && !finished)

/-- `break` or `continue`, with the label it names. -/
def jump : Reading Unit := do
  advance
  if (← atIdentifier) && !(← newline) then advance
  semicolon

def expressionStatement : Reading Unit := do
  let e ← withIn expression
  match e with
  | .name _ =>
    if ← eatMark ":" then body else semicolon
  | _ => semicolon

def usingStatement : Reading Unit := do
  let _ ← eatWord "await"
  expectWord "using"
  let ps ← withIn (bindings true false)
  flawIf (ps.any fun
    | .name _ => false
    | _ => true)
  semicolon

def statementRule (single : Bool) : Reading Unit := do
  match ← token with
  | .mark m =>
    if m == "\x7b" then block
    else if m == ";" then advance
    else if m == "@" then
      let _ ← decorators
      let _ ← declaration true
    else expressionStatement
  | .word w false =>
    if w == "if" then
      advance
      condition
      body
      if ← eatWord "else" then body
    else if w == "for" then forStatement
    else if w == "while" || w == "with" then
      advance
      condition
      body
    else if w == "do" then
      advance
      body
      expectWord "while"
      condition
      let _ ← eatMark ";"
    else if w == "return" then
      flawIf !(← context).returns
      advance
      unless (← newline) || (← atMark ";") || (← atMark "\x7d") || (← token) == .eof do
        let _ ← withIn expression
      semicolon
    else if w == "throw" then
      advance
      if ← newline then fail
      let _ ← withIn expression
      semicolon
    else if w == "break" || w == "continue" then jump
    else if w == "switch" then switchStatement
    else if w == "try" then tryStatement
    else if w == "debugger" then
      advance
      semicolon
    else if w == "var" then
      let _ ← declaration false
    else if w == "const" || w == "class" then
      flawIf single
      let _ ← declaration false
    else if w == "function" then
      flawIf (single && (← next (atMark "*")))
      let _ ← declaration false
    else if w == "import" then
      if ← next (do return (← atMark "(") || (← atMark ".")) then expressionStatement else fail
    else if ← atAsyncFunction then
      flawIf single
      let _ ← declaration false
    else if ← atLetDeclaration single then
      flawIf single
      let _ ← declaration false
    else if ← atUsing then
      flawIf single
      usingStatement
    else if (← context).dialect.types && (← atTypedDeclaration) then
      let _ ← declaration false
    else expressionStatement
  | _ => expressionStatement

end ViewLayers.Script.Reading
