import ViewLayers.Script.Statements

/-!
Imports and exports.
-/

namespace ViewLayers.Script.Reading

/-! ### Names across modules -/

structure ModuleName where
  text : Option String
  quoted : Bool
  reserved : Bool

def moduleName : Reading ModuleName := do
  match ← token with
  | .word w _ =>
    advance
    return ⟨some w, false, reservedWords.contains w || strictWords.contains w⟩
  | .string v =>
    advance
    flawIf v.isNone
    return ⟨v, true, false⟩
  | _ => fail

def atModuleName : Reading Bool := return (← atAnyWord) || (← atString)

/-- An entry of an import or export list: its name here, its name there, and whether it is a type
only. The words `type` and `as` may themselves be names. -/
def entry : Reading (ModuleName × ModuleName × Bool) := do
  let types := (← context).dialect.types
  let marked := types && (← atWord "type")
  let first ← moduleName
  if marked then
    if ← atWord "as" then
      let as₁ ← moduleName
      if ← atWord "as" then
        let as₂ ← moduleName
        if ← atModuleName then return (as₁, ← moduleName, true)
        return (first, as₂, false)
      if ← atModuleName then return (first, ← moduleName, false)
      return (as₁, as₁, true)
    if ← atModuleName then
      let name ← moduleName
      if ← eatWord "as" then return (name, ← moduleName, true)
      return (name, name, true)
  if ← eatWord "as" then return (first, ← moduleName, false)
  return (first, first, false)

/-- Attributes of an import, if any. -/
def attributes : Reading Unit := do
  if (← atWord "with") || ((← atWord "assert") && !(← newline)) then
    advance
    expectMark "\x7b"
    let _ ← commaList "\x7d" do
      unless ← atModuleName do fail
      advance
      expectMark ":"
      expectString

/-- The module that names come from. -/
def source : Reading Unit := do
  expectString
  attributes

/-! ### Imports -/

/-- An entry of an import list; what it is called here has to be able to name a variable. It is not
marked as a type where all of them are. -/
def importEntry (typeOnly : Bool) : Reading Unit := do
  let (_, here, only) ← entry
  flawIf (here.quoted || here.text.any reservedWords.contains || typeOnly && only)

/-- A list of names in braces, or one name for the whole module. -/
def importNames (typeOnly : Bool) : Reading Unit := do
  if ← eatMark "*" then
    expectWord "as"
    let _ ← identifier
  else
    expectMark "\x7b"
    let _ ← commaList "\x7d" (importEntry typeOnly)

/-- Whether `type` here makes the whole import one of types. -/
def atTypeImport : Reading Bool := do
  unless (← context).dialect.types && (← atWord "type") do return false
  next do
    if (← atMark "\x7b") || (← atMark "*") then return true
    unless ← atIdentifier do return false
    if ← atWord "from" then
      return ← next (do return (← atWord "from") || (← atMark "="))
    return true

/-- Whether a word here says how the module is loaded. -/
def atPhase : Reading Bool := do
  if ← atWord "defer" then return ← next (atMark "*")
  if ← atWord "source" then
    return ← next (do
      return (← atIdentifier) && (!(← atWord "from") || (← next (atWord "from"))))
  return false

def importDeclaration : Reading Unit := do
  expectWord "import"
  if ← atString then
    source
    semicolon
    return
  let typeOnly ← atTypeImport
  if typeOnly || (← atPhase) then advance
  if ← atIdentifier then
    let _ ← identifier
    if (← context).dialect.types && (← atMark "=") then
      importAlias
      return
    if ← eatMark "," then importNames typeOnly
  else importNames typeOnly
  expectWord "from"
  source
  semicolon

/-! ### Exports -/

/-- The names of an export list. Without a module they come from, they name variables here. -/
def exportList (typeOnly : Bool) : Reading Item := do
  expectMark "\x7b"
  let (entries, _) ← commaList "\x7d" entry
  if ← eatWord "from" then source
  else flawIf (entries.any fun (here, _) => here.quoted || here.reserved)
  flawIf (typeOnly && entries.any fun (_, _, only) => only)
  semicolon
  return .list (entries.map fun (_, there, only) => ⟨there.text, only⟩) typeOnly

def exportAll : Reading Item := do
  expectMark "*"
  if ← eatWord "as" then
    let _ ← moduleName
  expectWord "from"
  source
  semicolon
  return .silent

def exportDefault : Reading Item := do
  expectWord "default"
  let types := (← context).dialect.types
  let decorated ← decorators
  if ← atWord "class" then
    let _ ← classFrom false
  else if types && (← atWord "abstract") && (← next (atWord "class")) then
    advance
    let _ ← classFrom false
  else if decorated then fail
  else if types && (← atWord "interface") && (← next (do
      return (← atIdentifier) && !(← newline))) then interface
  else if (← atWord "function") || (← atAsyncFunction) then
    let awaits ← eatWord "async"
    let _ ← functionFrom awaits false
  else
    let _ ← value
    semicolon
  return .silent

def exportDeclaration (decorated : Bool) : Reading Item := do
  expectWord "export"
  let types := (← context).dialect.types
  if ← atMark "*" then exportAll
  else if ← atMark "\x7b" then exportList false
  else if ← atWord "default" then exportDefault
  else if types && (← eatMark "=") then
    let _ ← withIn expression
    semicolon
    return .silent
  else if types && (← atWord "as") && (← next (atWord "namespace")) then
    advance
    advance
    let _ ← identifier
    semicolon
    return .silent
  else if types && (← atWord "import") then
    advance
    if (← atWord "type") && (← next atIdentifier) then advance
    let _ ← identifier
    importAlias
    return .silent
  else if types && (← atWord "type") && (← next (atMark "\x7b")) then
    advance
    exportList true
  else if types && (← atWord "type") && (← next (atMark "*")) then
    advance
    exportAll
  else
    let again ← decorators
    flawIf (decorated && again)
    let (d, ambient) ← declaration (decorated || again)
    return .declaration d ambient

/-- A statement where imports and exports may stand. -/
def itemRule : Reading Item := do
  let decorated ← ahead do
    if ← decorators then atWord "export" else return false
  if decorated then
    let _ ← decorators
    exportDeclaration true
  else if ← atWord "export" then exportDeclaration false
  else if (← atWord "import") && !(← next (do return (← atMark "(") || (← atMark "."))) then
    importDeclaration
    return .silent
  else
    call (.statement false)
    return .silent

end ViewLayers.Script.Reading
