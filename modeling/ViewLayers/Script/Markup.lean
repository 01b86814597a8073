import ViewLayers.Script.Functions

/-!
Markup in a script: elements and fragments, their attributes, and the text and elements between
their tags. A closing tag bears the name of its opening tag.
-/

namespace ViewLayers.Script.Reading

/-- The rest of a name that may hold hyphens, its first word being the current token. -/
def hyphenatedName : Reading (List Char) := do
  match ← token with
  | .word _ false =>
    let (name, rest) := hyphenated (← get).head.here
    moveTo fun l => ⟨.word (String.ofList name) false, l.newline, l.here, rest⟩
    advance
    return name
  | _ => fail

/-- The name of a tag: a name, a name in a namespace, or names with dots between them. -/
def tagName : Reading (List Char) := do
  let first ← hyphenatedName
  if ← eatMark ":" then
    return first ++ ':' :: (← hyphenatedName)
  repeating first fun name => do
    unless ← eatMark "." do return .inr name
    return .inl (name ++ '.' :: (← hyphenatedName))

/-- An expression in braces after the opening one; no comma joins it to another. -/
def braced : Reading Unit := do
  let e ← withIn expression
  match e with
  | .sequence => flaw
  | _ => pure ()
  unless ← atMark "\x7d" do fail

/-- The value of an attribute, from its `=` on. -/
def attributeValue : Reading Unit := do
  unless ← atMark "=" do return
  moveTo fun l => attributeLexeme l.rest
  match ← token with
  | .string _ => advance
  | .mark m =>
    if m == "\x7b" then
      advance
      unless ← atMark "\x7d" do braced
      advance
    else if m == "<" then
      advance
      call (.element false)
    else fail
  | _ => fail

/-- A name with or without a value, or an object whose properties are attributes. -/
def tagAttribute : Reading Unit := do
  if ← eatMark "\x7b" then
    expectMark "..."
    let _ ← value
    expectMark "\x7d"
  else
    let _ ← hyphenatedName
    if ← eatMark ":" then
      let _ ← hyphenatedName
    attributeValue

/-- The `>` that ends a tag. What follows it is markup again if the element stands in another. -/
def tagEnd (child : Bool) : Reading Unit := do
  unless ← atMark ">" do fail
  if child then moveTo fun l => childLexeme l.rest else advance

/-- What stands in braces between tags. -/
def child : Reading Unit := do
  if ← eatMark "..." then
    let _ ← value
  else if ← atMark "\x7d" then pure ()
  else braced

/-- What stands between tags, up to and with the `<` and `/` of a closing tag. -/
def children : Reading Unit := repeating () fun _ => do
  match ← token with
  | .text =>
    moveTo fun l => childLexeme l.rest
    return .inl ()
  | .mark m =>
    if m == "\x7b" then
      advance
      child
      unless ← atMark "\x7d" do fail
      moveTo fun l => childLexeme l.rest
      return .inl ()
    if m != "<" then fail
    advance
    if ← eatMark "/" then return .inr ()
    call (.element true)
    return .inl ()
  | _ => fail

def elementRule (child : Bool) : Reading Unit := do
  if ← atMark ">" then
    tagEnd true
    children
    tagEnd child
    return
  let name ← tagName
  if (← context).dialect.types then
    if ← atAngle then typeArguments
  repeating () fun _ => do
    if (← atMark ">") || (← atMark "/") then return .inr ()
    tagAttribute
    return .inl ()
  if ← eatMark "/" then
    tagEnd child
    return
  tagEnd true
  children
  unless (← tagName) == name do flaw
  tagEnd child

end ViewLayers.Script.Reading
