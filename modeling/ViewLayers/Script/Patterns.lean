import ViewLayers.Script.Types

/-!
Binding patterns: names, objects and arrays of patterns, default values and rest elements.
-/

namespace ViewLayers.Script.Reading

/-- A pattern, with a default value if `=` follows. -/
def element : Reading Pattern := do
  let p ← call .pattern
  unless ← eatMark "=" do return p
  let _ ← value
  return .withDefault p

inductive Part where
  | item (p : Pattern)
  | hole
  | rest (p : Pattern)

/-- The items of a pattern and its rest element, which has to stand last. -/
def partition (parts : List Part) (comma : Bool) :
    Reading (List (Option Pattern) × Option Pattern) := do
  let items := parts.filterMap fun
    | .item p => some (some p)
    | .hole => some none
    | .rest _ => none
  match parts.getLast? with
  | some (.rest p) =>
    flawIf (comma || items.length + 1 != parts.length)
    return (items, some p)
  | _ =>
    flawIf (items.length != parts.length)
    return (items, none)

def objectPart : Reading Part := do
  if ← eatMark "..." then
    let p ← call .pattern
    match p with
    | .name _ => pure ()
    | _ => flaw
    return .rest p
  if (← atIdentifier) && !(← next (atMark ":")) then
    let id ← identifier
    unless ← eatMark "=" do return .item (.name id)
    let _ ← value
    return .item (.withDefault (.name id))
  propertyKey
  expectMark ":"
  return .item (← element)

def arrayPart : Reading Part := do
  if ← atMark "," then return .hole
  if ← eatMark "..." then
    let p ← call .pattern
    if ← atMark "=" then fail
    return .rest p
  return .item (← element)

def patternRule : Reading Pattern := do
  if ← eatMark "\x7b" then
    let (parts, comma) ← commaList "\x7d" objectPart
    let (items, rest) ← partition parts comma
    return .object (items.filterMap id) rest
  if ← eatMark "[" then
    let (parts, comma) ← commaList "]" arrayPart
    let (items, rest) ← partition parts comma
    return .array items rest
  return .name (← identifier)

end ViewLayers.Script.Reading
