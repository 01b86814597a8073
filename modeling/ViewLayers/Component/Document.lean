import ViewLayers.Component.Basic
import ViewLayers.Json.Reading

/-!
Components and routes as JSON. They are written as objects with all their fields, and read from
objects and from arrays of their fields.
-/

namespace ViewLayers

open Json

/-- An optional path, or `null`. -/
def Json.ofPath? : Option Path → Json
  | some p => .string p.text
  | none => .null

/-! ### Routes -/

namespace Route

def fieldNames : List String :=
  ["segment", "resolvedPath", "directory", "viewFilePath", "loaderFilePath", "metaFilePath",
   "children"]

mutual

def toJson : Route → Json
  | ⟨segment, pattern, directory, view, loader, metadata, children⟩ =>
    .object [("children", .array (listToJson children)), ("directory", .string directory.text),
      ("loaderFilePath", .ofPath? loader), ("metaFilePath", .ofPath? metadata),
      ("resolvedPath", .string pattern), ("segment", .string segment),
      ("viewFilePath", .ofPath? view)]

def listToJson : List Route → List Json
  | [] => []
  | r :: rs => r.toJson :: listToJson rs

end

structure Draft where
  segment : Option String := none
  pattern : Option String := none
  directory : Option Path := none
  view : Option Path := none
  loader : Option Path := none
  metadata : Option Path := none
  children : List Route := []

def Draft.finish (d : Draft) : Result Route := do
  let segment ← require "segment" d.segment
  let pattern ← require "resolvedPath" d.pattern
  let directory ← require "directory" d.directory
  return ⟨segment, pattern, directory, d.view, d.loader, d.metadata, d.children⟩

/-- How many fields an array has to give; the last may be left out. -/
def requiredFields : Nat := 6

mutual

def ofJson : Json → Result Route
  | .object fields => do (← readFields fields {}).finish
  | .array items => do
    let d ← readItems fieldNames items {}
    if items.length < requiredFields then
      throw (.tooShort items.length "RouteNode" fieldNames.length)
    let r ← d.finish
    if fieldNames.length < items.length then throw (.tooLong items.length)
    return r
  | v => .error (.wrongType v "struct RouteNode")

def listOfJson : List Json → Result (List Route)
  | [] => .ok []
  | v :: vs => do
    let r ← ofJson v
    return r :: (← listOfJson vs)

/-- Read one field; a name that no field has is passed over. -/
def readField (d : Draft) (name : String) : Json → Result Draft
  | .array items =>
    if name = "children" then do return { d with children := ← listOfJson items }
    else readPlainField d name (.array items)
  | v => readPlainField d name v
where
  readPlainField (d : Draft) (name : String) (v : Json) : Result Draft := do
    match name with
    | "segment" => return { d with segment := ← v.toText }
    | "resolvedPath" => return { d with pattern := ← v.toText }
    | "directory" => return { d with directory := ← v.toPath }
    | "viewFilePath" => return { d with view := ← v.toOption toPath }
    | "loaderFilePath" => return { d with loader := ← v.toOption toPath }
    | "metaFilePath" => return { d with metadata := ← v.toOption toPath }
    | "children" => throw (.wrongType v "a sequence")
    | _ => return d

def readFields : List (String × Json) → Draft → Result Draft
  | [], d => .ok d
  | (name, v) :: fields, d => do readFields fields (← readField d name v)

/-- The items of an array, as the fields that stand first among `names`. -/
def readItems : List String → List Json → Draft → Result Draft
  | name :: names, v :: vs, d => do readItems names vs (← readField d name v)
  | _, _, d => .ok d

end

end Route

/-! ### Components -/

/-- The concerns that are present, under their labels. -/
def Concerns.toJson (c : Concerns) : Json :=
  .object (([Concern.async, .error, .i18n, .placeholder]).filterMap fun k =>
    (c.get k).map fun p => (k.label, .string p.text))

def Concerns.readEntries : List (String × Json) → Concerns → Result Concerns
  | [], c => .ok c
  | (name, v) :: fields, c => do
    let k ← variantOf Concern.labels name
    readEntries fields (c.set k (← v.toPath))

def Concerns.ofJson : Json → Result Concerns
  | .object fields => readEntries fields .none
  | v => .error (.wrongType v "a map")

namespace Component

def fieldNames : List String :=
  ["name", "directory", "viewFilePath", "concerns", "skins", "routes"]

def toJson (c : Component) : Json :=
  .object [("concerns", c.concerns.toJson), ("directory", .string c.directory.text),
    ("name", .string c.name), ("routes", .array (Route.listToJson c.routes)),
    ("skins", .object (c.skins.map fun p => Json.string p.text).entries),
    ("viewFilePath", .string c.view.text)]

structure Draft where
  name : Option String := none
  directory : Option Path := none
  view : Option Path := none
  concerns : Concerns := .none
  skins : Dict Path := ∅
  routes : List Route := []

def Draft.finish (d : Draft) : Result Component := do
  let name ← require "name" d.name
  let directory ← require "directory" d.directory
  let view ← require "viewFilePath" d.view
  return ⟨name, directory, view, d.concerns, d.skins, d.routes⟩

/-- Read one field; a name that no field has is passed over. -/
def readField (d : Draft) (name : String) (v : Json) : Result Draft := do
  match name with
  | "name" => return { d with name := ← v.toText }
  | "directory" => return { d with directory := ← v.toPath }
  | "viewFilePath" => return { d with view := ← v.toPath }
  | "concerns" => return { d with concerns := ← Concerns.ofJson v }
  | "skins" => return { d with skins := ← v.toDict toPath }
  | "routes" =>
    match v with
    | .array items => return { d with routes := ← Route.listOfJson items }
    | v => throw (.wrongType v "a sequence")
  | _ => return d

def readFields (d : Draft) (fields : List (String × Json)) : Result Draft :=
  fields.foldlM (fun d (name, v) => readField d name v) d

/-- How many fields an array has to give; the others may be left out. -/
def requiredFields : Nat := 3

def ofJson : Json → Result Component
  | .object fields => do (← readFields {} fields).finish
  | .array items => do
    let d ← readFields {} (fieldNames.zip items)
    if items.length < requiredFields then
      throw (.tooShort items.length "ComponentDescriptor" fieldNames.length)
    let c ← d.finish
    if fieldNames.length < items.length then throw (.tooLong items.length)
    return c
  | v => .error (.wrongType v "struct ComponentDescriptor")

end Component

end ViewLayers
