import ViewLayers.Json.Reading

/-!
The modules that a wrapper imports its means from, and whether it globs the files of messages.
-/

namespace ViewLayers

structure Options where
  runtimeModule : String := "weave/runtime"
  frameworkModule : String := "react"
  routerModule : String := "react-router"
  globsLocaleFiles : Bool := true
deriving DecidableEq

namespace Options

open Json

def fieldNames : List String :=
  ["runtimeModule", "frameworkModule", "routerModule", "translationsGlob"]

def toJson (o : Options) : Json :=
  .object [("frameworkModule", .string o.frameworkModule), ("routerModule", .string o.routerModule),
    ("runtimeModule", .string o.runtimeModule), ("translationsGlob", .bool o.globsLocaleFiles)]

/-- Read one field; a name that no field has is passed over. -/
def readField (o : Options) (name : String) (v : Json) : Result Options := do
  match name with
  | "runtimeModule" => return { o with runtimeModule := ← v.toText }
  | "frameworkModule" => return { o with frameworkModule := ← v.toText }
  | "routerModule" => return { o with routerModule := ← v.toText }
  | "translationsGlob" => return { o with globsLocaleFiles := ← v.toBool }
  | _ => return o

def readFields (o : Options) (fields : List (String × Json)) : Result Options :=
  fields.foldlM (fun o (name, v) => readField o name v) o

/-- Fields that are not given keep their defaults. -/
def ofJson : Json → Result Options
  | .object fields => readFields {} fields
  | .array items => do
    let o ← readFields {} (fieldNames.zip items)
    if fieldNames.length < items.length then throw (.tooLong items.length)
    return o
  | v => .error (.wrongType v "struct SynthesisOptions")

end Options

end ViewLayers
