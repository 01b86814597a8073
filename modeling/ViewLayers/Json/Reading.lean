import ViewLayers.Json.Value
import ViewLayers.Dict
import ViewLayers.Path

/-!
Reading data out of JSON values, and the reasons why a value cannot be read.

A record is written as an object or as an array of its fields in order. The fields of an object are
read in the order of their names, and the first fault found is the one reported; only then are
missing fields looked for, in the order of the record.
-/

namespace ViewLayers.Json

inductive Fault where
  | wrongType (got : Json) (expected : String)
  | missingField (name : String)
  | unknownVariant (got : String) (choices : List String)
  /-- An array that ends before a field of a record that needs it. -/
  | tooShort (length : Nat) (record : String) (fields : Nat)
  | tooLong (length : Nat)
  /-- An object in place of a variant, with more or fewer than one field. -/
  | notSingle
  /-- A text that its own kind of data refuses. -/
  | refused (message : String)

def Fault.message : Fault → String
  | .wrongType got expected => s!"invalid type: {got.described}, expected {expected}"
  | .missingField name => s!"missing field `{name}`"
  | .unknownVariant got choices =>
    s!"unknown variant `{got}`, expected one of "
      ++ ", ".intercalate (choices.map fun c => s!"`{c}`")
  | .tooShort length record fields =>
    s!"invalid length {length}, expected struct {record} with {fields} elements"
  | .tooLong length => s!"invalid length {length}, expected fewer elements in array"
  | .notSingle => "invalid value: map, expected map with a single key"
  | .refused message => message

abbrev Result (α : Type) := Except Fault α

variable {α : Type}

def toText : Json → Result String
  | .string s => .ok s
  | v => .error (.wrongType v "a string")

def toBool : Json → Result Bool
  | .bool b => .ok b
  | v => .error (.wrongType v "a boolean")

def toPath : Json → Result Path
  | .string s => .ok ⟨s⟩
  | v => .error (.wrongType v "path string")

/-- A value, or `null` for none. -/
def toOption (read : Json → Result α) : Json → Result (Option α)
  | .null => .ok none
  | v => (read v).map some

def entriesOf (read : Json → Result α) : List (String × Json) → Result (List (String × α))
  | [] => .ok []
  | (k, v) :: fields => do
    let a ← read v
    return (k, a) :: (← entriesOf read fields)

/-- An object whose fields are all of one kind. -/
def toDict (read : Json → Result α) : Json → Result (Dict α)
  | .object fields => (entriesOf read fields).map Dict.ofList
  | v => .error (.wrongType v "a map")

def nullOnly : Json → Result Unit
  | .null => .ok ()
  | v => .error (.wrongType v "unit")

def variantOf (choices : List (String × α)) (name : String) : Result α :=
  match choices.lookup name with
  | some a => .ok a
  | none => .error (.unknownVariant name (choices.map (·.1)))

/-- One of several names, alone or as the one field of an object whose value is `null`. -/
def toVariant (choices : List (String × α)) : Json → Result α
  | .string name => variantOf choices name
  | .object [(name, v)] => do
    let a ← variantOf choices name
    nullOnly v
    return a
  | .object _ => .error .notSingle
  | v => .error (.wrongType v "string or map")

/-- A field of a record that was not given. -/
def require (name : String) : Option α → Result α
  | some a => .ok a
  | none => .error (.missingField name)

end ViewLayers.Json
