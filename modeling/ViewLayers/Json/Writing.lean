import ViewLayers.Text.Quoted
import ViewLayers.Text.Split

/-!
Writing data as JSON, without blanks and in the order that the data has. A field is named by a text,
so data with a field that is named otherwise cannot be written.
-/

namespace ViewLayers.Json

open Text

/-- Data to be written. Its fields may be named by any data. -/
inductive Data where
  | null
  | text (s : String)
  | map (fields : List (Data × Data))

inductive Unwritable where
  | nameNotText

def Unwritable.message : Unwritable → String
  | .nameNotText => "key must be a string"

namespace Data

/-- Data as the name of a field. -/
def writeName : Data → Except Unwritable String
  | .text s => .ok (Quoted.literal s)
  | .null | .map _ => .error .nameNotText

mutual

def write : Data → Except Unwritable String
  | .null => .ok "null"
  | .text s => .ok (Quoted.literal s)
  | .map fields => do
    let written ← writeFields fields
    return "\x7b" ++ joinWith "," written ++ "\x7d"

def writeFields : List (Data × Data) → Except Unwritable (List String)
  | [] => .ok []
  | (name, value) :: fields => do
    let name ← name.writeName
    let value ← value.write
    let written ← writeFields fields
    return (name ++ ":" ++ value) :: written

end

end Data

end ViewLayers.Json
