import ViewLayers.Text.Displayed

/-!
JSON values. Numbers are exact, and the fields of an object stand in the order of their names.
-/

namespace ViewLayers

inductive Json where
  | null
  | bool (b : Bool)
  | int (n : Int)
  /-- The number `digits / 10 ^ places`. -/
  | decimal (digits : Int) (places : Nat)
  | string (s : String)
  | array (items : List Json)
  | object (fields : List (String × Json))
deriving Inhabited

namespace Json

/-- A decimal with as few places as it needs, but at least one. -/
def trimPlaces (digits : Int) : Nat → Int × Nat
  | 0 => (digits * 10, 1)
  | 1 => (digits, 1)
  | n + 2 => if digits % 10 == 0 then trimPlaces (digits / 10) (n + 1) else (digits, n + 2)

def decimalText (digits : Int) (places : Nat) : String :=
  let (digits, places) := trimPlaces digits places
  let ds := Nat.toDigits 10 digits.natAbs
  let ds := List.replicate (places + 1 - ds.length) '0' ++ ds
  let point := ds.length - places
  String.ofList ((if digits < 0 then ['-'] else []) ++ ds.take point ++ '.' :: ds.drop point)

/-- What a value is called in a message. -/
def described : Json → String
  | null => "null"
  | bool b => s!"boolean `{b}`"
  | int n => s!"integer `{n}`"
  | decimal digits places => "floating point `" ++ decimalText digits places ++ "`"
  | string s => "string " ++ Text.Displayed.display s
  | array _ => "sequence"
  | object _ => "map"

end Json

end ViewLayers
