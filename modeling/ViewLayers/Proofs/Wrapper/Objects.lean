import Mathlib.Data.List.Basic
import ViewLayers.Wrapper.Assembly

/-!
What stands in the objects that wrappers write.
-/

namespace ViewLayers.Wrapper

/-- The name that a key gives to a property. -/
def Key.name? : Key → Option String
  | .name s | .text s => some s
  | .spread => none

namespace Expr

def fields : Expr → List (Key × Expr)
  | object fields => fields
  | _ => []

/-- The keys of the properties that an object spells out. -/
def keys (e : Expr) : List String := e.fields.filterMap fun f => f.1.name?

/-- The value of a property that an object spells out. Of several with one key the last counts; and
what is written as `__proto__` is no property, but what the object inherits from. -/
def prop? (e : Expr) (key : String) : Option Expr :=
  if key = "__proto__" then none
  else ((e.fields.filter fun f => f.1.name? = some key).getLast?).map Prod.snd

end Expr

end ViewLayers.Wrapper
