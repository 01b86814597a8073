import ViewLayers.Script.Syntax

/-!
Which expressions can be assigned to. An array or object literal becomes a pattern, and takes up
the properties in it that are initialised, as in `a = 1`, and mean nothing elsewhere.
-/

namespace ViewLayers.Script.Expr

/-- Names and members, also under type operators and parentheses. -/
def isSimpleTarget : Expr → Bool
  | .name _ | .member => true
  | .paren e => isSimpleTarget e
  | .typed e => isSimpleTarget e
  | _ => false

def endsInSpread (items : List Expr) : Bool :=
  match items.getLast? with
  | some (.spread _) => true
  | _ => false

mutual

/-- How many initialised properties the expression takes up as a target; `none` if it is none. -/
def targets : Expr → Option Nat
  | .array items comma => if comma && endsInSpread items then none else targetItems items
  | .object items comma => if comma && endsInSpread items then none else targetItems items
  | .name _ | .member => some 0
  | .paren e => if isSimpleTarget e then some 0 else none
  | .typed e => if isSimpleTarget e then some 0 else none
  | _ => none

/-- A spread element has to stand last, and no comma after it. -/
def targetItems : List Expr → Option Nat
  | [] => some 0
  | [.spread e] => targets e
  | e :: es => do return (← targetItem e) + (← targetItems es)

/-- An element: a target, with a default value or without. -/
def targetItem : Expr → Option Nat
  | .hole => some 0
  | .shorthand initialised => some (if initialised then 1 else 0)
  | .assign _ plain => if plain then some 0 else none
  | e => targets e

end

end ViewLayers.Script.Expr
