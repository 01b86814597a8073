import ViewLayers.Script.Modules

/-!
The grammar of a script: one rule for each recursive part, and the derivation of a whole script
from them. Between two characters only a few rules can start, so a number of steps linear in the
length of the script is enough.
-/

namespace ViewLayers.Script

open Reading

/-- The rule for each part, reading the parts in it by `call`. -/
def rule : (g : Goal) → Reading g.Result
  | .assign returnTypes => assignRule returnTypes
  | .binary above => binaryRule above
  | .unary => unaryRule
  | .leftHand => leftHandRule
  | .callee => calleeRule classExpression
  | .type => typeRule
  | .typeOperator => typeOperatorRule
  | .pattern => patternRule
  | .statement single => statementRule single
  | .item => itemRule
  | .element child => elementRule child

/-- Read a part within a number of nested rules. -/
def derive : Nat → Rules
  | 0 => fun _ _ _ => none
  | n + 1 => fun g c s => rule g ⟨derive n, c⟩ s

/-- The context of a module's statements. -/
def Context.top (dialect : Dialect) (size : Nat) : Context :=
  { dialect, size, inOperator := true, awaits := true, yields := false, returns := false,
    ambient := false, conditionals := true, decorating := false }

/-- All statements of a module. -/
def items : Reading (List Item) :=
  repeating [] fun seen => do
    if (← token) == .eof then return .inr seen.reverse
    return .inl ((← call .item) :: seen)

/-- The statements of a script; `none` if it is not well formed. -/
def parse (dialect : Dialect) (source : String) : Option (List Item) :=
  let cs := source.toList
  let scope : Scope := ⟨derive (8 * cs.length + 64), .top dialect cs.length⟩
  match items scope ⟨firstLexeme cs, false, 0⟩ with
  | some (is, s) => if s.flawed || s.uncovered != 0 then none else some is
  | none => none

end ViewLayers.Script
