import ViewLayers.Script.Grammar

/-!
The names that a script exports under their own name, in the order of the source. Types are no
names, and a script that is not well formed has none.
-/

namespace ViewLayers.Script

mutual

/-- The names of a pattern that have no default value above them. -/
def Pattern.plainNames : Pattern → List String
  | .name id => [id]
  | .object fields rest => plainNamesOfList fields ++ plainNamesOfOption rest
  | .array items rest => plainNamesOfItems items ++ plainNamesOfOption rest
  | .withDefault _ => []

def plainNamesOfList : List Pattern → List String
  | [] => []
  | p :: ps => p.plainNames ++ plainNamesOfList ps

def plainNamesOfOption : Option Pattern → List String
  | none => []
  | some p => p.plainNames

def plainNamesOfItems : List (Option Pattern) → List String
  | [] => []
  | p :: ps => plainNamesOfOption p ++ plainNamesOfItems ps

end

/-- The default export, which is no named one. -/
def defaultName : String := "default"

/-- The names that a declaration binds to values. -/
def Declaration.names : Declaration → List String
  | .bindings ps => ps.flatMap Pattern.plainNames
  | .function n | .class n | .enum n => [n]
  | .typeLevel => []

def Item.names : Item → List String
  | .declaration d ambient => if ambient then [] else d.names
  | .list specifiers typeOnly =>
    if typeOnly then []
    else (specifiers.filterMap fun s => if s.typeOnly then none else s.exported).filter
      (· != defaultName)
  | .silent => []

/-- The named exports of a script. -/
def exportNames (dialect : Dialect) (source : String) : List String :=
  ((parse dialect source).getD []).flatMap Item.names

/-- The dialect that a file name's extension stands for; a name without one has types. -/
def Dialect.ofExtension (extension : Option String) : Dialect :=
  let e := extension.getD "ts"
  { types := ["ts", "tsx", "mts", "cts"].contains e
    markup := ["tsx", "jsx", "js"].contains e }

end ViewLayers.Script
