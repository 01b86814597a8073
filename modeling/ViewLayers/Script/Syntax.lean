/-!
What the grammar keeps of a script: the bindings and exports of its statements, and as much of an
expression as decides whether it can be assigned to.
-/

namespace ViewLayers.Script

inductive Pattern where
  | name (id : String)
  | object (fields : List Pattern) (rest : Option Pattern)
  | array (items : List (Option Pattern)) (rest : Option Pattern)
  | withDefault (target : Pattern)

/-- The outline of an expression. Elements of arrays and properties of objects are outlines too. -/
inductive Expr where
  | name (id : String)
  | member
  /-- Holds an optional access, so that nothing can be assigned to it. -/
  | chain
  | paren (e : Expr)
  | array (items : List Expr) (trailingComma : Bool)
  | object (items : List Expr) (trailingComma : Bool)
  | assign (target : Expr) (plain : Bool)
  /-- An expression under a type operator. -/
  | typed (e : Expr)
  | hole
  | spread (e : Expr)
  /-- A property that is its own value; `initialised` as in `a = 1`. -/
  | shorthand (initialised : Bool)
  | unary
  | coalesce
  | logical
  | sequence
  | other

structure Specifier where
  exported : Option String
  typeOnly : Bool

inductive Declaration where
  | bindings (patterns : List Pattern)
  | function (name : String)
  | class (name : String)
  | enum (name : String)
  /-- An interface, type alias, namespace or import alias. -/
  | typeLevel

inductive Item where
  | declaration (d : Declaration) (ambient : Bool)
  | list (specifiers : List Specifier) (typeOnly : Bool)
  | silent

inductive Goal where
  /-- An assignment expression. `returnTypes` allows an arrow function to state one. -/
  | assign (returnTypes : Bool)
  /-- Operators that bind tighter than `above`. -/
  | binary (above : Nat)
  | unary
  /-- An expression without operators, calls included. -/
  | leftHand
  /-- What may follow `new`. -/
  | callee
  | type
  | typeOperator
  | pattern
  /-- A statement; `single` if it is the whole body of another. -/
  | statement (single : Bool)
  /-- A statement where imports and exports may stand. -/
  | item
  /-- An element of markup from after its `<`; `child` if it stands in another. -/
  | element (child : Bool)

@[reducible] def Goal.Result : Goal → Type
  | .assign _ | .binary _ | .unary | .leftHand | .callee => Expr
  | .pattern => Pattern
  | .item => Item
  | .type | .typeOperator | .statement _ | .element _ => Unit

end ViewLayers.Script
