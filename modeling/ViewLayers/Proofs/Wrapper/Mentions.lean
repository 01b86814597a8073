import Mathlib.Data.List.Basic
import ViewLayers.Wrapper.Syntax

/-!
Which identifiers a module mentions, and which it binds.
-/

namespace ViewLayers.Wrapper

namespace Expr

mutual

/-- The identifiers that an expression mentions, in order. Without `deferred`, those inside the
functions that it makes are left out, which are not looked up when it is evaluated. -/
def mentions (deferred : Bool) : Expr → List Ident
  | ident i => [i]
  | text _ => []
  | null => []
  | yes => []
  | member e _ => e.mentions deferred
  | orElse e e' => e.mentions deferred ++ e'.mentions deferred
  | call f args => f :: mentionsOfList deferred args
  | glob args => mentionsOfList deferred args
  | load _ => []
  | thunk e => if deferred then e.mentions deferred else []
  | object fields => mentionsOfFields deferred fields
  | list es => mentionsOfList deferred es
  | boundary component fallback inner =>
    .own .createElement :: .own component
      :: (fallback.mentions deferred ++ inner.mentions deferred)

def mentionsOfList (deferred : Bool) : List Expr → List Ident
  | [] => []
  | e :: es => e.mentions deferred ++ mentionsOfList deferred es

def mentionsOfFields (deferred : Bool) : List (Key × Expr) → List Ident
  | [] => []
  | (_, e) :: fs => e.mentions deferred ++ mentionsOfFields deferred fs

end

variable {b : Bool}

@[simp] lemma mentions_own (r : Role) : (own r).mentions b = [.own r] := by
  simp [own, mentions]

@[simp] lemma mentionsOfList_eq (es : List Expr) :
    mentionsOfList b es = es.flatMap (mentions b) := by
  induction es with
  | nil => rfl
  | cons e es ih => rw [mentionsOfList, ih, List.flatMap_cons]

@[simp] lemma mentionsOfFields_eq (fs : List (Key × Expr)) :
    mentionsOfFields b fs = fs.flatMap fun f => f.2.mentions b := by
  induction fs with
  | nil => rfl
  | cons f fs ih => rw [mentionsOfFields, ih, List.flatMap_cons]

attribute [simp] mentions

mutual

/-- What is looked up at once is among all that is mentioned. -/
theorem mentions_false_sublist : (e : Expr) →
    List.Sublist (e.mentions false) (e.mentions true)
  | ident _ | text _ | null | yes | load _ => .refl _
  | member e _ => mentions_false_sublist e
  | orElse e e' => (mentions_false_sublist e).append (mentions_false_sublist e')
  | call _ es => (mentionsOfList_false_sublist es).cons_cons _
  | glob es | list es => mentionsOfList_false_sublist es
  | thunk _ => List.nil_sublist _
  | object fs => mentionsOfFields_false_sublist fs
  | boundary _ fallback inner =>
    .cons_cons _ <| .cons_cons _ <|
      (mentions_false_sublist fallback).append (mentions_false_sublist inner)

theorem mentionsOfList_false_sublist : (es : List Expr) →
    List.Sublist (mentionsOfList false es) (mentionsOfList true es)
  | [] => .refl _
  | e :: es => (mentions_false_sublist e).append (mentionsOfList_false_sublist es)

theorem mentionsOfFields_false_sublist : (fs : List (Key × Expr)) →
    List.Sublist (mentionsOfFields false fs) (mentionsOfFields true fs)
  | [] => .refl _
  | (_, e) :: fs => (mentions_false_sublist e).append (mentionsOfFields_false_sublist fs)

end

end Expr

/-! ### What is bound -/

/-- The identifiers that an import brings in. -/
def Import.binds : Import → List Ident
  | .named _ names => names.map (·.2)
  | .default _ r => [.own r]

/-- The identifiers that a declaration introduces at the top of its module. -/
def Decl.binds : Decl → List Ident
  | .const r _ | .function r _ _ => [.own r]
  | _ => []

/-- Those that are there before the module is run. -/
def Decl.hoists : Decl → List Ident
  | .function r _ _ => [.own r]
  | _ => []

/-- All that a declaration mentions, at any depth. -/
def Decl.mentions : Decl → List Ident
  | .const _ e => e.mentions true
  | .function _ locals result => locals.flatMap (fun l => l.2.mentions true) ++ result.mentions true
  | .displayName r _ | .exportDefault r => [.own r]

namespace Module

def decls (m : Module) : List Decl := m.sections.flatten

def imported (m : Module) : List Ident := m.imports.flatMap Import.binds

/-- Everything that is bound at the top of the module, in order. -/
def bound (m : Module) : List Ident := m.imported ++ m.decls.flatMap Decl.binds

end Module

end ViewLayers.Wrapper
