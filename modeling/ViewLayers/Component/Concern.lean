import ViewLayers.Path

/-!
Concerns: behaviours that files beside a component's view add to it.
-/

namespace ViewLayers

inductive Concern where
  | async
  | placeholder
  | error
  | i18n
deriving DecidableEq

namespace Concern

/-- All concerns, in the order in which they are listed. -/
def all : List Concern := [.async, .placeholder, .error, .i18n]

/-- The base name of the concern's file, or the name of its directory. -/
def stem : Concern → String
  | .async => "async"
  | .placeholder => "placeholder"
  | .error => "error"
  | .i18n => "i18n"

/-- The name of a concern in data. -/
def label (k : Concern) : String := k.stem

def labels : List (String × Concern) := all.map fun k => (k.label, k)

theorem mem_all (k : Concern) : k ∈ all := by cases k <;> simp [all]

end Concern

structure Concerns where
  async : Option Path
  placeholder : Option Path
  error : Option Path
  i18n : Option Path
deriving DecidableEq

namespace Concerns

def none : Concerns := ⟨.none, .none, .none, .none⟩

def get (c : Concerns) : Concern → Option Path
  | .async => c.async
  | .placeholder => c.placeholder
  | .error => c.error
  | .i18n => c.i18n

/-- The concerns whose files are given by `f`. -/
def ofFunction (f : Concern → Option Path) : Concerns :=
  ⟨f .async, f .placeholder, f .error, f .i18n⟩

def set (c : Concerns) (k : Concern) (p : Path) : Concerns :=
  ofFunction fun k' => if k' = k then some p else c.get k'

@[simp] theorem get_ofFunction (f : Concern → Option Path) (k : Concern) :
    (ofFunction f).get k = f k := by cases k <;> rfl

@[simp] theorem get_none (k : Concern) : none.get k = .none := by cases k <;> rfl

theorem get_set (c : Concerns) (k k' : Concern) (p : Path) :
    (c.set k p).get k' = if k' = k then some p else c.get k' := by simp [set]

def isEmpty (c : Concerns) : Bool := Concern.all.all fun k => (c.get k).isNone

end Concerns

end ViewLayers
