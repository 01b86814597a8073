/-!
The life of an operation as its owner shows it. A signal that has no place in the current phase is
refused and changes nothing. While a new operation is pending, what the last one came to stays.
-/

namespace ViewLayers

inductive Phase where
  | idle
  | pending
  | fulfilled
  | rejected
deriving DecidableEq

namespace Phase

def all : List Phase := [.idle, .pending, .fulfilled, .rejected]

/-- The name of a phase in data. -/
def label : Phase → String
  | .idle => "idle"
  | .pending => "pending"
  | .fulfilled => "fulfilled"
  | .rejected => "rejected"

def labels : List (String × Phase) := all.map fun p => (p.label, p)

/-- What a phase is called where operations are shown to users. -/
def status : Phase → String
  | .idle => "idle"
  | .pending => "loading"
  | .fulfilled => "success"
  | .rejected => "error"

end Phase

variable {ε α : Type}

/-- What an operation comes to: an error or its data. -/
abbrev Outcome (ε α : Type) := Except ε α

inductive Signal (ε α : Type) where
  | watch
  | resolve (data : α)
  | reject (error : ε)
  | abort
  | reset

def Signal.ofOutcome : Outcome ε α → Signal ε α
  | .ok a => .resolve a
  | .error e => .reject e

structure Lifecycle (ε α : Type) where
  phase : Phase := .idle
  data : Option α := none
  error : Option ε := none

namespace Lifecycle

/-- What a signal leads to, if it is accepted. -/
def next? (m : Lifecycle ε α) : Signal ε α → Option (Lifecycle ε α)
  | .watch => some { m with phase := .pending }
  | .resolve a => if m.phase = .pending then some ⟨.fulfilled, some a, none⟩ else none
  | .reject e => if m.phase = .pending then some ⟨.rejected, none, some e⟩ else none
  | .abort => if m.phase = .pending then some {} else none
  | .reset => if m.phase = .fulfilled ∨ m.phase = .rejected then some {} else none

def accepts (m : Lifecycle ε α) (s : Signal ε α) : Bool := (m.next? s).isSome

def send (m : Lifecycle ε α) (s : Signal ε α) : Lifecycle ε α := (m.next? s).getD m

theorem send_of_not_accepts {m : Lifecycle ε α} {s : Signal ε α} (h : m.accepts s = false) :
    m.send s = m := by
  simp only [accepts, Option.isSome_eq_false_iff, Option.isNone_iff_eq_none] at h
  simp [send, h]

end Lifecycle

end ViewLayers
