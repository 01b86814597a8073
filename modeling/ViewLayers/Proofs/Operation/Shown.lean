import Mathlib.Data.List.Basic
import ViewLayers.Operation.Lifecycle

/-!
What a lifecycle shows. The last signal that it accepted puts it in its phase, and the last one that
was no watch decides what it shows there, so that a settlement can be seen until the next one.
-/

namespace ViewLayers

variable {ε α : Type}

inductive Phase.Takes : Phase → Signal ε α → Prop
  | watch (p : Phase) : p.Takes .watch
  | resolve (a : α) : pending.Takes (.resolve a)
  | reject (e : ε) : pending.Takes (.reject e)
  | abort : pending.Takes .abort
  | resetFulfilled : fulfilled.Takes .reset
  | resetRejected : rejected.Takes .reset

/-- The phase that an accepted signal leads to. -/
def Signal.target : Signal ε α → Phase
  | .watch => .pending
  | .resolve _ => .fulfilled
  | .reject _ => .rejected
  | .abort | .reset => .idle

namespace Lifecycle

variable {m m' : Lifecycle ε α} {s t : Signal ε α} {history : List (Signal ε α)}

def run (m : Lifecycle ε α) (signals : List (Signal ε α)) : Lifecycle ε α := signals.foldl send m

/-- The signals of a run that are accepted. -/
def accepted (m : Lifecycle ε α) : List (Signal ε α) → List (Signal ε α)
  | [] => []
  | s :: signals => (if m.accepts s then [s] else []) ++ (m.send s).accepted signals

/-! ### The signal that decides -/

/-- The signal came, and nothing but watches after it. -/
def Decides (s : Signal ε α) (history : List (Signal ε α)) : Prop :=
  ∃ before after, history = before ++ s :: after ∧ ∀ t ∈ after, t = .watch

lemma not_decides_nil (s : Signal ε α) : ¬ Decides s [] := by
  rintro ⟨before, after, h, -⟩
  simp at h

lemma decides_concat_watch (hs : s ≠ .watch) : Decides s (history ++ [.watch]) ↔
    Decides s history := by
  constructor
  · rintro ⟨before, after, h, hafter⟩
    rcases List.eq_nil_or_concat' after with rfl | ⟨after, t, rfl⟩
    · exact absurd (List.append_inj_right' h rfl) (by simpa using hs.symm)
    · rw [← List.cons_append, ← List.append_assoc] at h
      rw [List.forall_mem_append] at hafter
      exact ⟨before, after, List.append_inj_left' h rfl, hafter.1⟩
  · rintro ⟨before, after, rfl, hafter⟩
    refine ⟨before, after ++ [.watch], by simp, ?_⟩
    rw [List.forall_mem_append]
    exact ⟨hafter, by simp⟩

lemma decides_concat (ht : t ≠ .watch) : Decides s (history ++ [t]) ↔ s = t := by
  constructor
  · rintro ⟨before, after, h, hafter⟩
    rcases List.eq_nil_or_concat' after with rfl | ⟨after, t', rfl⟩
    · simpa using (List.append_inj_right' h rfl).symm
    · rw [← List.cons_append, ← List.append_assoc] at h
      obtain rfl : t = t' := by simpa using List.append_inj_right' h rfl
      exact absurd (hafter t (by simp)) ht
  · rintro rfl
    exact ⟨history, [], rfl, by simp⟩

/-! ### The invariant -/

structure Shows (m : Lifecycle ε α) (history : List (Signal ε α)) : Prop where
  phase : m.phase = (history.getLast?.map Signal.target).getD .idle
  idle : m.phase = .idle → m.data = none ∧ m.error = none
  pending : m.phase = .pending → m.data = none ∨ m.error = none
  fulfilled : m.phase = .fulfilled → (∃ a, m.data = some a) ∧ m.error = none
  rejected : m.phase = .rejected → m.data = none ∧ ∃ e, m.error = some e
  data_iff : ∀ a, m.data = some a ↔ Decides (.resolve a) history
  error_iff : ∀ e, m.error = some e ↔ Decides (.reject e) history

lemma shows_init : ({} : Lifecycle ε α).Shows [] where
  phase := rfl
  idle _ := ⟨rfl, rfl⟩
  pending _ := .inl rfl
  fulfilled h := by cases h
  rejected h := by cases h
  data_iff a := by simp [not_decides_nil]
  error_iff e := by simp [not_decides_nil]

lemma Shows.watch (h : m.Shows history) :
    Shows { m with phase := .pending } (history ++ [.watch]) where
  phase := by simp [Signal.target]
  idle hp := by cases hp
  pending _ := by
    rcases hp : m.phase with _ | _ | _ | _
    · exact .inl (h.idle hp).1
    · exact h.pending hp
    · exact .inr (h.fulfilled hp).2
    · exact .inl (h.rejected hp).1
  fulfilled hp := by cases hp
  rejected hp := by cases hp
  data_iff a := by rw [decides_concat_watch (by simp)]; exact h.data_iff a
  error_iff e := by rw [decides_concat_watch (by simp)]; exact h.error_iff e

lemma shows_resolve (history : List (Signal ε α)) (a : α) :
    Shows ⟨.fulfilled, some a, none⟩ (history ++ [.resolve a]) where
  phase := by simp [Signal.target]
  idle hp := by cases hp
  pending hp := by cases hp
  fulfilled _ := ⟨⟨a, rfl⟩, rfl⟩
  rejected hp := by cases hp
  data_iff a' := by simp [decides_concat, eq_comm]
  error_iff e := by simp [decides_concat]

lemma shows_reject (history : List (Signal ε α)) (e : ε) :
    Shows ⟨.rejected, none, some e⟩ (history ++ [.reject e]) where
  phase := by simp [Signal.target]
  idle hp := by cases hp
  pending hp := by cases hp
  fulfilled hp := by cases hp
  rejected _ := ⟨rfl, e, rfl⟩
  data_iff a := by simp [decides_concat]
  error_iff e' := by simp [decides_concat, eq_comm]

lemma shows_cleared (history : List (Signal ε α)) (hs : s = .abort ∨ s = .reset) :
    Shows {} (history ++ [s]) where
  phase := by rcases hs with rfl | rfl <;> simp [Signal.target]
  idle _ := ⟨rfl, rfl⟩
  pending hp := by cases hp
  fulfilled hp := by cases hp
  rejected hp := by cases hp
  data_iff a := by rcases hs with rfl | rfl <;> simp [decides_concat]
  error_iff e := by rcases hs with rfl | rfl <;> simp [decides_concat]

lemma Shows.next (h : m.Shows history) (hnext : m.next? s = some m') :
    m'.Shows (history ++ [s]) := by
  cases s with
  | watch =>
    cases hnext
    exact h.watch
  | resolve a =>
    obtain ⟨-, hm⟩ := Option.ite_none_right_eq_some.1 hnext
    cases hm
    exact shows_resolve history a
  | reject e =>
    obtain ⟨-, hm⟩ := Option.ite_none_right_eq_some.1 hnext
    cases hm
    exact shows_reject history e
  | abort =>
    obtain ⟨-, hm⟩ := Option.ite_none_right_eq_some.1 hnext
    cases hm
    exact shows_cleared history (.inl rfl)
  | reset =>
    obtain ⟨-, hm⟩ := Option.ite_none_right_eq_some.1 hnext
    cases hm
    exact shows_cleared history (.inr rfl)

lemma Shows.send (h : m.Shows history) (s : Signal ε α) :
    (m.send s).Shows (history ++ if m.accepts s then [s] else []) := by
  cases hs : m.accepts s with
  | false =>
    rw [send_of_not_accepts hs, if_neg Bool.false_ne_true, List.append_nil]
    exact h
  | true =>
    obtain ⟨m', hm'⟩ := Option.isSome_iff_exists.1 hs
    rw [if_pos rfl, Lifecycle.send, hm']
    exact h.next hm'

lemma Shows.run (h : m.Shows history) (signals : List (Signal ε α)) :
    (m.run signals).Shows (history ++ m.accepted signals) := by
  induction signals generalizing m history with
  | nil => simpa [Lifecycle.run, accepted] using h
  | cons s signals ih =>
    rw [accepted, ← List.append_assoc]
    exact ih (h.send s)

lemma accepts_iff_takes (m : Lifecycle ε α) (s : Signal ε α) :
    m.accepts s = true ↔ m.phase.Takes s := by
  constructor
  · intro h
    obtain ⟨m', hm'⟩ := Option.isSome_iff_exists.1 h
    cases s with
    | watch => exact .watch _
    | resolve a => exact (Option.ite_none_right_eq_some.1 hm').1 ▸ .resolve a
    | reject e => exact (Option.ite_none_right_eq_some.1 hm').1 ▸ .reject e
    | abort => exact (Option.ite_none_right_eq_some.1 hm').1 ▸ .abort
    | reset =>
      rcases (Option.ite_none_right_eq_some.1 hm').1 with hp | hp
      · exact hp ▸ .resetFulfilled
      · exact hp ▸ .resetRejected
  · intro h
    obtain ⟨phase, data, error⟩ := m
    cases h <;> rfl

/-- **A lifecycle shows its last settlement.** What it shows is the payload of the last resolve or
reject that it accepted, unless an abort or a reset was accepted since, in each phase as the phase
wants it; and a signal that has no place in its phase changes nothing. -/
theorem shows_last_settlement (signals : List (Signal ε α)) :
    (run {} signals).Shows (accepted {} signals) ∧
      ∀ s, ((run {} signals).accepts s = true ↔ (run {} signals).phase.Takes s) ∧
        ((run {} signals).accepts s = false → (run {} signals).send s = run {} signals) :=
  ⟨shows_init.run signals, fun s => ⟨accepts_iff_takes _ s, send_of_not_accepts⟩⟩

/-- A watch keeps the last settlement visible, and a late one is refused. -/
example : (run {} [.watch, .resolve 1, .reject "late", .watch, .watch] : Lifecycle String Nat) =
    ⟨.pending, some 1, none⟩ := rfl

end Lifecycle

end ViewLayers
