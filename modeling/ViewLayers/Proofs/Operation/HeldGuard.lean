import Mathlib.Data.List.Perm.Subperm
import ViewLayers.Operation.Tracker

/-!
The guard in hand. Of all the guards that a tracker ever issued only the one in hand is valid, and
it is the last one. `Governed` adds which operations may still come to settle the tracker: one of
them at most is under the guard in hand, and while there is one the tracker waits for it.
-/

namespace ViewLayers

variable {ε α : Type}

namespace Lifecycle

/-- What is shown of an operation that has come to an outcome. -/
def settled : Outcome ε α → Lifecycle ε α
  | .ok a => ⟨.fulfilled, some a, none⟩
  | .error e => ⟨.rejected, none, some e⟩

lemma phase_settled_ne (r : Outcome ε α) : (settled r).phase ≠ .pending := by
  cases r <;> simp [settled]

lemma phase_send_abort_ne (m : Lifecycle ε α) : (m.send .abort).phase ≠ .pending := by
  by_cases h : m.phase = .pending <;> simp [send, next?, h]

lemma phase_send_reset_eq_pending_iff (m : Lifecycle ε α) :
    (m.send .reset).phase = .pending ↔ m.phase = .pending := by
  by_cases h : m.phase = .fulfilled ∨ m.phase = .rejected
  · rcases h with h | h <;> simp [send, next?, h]
  · simp [send, next?, h]

lemma accepts_ofOutcome {m : Lifecycle ε α} (h : m.phase = .pending) (r : Outcome ε α) :
    m.accepts (.ofOutcome r) = true := by
  cases r <;> simp [accepts, next?, Signal.ofOutcome, h]

lemma send_ofOutcome {m : Lifecycle ε α} (h : m.phase = .pending) (r : Outcome ε α) :
    m.send (.ofOutcome r) = settled r := by
  cases r <;> simp [send, next?, Signal.ofOutcome, settled, h]

end Lifecycle

namespace Tracker

structure Single (t : Tracker ε α) : Prop where
  valid_iff : ∀ g, t.isValid g = true ↔ t.held = some g
  last : ∀ g, t.held = some g → g + 1 = t.guards.length

@[simp] lemma held_letGo (t : Tracker ε α) : t.letGo.held = none := by
  unfold letGo; split <;> simp_all

@[simp] lemma length_guards_letGo (t : Tracker ε α) :
    t.letGo.guards.length = t.guards.length := by
  unfold letGo; split <;> simp

lemma Single.isValid_letGo {t : Tracker ε α} (h : t.Single) (g : Nat) :
    t.letGo.isValid g = false := by
  have hv := h.valid_iff g
  unfold letGo
  split
  · rename_i guard hg
    rw [hg] at hv
    simp only [isValid, List.getElem?_set] at hv ⊢
    by_cases he : guard = g
    · subst he
      by_cases hlt : guard < t.guards.length <;> simp [hlt]
    · simpa [he] using hv
  · rename_i hg
    rw [hg] at hv
    simpa using hv

lemma Single.letGo {t : Tracker ε α} (h : t.Single) : t.letGo.Single :=
  ⟨fun g => by simp [h.isValid_letGo g], fun g hg => by simp at hg⟩

lemma Single.send {t : Tracker ε α} (h : t.Single) (s : Signal ε α) : (t.send s).Single :=
  ⟨h.valid_iff, h.last⟩

@[simp] lemma held_watch (t : Tracker ε α) : t.watch.2.held = some t.guards.length := by
  simp [watch, Tracker.send]

@[simp] lemma length_guards_watch (t : Tracker ε α) :
    t.watch.2.guards.length = t.guards.length + 1 := by simp [watch, Tracker.send]

@[simp] lemma fst_watch (t : Tracker ε α) : t.watch.1 = t.guards.length := by simp [watch]

@[simp] lemma phase_watch (t : Tracker ε α) : t.watch.2.lifecycle.phase = .pending := rfl

lemma Single.watch {t : Tracker ε α} (h : t.Single) : t.watch.2.Single := by
  refine ⟨fun g => ?_, fun g hg => ?_⟩
  · have hv : ∀ n, t.letGo.guards[n]?.getD false = false := h.isValid_letGo
    rw [held_watch, Option.some.injEq]
    have hlen := length_guards_letGo t
    show (t.letGo.guards ++ [true])[g]?.getD false = true ↔ t.guards.length = g
    rcases Nat.lt_trichotomy g t.guards.length with hlt | rfl | hgt
    · rw [List.getElem?_append_left (by omega), hv g]
      simp [Nat.ne_of_gt hlt]
    · rw [← hlen, List.getElem?_concat_length]
      simp
    · rw [List.getElem?_eq_none (by rw [List.length_append, List.length_singleton]; omega)]
      simp [Nat.ne_of_lt hgt]
  · rw [held_watch, Option.some.injEq] at hg
    rw [length_guards_watch, hg]

@[simp] lemma held_abort (t : Tracker ε α) : t.abort.held = none := by simp [abort, Tracker.send]

@[simp] lemma length_guards_abort (t : Tracker ε α) :
    t.abort.guards.length = t.guards.length := by simp [abort, Tracker.send]

@[simp] lemma held_settle (t : Tracker ε α) (r : Outcome ε α) : (t.settle r).held = t.held := rfl

/-- Whatever is in hand in `t'` was in hand in `t` or was issued since. -/
def Later (t t' : Tracker ε α) : Prop :=
  t.guards.length ≤ t'.guards.length ∧
    ∀ g, t'.held = some g → t.held = some g ∨ t.guards.length ≤ g

lemma Later.refl (t : Tracker ε α) : t.Later t := ⟨Nat.le_refl _, fun _ => .inl⟩

lemma Later.of_eq {t t' : Tracker ε α} (h : t' = t) : t.Later t' := h ▸ Later.refl t

lemma Later.trans {t₁ t₂ t₃ : Tracker ε α} (h₁ : t₁.Later t₂) (h₂ : t₂.Later t₃) :
    t₁.Later t₃ := by
  refine ⟨Nat.le_trans h₁.1 h₂.1, fun g hg => ?_⟩
  rcases h₂.2 g hg with hg | hg
  · exact h₁.2 g hg
  · exact .inr (Nat.le_trans h₁.1 hg)

lemma later_letGo (t : Tracker ε α) : t.Later t.letGo := ⟨by simp, fun g hg => by simp at hg⟩

lemma later_abort (t : Tracker ε α) : t.Later t.abort := ⟨by simp, fun g hg => by simp at hg⟩

lemma later_send (t : Tracker ε α) (s : Signal ε α) : t.Later (t.send s) := Later.refl t

lemma later_watch (t : Tracker ε α) : t.Later t.watch.2 := by
  refine ⟨by simp, fun g hg => .inr ?_⟩
  rw [held_watch, Option.some.injEq] at hg
  exact Nat.le_of_eq hg

lemma admits_iff {t : Tracker ε α} {g : Nat} :
    t.admits g = true ↔ t.held = some g ∧ t.isValid g = true := by simp [admits]

end Tracker

open Tracker

/-- A tracker that the operations under the guards in `running` may still come to settle, and those
under the guards in `done` have settled. -/
structure Governed (done : Nat → Prop) (running : List Nat) (alive : Bool) (t : Tracker ε α) :
    Prop where
  single : t.Single
  alive_of_held : ∀ g, t.held = some g → alive = true
  nodup : running.Nodup
  lt_of_running : ∀ g ∈ running, g < t.guards.length
  pending_of_running : ∀ g ∈ running, t.held = some g → t.lifecycle.phase = .pending
  lt_of_done : ∀ g, done g → g < t.guards.length
  held_of_pending : alive = true → t.lifecycle.phase = .pending →
    ∃ g, t.held = some g ∧ ¬ done g

namespace Governed

variable {done : Nat → Prop} {running running' : List Nat} {alive : Bool} {t : Tracker ε α}

lemma init : Governed (fun _ => False) [] true ({} : Tracker ε α) where
  single := ⟨fun g => by simp [isValid], fun g hg => by simp at hg⟩
  alive_of_held := fun _ _ => rfl
  nodup := List.nodup_nil
  lt_of_running := by simp
  pending_of_running := by simp
  lt_of_done := fun _ h => h.elim
  held_of_pending := fun _ h => by simp at h

lemma mono (h : Governed done running alive t) (hr : running'.Subperm running) :
    Governed done running' alive t := by
  obtain ⟨l, hp, hs⟩ := hr
  have hmem : ∀ g ∈ running', g ∈ running := fun g hg => hs.subset (hp.mem_iff.2 hg)
  exact
    { h with
      nodup := hp.nodup_iff.1 (h.nodup.sublist hs)
      lt_of_running := fun g hg => h.lt_of_running g (hmem g hg)
      pending_of_running := fun g hg => h.pending_of_running g (hmem g hg) }

lemma watch (h : Governed done running alive t) (ha : alive = true) :
    Governed done (t.guards.length :: running) alive t.watch.2 where
  single := h.single.watch
  alive_of_held := fun _ _ => ha
  nodup := List.nodup_cons.2 ⟨fun hm => Nat.lt_irrefl _ (h.lt_of_running _ hm), h.nodup⟩
  lt_of_running := fun g hg => by
    rw [length_guards_watch]
    rcases List.mem_cons.1 hg with rfl | hg
    · omega
    · have := h.lt_of_running g hg; omega
  pending_of_running := fun _ _ _ => phase_watch t
  lt_of_done := fun g hg => by
    have := h.lt_of_done g hg
    rw [length_guards_watch]; omega
  held_of_pending := fun _ _ => ⟨_, held_watch t, fun hd => Nat.lt_irrefl _ (h.lt_of_done _ hd)⟩

lemma letGo (h : Governed done running alive t) : Governed done running false t.letGo where
  single := h.single.letGo
  alive_of_held := fun g hg => by simp at hg
  nodup := h.nodup
  lt_of_running := by simpa using h.lt_of_running
  pending_of_running := fun g _ hg => by simp at hg
  lt_of_done := by simpa using h.lt_of_done
  held_of_pending := fun ha => by simp at ha

lemma abort (h : Governed done running alive t) : Governed done running alive t.abort where
  single := h.single.letGo.send .abort
  alive_of_held := fun g hg => by simp at hg
  nodup := h.nodup
  lt_of_running := by simpa using h.lt_of_running
  pending_of_running := fun g _ hg => by simp at hg
  lt_of_done := by simpa using h.lt_of_done
  held_of_pending := fun _ hp => absurd hp (Lifecycle.phase_send_abort_ne _)

lemma reset (h : Governed done running alive t) : Governed done running alive t.reset where
  single := h.single.send .reset
  alive_of_held := h.alive_of_held
  nodup := h.nodup
  lt_of_running := h.lt_of_running
  pending_of_running := fun g hg hh =>
    (Lifecycle.phase_send_reset_eq_pending_iff _).2 (h.pending_of_running g hg hh)
  lt_of_done := h.lt_of_done
  held_of_pending := fun ha hp =>
    h.held_of_pending ha ((Lifecycle.phase_send_reset_eq_pending_iff _).1 hp)

lemma settle {g : Nat} (h : Governed done running alive t) (hr : (g :: running').Subperm running)
    (hg : t.held = some g) (r : Outcome ε α) :
    Governed (fun x => done x ∨ x = g) running' alive (t.settle r) := by
  have h' := h.mono hr
  have hpend := h'.pending_of_running g List.mem_cons_self hg
  have hphase : (t.settle r).lifecycle.phase ≠ .pending := by
    rw [Tracker.settle, Tracker.send, Lifecycle.send_ofOutcome hpend]
    exact Lifecycle.phase_settled_ne r
  have hnot : g ∉ running' := (List.nodup_cons.1 h'.nodup).1
  exact
    { single := h.single.send _
      alive_of_held := h.alive_of_held
      nodup := (List.nodup_cons.1 h'.nodup).2
      lt_of_running := fun x hx => h'.lt_of_running x (List.mem_cons_of_mem _ hx)
      pending_of_running := fun x hx hh => by
        rw [held_settle, hg, Option.some.injEq] at hh
        exact absurd (hh ▸ hx) hnot
      lt_of_done := fun x hx => by
        rcases hx with hx | rfl
        · exact h.lt_of_done x hx
        · exact h'.lt_of_running x List.mem_cons_self
      held_of_pending := fun _ hp => absurd hp hphase }

end Governed

end ViewLayers
