import Mathlib.Logic.Relation
import ViewLayers.Operation.Handler
import ViewLayers.Proofs.Operation.Settling

/-!
What a retry replays. A handler gives every call a guard and keeps the arguments of the last one, so
that the operation under the guard in hand, which alone may settle the handler, is the one that a
retry would start again.
-/

namespace ViewLayers

variable {A ε α : Type}

namespace Tracker

inductive Turn (t : Tracker ε α) : Tracker ε α → Prop
  | same : Turn t t
  | letGo : Turn t t.letGo
  | abort : Turn t t.abort
  | reset : Turn t t.reset
  | settle {g : Nat} (hg : t.held = some g) (r : Outcome ε α) : Turn t (t.settle r)

namespace Turn

variable {t t' : Tracker ε α}

lemma single (h : t.Turn t') (hs : t.Single) : t'.Single := by
  cases h with
  | same => exact hs
  | letGo => exact hs.letGo
  | abort => exact hs.letGo.send .abort
  | reset => exact hs.send .reset
  | settle _ r => exact hs.send (.ofOutcome r)

lemma later (h : t.Turn t') : t.Later t' := by
  cases h with
  | same => exact Later.refl t
  | letGo => exact later_letGo t
  | abort => exact later_abort t
  | reset => exact later_send t .reset
  | settle _ r => exact later_send t (.ofOutcome r)

lemma length_guards (h : t.Turn t') : t'.guards.length = t.guards.length := by
  cases h with
  | letGo => exact length_guards_letGo t
  | abort => exact length_guards_abort t
  | _ => rfl

lemma error_eq_none (h : t.Turn t') (hs : t.Single) (hg : t.guards.length = 0)
    (he : t.lifecycle.error = none) : t'.lifecycle.error = none := by
  have hletGo : t.letGo.lifecycle = t.lifecycle := by
    unfold Tracker.letGo
    split <;> rfl
  have hsend : ∀ s, s = .abort ∨ s = .reset → (t.lifecycle.send s).error = none := by
    rintro s (rfl | rfl) <;> simp only [Lifecycle.send, Lifecycle.next?] <;> split <;> simp [he]
  cases h with
  | same => exact he
  | letGo => rw [hletGo, he]
  | abort =>
    rw [Tracker.abort, Tracker.send, hletGo]
    exact hsend _ (.inl rfl)
  | reset => exact hsend _ (.inr rfl)
  | settle hheld r =>
    have := hs.last _ hheld
    omega

end Turn

end Tracker

namespace Handler

variable {h h' : Handler A ε α}

/-! ### Runs -/

def run (h : Handler A ε α) (es : List (Event A ε α)) : Option (Handler A ε α) :=
  runBy step h es

/-- Polling the settlement `n`, whose operation is under the guard `g`, completes it. -/
def CompletesAt (h : Handler A ε α) (n g : Nat) : Prop :=
  (∃ f, h.watching.settlements[n]? = some (some f) ∧ f.guard = g) ∧ (h.poll n).1 = .done ()

def CompletesBy (h : Handler A ε α) : Event A ε α → Nat → Prop
  | .poll n, g => h.CompletesAt n g
  | _, _ => False

/-- A settlement under the guard `g` completes in the course of a run. -/
def Completes (h : Handler A ε α) : List (Event A ε α) → Nat → Prop
  | [], _ => False
  | e :: es, g => h.CompletesBy e g ∨ ∃ a h', h.step e = some (a, h') ∧ h'.Completes es g

/-- Whether an event brings arguments of its own. -/
def Event.Invokes : Event A ε α → Prop
  | .invoke _ _ | .start _ _ _ => True
  | _ => False

/-- What an event does to the handles. An error takes one only while another is left. -/
def handlesBy (handles : List Bool) : Event A ε α → List Bool
  | .clone _ => handles ++ [true]
  | .drop handle => handles.set handle false
  | .upgrade _ => if handles.any id then handles ++ [true] else handles
  | _ => handles

/-- The operation is called with `a`, and with whatever this call brings in its turn. -/
def Starts (h h' : Handler A ε α) (a : A) : Prop := ∃ more, h'.calls = h.calls ++ a :: more

/-! ### Moves -/

/-- The moves that all steps are made of: a call, what comes between two calls, and taking out an
error. -/
inductive Move (h : Handler A ε α) : Handler A ε α → Prop
  | call (r : Request A ε α) {w : Watching ε α} (hw : w.tracker = h.watching.tracker.watch.2) :
      Move h { h with watching := w, last := some r, calls := h.calls ++ [r.args] }
  | turn {w : Watching ε α} {atPoll : List (AtPoll A ε α)}
      (hw : h.watching.tracker.Turn w.tracker)
      (hp : ∀ a ∈ atPoll, a ∈ h.atPoll ∨ a = .nothing ∨ h.calls ≠ []) :
      Move h { h with watching := w, atPoll }
  | keep {e : ε} (he : h.error? = some e) : Move h { h with errors := h.errors ++ [e] }

abbrev Moves (h h' : Handler A ε α) : Prop := Relation.ReflTransGen Move h h'

/-- A handler whose calls each have their guard, and which keeps the last one. Before the first call
there is nothing to retry. -/
structure Coherent (h : Handler A ε α) : Prop where
  single : h.watching.tracker.Single
  length_guards : h.watching.tracker.guards.length = h.calls.length
  lastArgs : h.lastArgs? = h.calls.getLast?
  atPoll : h.calls = [] → ∀ a ∈ h.atPoll, a = .nothing
  error : h.calls = [] → h.error? = none
  errors : h.calls = [] → h.errors = []

namespace Coherent

lemma init : Coherent ({} : Handler A ε α) where
  single := Governed.init.single
  length_guards := rfl
  lastArgs := rfl
  atPoll := fun _ a ha => by simp at ha
  error := fun _ => rfl
  errors := fun _ => rfl

lemma move (hc : h.Coherent) (hm : Move h h') : h'.Coherent := by
  cases hm with
  | call r hw =>
    have hne : h.calls ++ [r.args] ≠ [] := List.append_ne_nil_of_right_ne_nil _ (by simp)
    exact
      { single := hw ▸ hc.single.watch
        length_guards := by
          rw [hw, Tracker.length_guards_watch, hc.length_guards, List.length_append,
            List.length_singleton]
        lastArgs := List.getLast?_concat.symm
        atPoll := fun h => absurd h hne
        error := fun h => absurd h hne
        errors := fun h => absurd h hne }
  | turn hw hp =>
    exact
      { hc with
        single := hw.single hc.single
        length_guards := hw.length_guards.trans hc.length_guards
        atPoll := fun hn a ha => by
          rcases hp a ha with ha | ha | ha
          · exact hc.atPoll hn a ha
          · exact ha
          · exact absurd hn ha
        error := fun hn => by
          refine hw.error_eq_none hc.single ?_ (hc.error hn)
          rw [hc.length_guards, hn, List.length_nil] }
  | keep he =>
    have hne : h.calls ≠ [] := fun hn => by simp [hc.error hn] at he
    exact { hc with errors := fun hn => absurd hn hne }

lemma moves (hc : h.Coherent) (hm : Moves h h') : h'.Coherent := by
  induction hm with
  | refl => exact hc
  | tail _ hmove ih => exact ih.move hmove

end Coherent

/-- What is never undone: guards are not taken up again, calls and errors are only added. -/
structure Grows (h h' : Handler A ε α) : Prop where
  later : h.watching.tracker.Later h'.watching.tracker
  calls : h.calls <+: h'.calls
  errors : h.errors <+: h'.errors

lemma Grows.refl (h : Handler A ε α) : Grows h h :=
  ⟨Tracker.Later.refl _, List.prefix_rfl, List.prefix_rfl⟩

lemma Grows.trans {h₁ h₂ h₃ : Handler A ε α} (h : Grows h₁ h₂) (h' : Grows h₂ h₃) :
    Grows h₁ h₃ :=
  ⟨h.later.trans h'.later, h.calls.trans h'.calls, h.errors.trans h'.errors⟩

lemma Move.grows (hm : Move h h') : Grows h h' := by
  cases hm with
  | call r hw => exact ⟨hw ▸ Tracker.later_watch _, List.prefix_append _ _, List.prefix_rfl⟩
  | turn hw hp => exact ⟨hw.later, List.prefix_rfl, List.prefix_rfl⟩
  | keep he => exact ⟨Tracker.Later.refl _, List.prefix_rfl, List.prefix_append _ _⟩

lemma grows_of_moves (hm : Moves h h') : Grows h h' := by
  induction hm with
  | refl => exact .refl h
  | tail _ hmove ih => exact ih.trans hmove.grows

/-! ### What each operation does -/

lemma move_beginCall (h : Handler A ε α) (args : A) (o : Option (Outcome ε α)) (c : AtCall A ε α)
    (p : AtPoll A ε α) : Move h (h.beginCall (.mk args o c p) args o).2.2 :=
  .call (.mk args o c p) rfl

lemma move_watching {w : Watching ε α} (hw : h.watching.tracker.Turn w.tracker) :
    Move h { h with watching := w } :=
  .turn hw fun _ ha => .inl ha

mutual

theorem moves_invoke (h : Handler A ε α) : (r : Request A ε α) → Moves h (h.invoke r)
  | .mk args o c p => by
    have hbegin := move_beginCall h args o c p
    have hduring := moves_duringCall (h.beginCall (.mk args o c p) args o).2.2 c
    have hcalls : ((h.beginCall (.mk args o c p) args o).2.2.duringCall c).calls ≠ [] := by
      intro hn
      have hprefix := (grows_of_moves hduring).calls
      rw [hn, List.prefix_nil] at hprefix
      exact List.append_ne_nil_of_right_ne_nil h.calls (List.cons_ne_nil _ _) hprefix
    rw [invoke]
    exact (Relation.ReflTransGen.head hbegin hduring).tail
      (.turn .same fun _ _ => .inr (.inr hcalls))

theorem moves_duringCall (h : Handler A ε α) : (c : AtCall A ε α) → Moves h (h.duringCall c)
  | .nothing => .refl
  | .abort => .single (move_watching .abort)
  | .reset => .single (move_watching .reset)
  | .invoke r => moves_invoke h r

end

lemma starts_invoke (h : Handler A ε α) (r : Request A ε α) : Starts h (h.invoke r) r.args := by
  obtain ⟨args, o, c, p⟩ := r
  obtain ⟨more, hmore⟩ :=
    (grows_of_moves (moves_duringCall (h.beginCall (.mk args o c p) args o).2.2 c)).calls
  refine ⟨more, ?_⟩
  rw [invoke]
  exact hmore.symm.trans (by simp [beginCall, Request.args])

lemma retry_eq_of_lastArgs {a : A} (ha : h.lastArgs? = some a) :
    ∃ r, r.args = a ∧ h.retry = (some ((h.invoke r).size - 1), h.invoke r) := by
  obtain ⟨r, hr, hargs⟩ := Option.map_eq_some_iff.1 ha
  exact ⟨r, hargs, by rw [retry, hr]⟩

lemma retry_eq_of_none (hn : h.lastArgs? = none) : h.retry = (none, h) := by
  rw [retry, Option.map_eq_none_iff.1 hn]

lemma moves_retry (h : Handler A ε α) : Moves h h.retry.2 := by
  cases ha : h.lastArgs? with
  | none =>
    rw [retry_eq_of_none ha]
  | some a =>
    obtain ⟨r, -, heq⟩ := retry_eq_of_lastArgs ha
    rw [heq]
    exact moves_invoke h r

lemma moves_onPoll (h : Handler A ε α) : (p : AtPoll A ε α) → Moves h (h.onPoll p)
  | .nothing => .refl
  | .abort => .single (move_watching .abort)
  | .reset => .single (move_watching .reset)
  | .retry => moves_retry h
  | .invoke r => moves_invoke h r

lemma moves_firstPoll (h : Handler A ε α) (n : Nat) : Moves h (h.firstPoll n) := by
  have hset : Move h { h with atPoll := h.atPoll.set n .nothing } :=
    .turn .same fun a ha => (List.mem_or_eq_of_mem_set ha).imp_right .inl
  unfold firstPoll
  dsimp only
  split
  · exact .head hset (moves_onPoll _ _)
  · exact .single hset

lemma turn_poll (w : Watching ε α) (n : Nat) : w.tracker.Turn (w.poll n).2.tracker := by
  rcases w.poll_cases n with ⟨f, r, -, -, ha, heq⟩ | ⟨-, heq⟩
  · rw [heq]
    exact .settle (Tracker.admits_iff.1 ha).1 r
  · rw [heq]
    exact .same

lemma moves_poll (h : Handler A ε α) (n : Nat) : Moves h (h.poll n).2 := by
  unfold poll
  split
  · exact (moves_firstPoll h n).tail (move_watching (turn_poll _ n))
  · exact .refl

lemma move_beginStart (h : Handler A ε α) (args : A) (o : Option (Outcome ε α)) :
    Move h (h.beginStart args o) :=
  .call (.mk args o .nothing .nothing) rfl

lemma moves_beginRetry (h : Handler A ε α) (o : Option (Outcome ε α)) :
    Moves h (h.beginRetry o).2 := by
  unfold beginRetry
  split
  · exact .single (move_beginStart h _ o)
  · exact .refl

lemma move_endStart (h : Handler A ε α) (n : Nat) : Move h (h.endStart n).2 := by
  refine .turn ?_ fun a ha => ?_
  · show h.watching.tracker.Turn (h.watching.endStart n).2.tracker
    rw [Watching.tracker_endStart]
    exact .same
  · rcases List.mem_append.1 ha with ha | ha
    · exact .inl ha
    · obtain ⟨_, -, rfl⟩ := List.mem_map.1 ha
      exact .inr (.inl rfl)

lemma moves_keepError (h : Handler A ε α) : Moves h h.keepError.2 := by
  unfold keepError
  split
  · rename_i he
    exact .single (.keep he)
  · exact .refl

lemma moves_upgrade (h : Handler A ε α) : Moves h h.upgrade.2 := by
  unfold upgrade
  split
  · exact .single (move_watching .same)
  · exact .refl

lemma turn_dropHandle (w : Watching ε α) (handle : Nat) :
    w.tracker.Turn (w.dropHandle handle).tracker := by
  unfold Watching.dropHandle
  dsimp only
  split
  · exact .same
  · exact .letGo

lemma through_eq_some_iff {handle : Nat} {x : Answer ε × Handler A ε α} {a : Answer ε} :
    h.through handle x = some (a, h') ↔ h.watching.isHandle handle = true ∧ x = (a, h') := by
  unfold through
  split <;> simp_all

lemma onWatching_eq_some_iff {e : Watching.Event ε α} {a : Answer ε} :
    h.onWatching e = some (a, h') ↔ ∃ r w, h.watching.step e = some (r, w) ∧ a = .plain r ∧
      h' = { h with watching := w } := by
  simp only [onWatching, Option.map_eq_some_iff, Prod.exists, Prod.mk.injEq]
  grind

/-- **Every step is made of moves.** -/
theorem moves_step {e : Event A ε α} {a : Answer ε} (hs : h.step e = some (a, h')) :
    Moves h h' := by
  cases e with
  -- calls, whole ones first and then those that are begun and ended apart
  | invoke handle r =>
    cases (through_eq_some_iff.1 hs).2
    exact moves_invoke h r
  | retry handle =>
    cases (through_eq_some_iff.1 hs).2
    exact moves_retry h
  | start handle args o =>
    cases (through_eq_some_iff.1 hs).2
    exact .single (move_beginStart h args o)
  | startRetry handle o =>
    cases (through_eq_some_iff.1 hs).2
    exact moves_beginRetry h o
  | started n =>
    cases hs
    exact .single (move_endStart h n)
  | keepError handle =>
    cases (through_eq_some_iff.1 hs).2
    exact moves_keepError h
  | errorRetry i =>
    simp only [step, errorRetry] at hs
    split at hs
    · split at hs
      · -- the error reaches a handler that is there
        cases hs
        exact moves_retry h
      · -- the handler is gone, and the error has nothing to call
        cases hs
        exact .refl
    · -- there is no such error
      cases hs
      exact .refl
  | upgrade i =>
    simp only [step] at hs
    split at hs
    · cases hs
      exact moves_upgrade h
    · cases hs
  -- the first poll may call again, from within the operation
  | poll n =>
    cases hs
    exact moves_poll h n
  -- the rest is done to the tracker alone
  | abort handle =>
    obtain ⟨r, w, hw, -, rfl⟩ := onWatching_eq_some_iff.1 hs
    cases (Watching.through_eq_some_iff.1 hw).2
    exact .single (move_watching .abort)
  | reset handle =>
    obtain ⟨r, w, hw, -, rfl⟩ := onWatching_eq_some_iff.1 hs
    cases (Watching.through_eq_some_iff.1 hw).2
    exact .single (move_watching .reset)
  | clone handle =>
    obtain ⟨r, w, hw, -, rfl⟩ := onWatching_eq_some_iff.1 hs
    cases (Watching.through_eq_some_iff.1 hw).2
    exact .single (move_watching .same)
  | drop handle =>
    obtain ⟨r, w, hw, -, rfl⟩ := onWatching_eq_some_iff.1 hs
    cases (Watching.through_eq_some_iff.1 hw).2
    exact .single (move_watching (turn_dropHandle _ handle))
  | forget n =>
    have hforget : h.watching.tracker.Turn (h.watching.forget n).2.tracker := by
      rw [Watching.tracker_forget]
      exact .same
    obtain ⟨r, w, hw, -, rfl⟩ := onWatching_eq_some_iff.1 hs
    cases hw
    exact .single (move_watching hforget)
  | settle gate o =>
    obtain ⟨r, w, hw, -, rfl⟩ := onWatching_eq_some_iff.1 hs
    cases hw
    exact .single (move_watching .same)
  | abandon gate o =>
    obtain ⟨r, w, hw, -, rfl⟩ := onWatching_eq_some_iff.1 hs
    cases hw
    exact .single (move_watching .same)

lemma moves_run {es : List (Event A ε α)} (hr : h.run es = some h') : Moves h h' :=
  runBy_related (fun _ => .refl) .trans moves_step hr

/-! ### Handles and settlements -/

structure Within (h h' : Handler A ε α) : Prop where
  handles : h'.watching.handles = h.watching.handles
  settlements : h.watching.settlements <+: h'.watching.settlements

lemma Within.refl (h : Handler A ε α) : Within h h := ⟨rfl, List.prefix_rfl⟩

mutual

theorem within_invoke (h : Handler A ε α) : (r : Request A ε α) → Within h (h.invoke r)
  | .mk args o c p => by
    have hduring := within_duringCall (h.beginCall (.mk args o c p) args o).2.2 c
    rw [invoke]
    exact ⟨hduring.handles, hduring.settlements.trans (List.prefix_append _ _)⟩

theorem within_duringCall (h : Handler A ε α) : (c : AtCall A ε α) → Within h (h.duringCall c)
  | .nothing => .refl h
  | .abort => ⟨rfl, List.prefix_rfl⟩
  | .reset => ⟨rfl, List.prefix_rfl⟩
  | .invoke r => within_invoke h r

end

lemma within_retry (h : Handler A ε α) : Within h h.retry.2 := by
  unfold retry
  split
  · exact within_invoke h _
  · exact .refl h

lemma within_onPoll (h : Handler A ε α) : (p : AtPoll A ε α) → Within h (h.onPoll p)
  | .nothing => .refl h
  | .abort => ⟨rfl, List.prefix_rfl⟩
  | .reset => ⟨rfl, List.prefix_rfl⟩
  | .retry => within_retry h
  | .invoke r => within_invoke h r

lemma within_firstPoll (h : Handler A ε α) (n : Nat) : Within h (h.firstPoll n) := by
  unfold firstPoll
  dsimp only
  split
  · have hact := within_onPoll { h with atPoll := h.atPoll.set n .nothing }
      (h.atPoll[n]?.getD .nothing)
    exact ⟨hact.handles, hact.settlements⟩
  · exact ⟨rfl, List.prefix_rfl⟩

lemma handles_poll (h : Handler A ε α) (n : Nat) :
    (h.poll n).2.watching.handles = h.watching.handles := by
  unfold poll
  split
  · have hpoll :
        ((h.firstPoll n).watching.poll n).2.handles = (h.firstPoll n).watching.handles := by
      rcases (h.firstPoll n).watching.poll_cases n with ⟨f, r, -, -, -, heq⟩ | ⟨-, heq⟩ <;> rw [heq]
    exact hpoll.trans (within_firstPoll h n).handles
  · rfl

lemma handles_dropHandle (w : Watching ε α) (handle : Nat) :
    (w.dropHandle handle).handles = w.handles.set handle false := by
  unfold Watching.dropHandle
  dsimp only
  split <;> rfl

lemma handles_beginRetry (h : Handler A ε α) (o : Option (Outcome ε α)) :
    (h.beginRetry o).2.watching.handles = h.watching.handles := by
  unfold beginRetry
  split <;> rfl

lemma handles_endStart (h : Handler A ε α) (n : Nat) :
    (h.endStart n).2.watching.handles = h.watching.handles := by
  show (h.watching.endStart n).2.handles = _
  unfold Watching.endStart
  split <;> rfl

lemma handles_keepError (h : Handler A ε α) :
    h.keepError.2.watching.handles = h.watching.handles := by
  unfold keepError
  split <;> rfl

lemma handles_errorRetry (h : Handler A ε α) :
    h.errorRetry.2.watching.handles = h.watching.handles := by
  unfold errorRetry
  split
  · exact (within_retry h).handles
  · rfl

lemma handles_upgrade (h : Handler A ε α) (i : Nat) :
    h.upgrade.2.watching.handles =
      handlesBy h.watching.handles (.upgrade i : Event A ε α) := by
  unfold upgrade handlesBy Watching.isAlive
  split <;> rfl

lemma handles_forget (w : Watching ε α) (n : Nat) : (w.forget n).2.handles = w.handles := by
  unfold Watching.forget
  split <;> rfl

/-- **Handles come and go by themselves**: by no call, error or settlement. -/
theorem handles_step {e : Event A ε α} {a : Answer ε} (hs : h.step e = some (a, h')) :
    h'.watching.handles = handlesBy h.watching.handles e := by
  cases e with
  -- what an operation does while it is called leaves the handles alone
  | invoke handle r =>
    cases (through_eq_some_iff.1 hs).2
    exact (within_invoke h r).handles
  | retry handle =>
    cases (through_eq_some_iff.1 hs).2
    exact (within_retry h).handles
  | start handle args o =>
    cases (through_eq_some_iff.1 hs).2
    rfl
  | startRetry handle o =>
    cases (through_eq_some_iff.1 hs).2
    exact handles_beginRetry h o
  | started n =>
    cases hs
    exact handles_endStart h n
  | keepError handle =>
    cases (through_eq_some_iff.1 hs).2
    exact handles_keepError h
  | errorRetry i =>
    simp only [step] at hs
    split at hs
    · cases hs
      exact handles_errorRetry h
    · cases hs
      rfl
  | upgrade i =>
    simp only [step] at hs
    split at hs
    · cases hs
      exact handles_upgrade h i
    · cases hs
  | poll n =>
    cases hs
    exact handles_poll h n
  | drop handle =>
    obtain ⟨r, w, hw, -, rfl⟩ := onWatching_eq_some_iff.1 hs
    cases (Watching.through_eq_some_iff.1 hw).2
    exact handles_dropHandle _ handle
  | abort handle | reset handle | clone handle =>
    obtain ⟨r, w, hw, -, rfl⟩ := onWatching_eq_some_iff.1 hs
    cases (Watching.through_eq_some_iff.1 hw).2
    rfl
  | forget n =>
    have hforget := handles_forget h.watching n
    obtain ⟨r, w, hw, -, rfl⟩ := onWatching_eq_some_iff.1 hs
    cases hw
    exact hforget
  | settle gate o | abandon gate o =>
    obtain ⟨r, w, hw, -, rfl⟩ := onWatching_eq_some_iff.1 hs
    cases hw
    rfl

lemma handles_run {es : List (Event A ε α)} (hr : h.run es = some h') :
    h'.watching.handles = es.foldl handlesBy h.watching.handles := by
  refine runBy_invariant (P := fun es t => t.watching.handles = es.foldl handlesBy _) rfl
    (fun ht hs => ?_) hr
  rw [List.foldl_concat, handles_step hs, ht]

/-! ### The first call -/

namespace Coherent

lemma lastArgs_eq_none (hc : h.Coherent) (hn : h.calls = []) : h.lastArgs? = none := by
  rw [hc.lastArgs, hn, List.getLast?_nil]

lemma calls_poll (hc : h.Coherent) (hn : h.calls = []) (n : Nat) : (h.poll n).2.calls = [] := by
  have hact : h.atPoll[n]?.getD .nothing = .nothing := by
    cases ha : h.atPoll[n]? with
    | none => rfl
    | some a => exact hc.atPoll hn a (List.mem_of_getElem? ha)
  have hfirst : (h.firstPoll n).calls = h.calls := by
    unfold firstPoll
    dsimp only
    rw [hact]
    split <;> rfl
  unfold poll
  split
  · exact hfirst.trans hn
  · exact hn

lemma calls_step (hc : h.Coherent) (hn : h.calls = []) {e : Event A ε α} {a : Answer ε}
    (hs : h.step e = some (a, h')) (he : ¬ e.Invokes) : h'.calls = [] := by
  have hlast := hc.lastArgs_eq_none hn
  have hretry : h.retry.2.calls = [] := by
    rw [retry_eq_of_none hlast]
    exact hn
  have hbegin : ∀ o, (h.beginRetry o).2.calls = [] := by
    intro o
    rw [beginRetry, hlast]
    exact hn
  have hkeep : h.keepError.2.calls = [] := by
    rw [keepError, hc.error hn]
    exact hn
  have herror : ∀ i, ¬ i < h.errors.length := fun i => by simp [hc.errors hn]
  cases e with
  | invoke handle r => exact absurd trivial he
  | start handle args o => exact absurd trivial he
  -- there is nothing to retry, and no error to keep
  | retry handle =>
    cases (through_eq_some_iff.1 hs).2
    exact hretry
  | startRetry handle o =>
    cases (through_eq_some_iff.1 hs).2
    exact hbegin o
  | errorRetry i =>
    rw [step, if_neg (herror i)] at hs
    cases hs
    exact hn
  | upgrade i =>
    rw [step, if_neg (herror i)] at hs
    cases hs
  | started n =>
    cases hs
    exact hn
  | keepError handle =>
    cases (through_eq_some_iff.1 hs).2
    exact hkeep
  | poll n =>
    cases hs
    exact hc.calls_poll hn n
  | abort _ | reset _ | clone _ | drop _ | forget _ | settle _ _ | abandon _ _ =>
    obtain ⟨r, w, -, -, rfl⟩ := onWatching_eq_some_iff.1 hs
    exact hn

end Coherent

lemma calls_ne_nil_of_invokes {e : Event A ε α} {a : Answer ε} (hs : h.step e = some (a, h'))
    (he : e.Invokes) : h'.calls ≠ [] := by
  cases e with
  | invoke handle r =>
    cases (through_eq_some_iff.1 hs).2
    obtain ⟨more, hmore⟩ := starts_invoke h r
    rw [hmore]
    exact List.append_ne_nil_of_right_ne_nil _ (List.cons_ne_nil _ _)
  | start handle args o =>
    cases (through_eq_some_iff.1 hs).2
    exact List.append_ne_nil_of_right_ne_nil _ (List.cons_ne_nil _ _)
  | _ => exact he.elim

lemma calls_eq_nil_iff {es : List (Event A ε α)} (hc : h.Coherent) (hr : h.run es = some h') :
    h'.calls = [] ↔ h.calls = [] ∧ ∀ e ∈ es, ¬ e.Invokes := by
  induction es generalizing h with
  | nil =>
    cases hr
    simp
  | cons e es ih =>
    obtain ⟨a, t, hstep, hrest⟩ := runBy_cons_eq_some_iff.1 hr
    have hfirst : t.calls = [] ↔ h.calls = [] ∧ ¬ e.Invokes := by
      refine ⟨fun ht => ⟨?_, fun he => calls_ne_nil_of_invokes hstep he ht⟩,
        fun ⟨hn, he⟩ => hc.calls_step hn hstep he⟩
      have hprefix := (grows_of_moves (moves_step hstep)).calls
      rwa [ht, List.prefix_nil] at hprefix
    rw [ih (hc.moves (moves_step hstep)) hrest, hfirst, List.forall_mem_cons, and_assoc]

/-! ### Who may settle -/

lemma held_of_completesAt {n g : Nat} (hg : g < h.watching.tracker.guards.length)
    (hc : h.CompletesAt n g) : h.watching.tracker.held = some g := by
  obtain ⟨⟨f, hf, rfl⟩, hdone⟩ := hc
  obtain ⟨more, hmore⟩ := (within_firstPoll h n).settlements
  have hpolled : ((h.firstPoll n).watching.poll n).1 = .done () := by
    unfold poll at hdone
    rwa [hf] at hdone
  obtain ⟨f', r, hf', -, ha⟩ := (Watching.poll_eq_done_iff _ n).1 hpolled
  have hlt : n < h.watching.settlements.length := (List.getElem?_eq_some_iff.1 hf).1
  obtain rfl : f = f' := by
    rw [← hmore, List.getElem?_append_left hlt, hf] at hf'
    exact Option.some.inj (Option.some.inj hf')
  rcases (grows_of_moves (moves_firstPoll h n)).later.2 _ (Tracker.admits_iff.1 ha).1 with hh | hh
  · exact hh
  · exact absurd hg (Nat.not_lt.2 hh)

lemma held_of_completes {es : List (Event A ε α)} {g : Nat}
    (hg : g < h.watching.tracker.guards.length) (hc : h.Completes es g) :
    h.watching.tracker.held = some g := by
  induction es generalizing h with
  | nil => exact hc.elim
  | cons e es ih =>
    rcases hc with hc | ⟨a, h', hstep, hc⟩
    · cases e with
      | poll n => exact held_of_completesAt hg hc
      | _ => exact hc.elim
    · have hlater := (grows_of_moves (moves_step hstep)).later
      rcases hlater.2 g (ih (Nat.lt_of_lt_of_le hg hlater.1) hc) with hh | hh
      · exact hh
      · exact absurd hg (Nat.not_lt.2 hh)

/-! ### What a retry replays -/

structure Replays (es : List (Event A ε α)) (h : Handler A ε α) : Prop where
  invoke : ∀ k r, h.watching.isHandle k = true → ∃ a h',
    h.step (.invoke k r) = some (a, h') ∧ Starts h h' r.args
  start : ∀ k args o, h.watching.isHandle k = true → ∃ a h',
    h.step (.start k args o) = some (a, h') ∧ Starts h h' args
  /-- A retry takes the arguments of the last call, and comes to nothing only without one. -/
  retry : ∀ k o, h.watching.isHandle k = true → ∀ e ∈ [.retry k, .startRetry k o], ∃ n h',
    h.step e = some (.plain (.numberIfAny n), h') ∧
    (n = none ↔ ∀ e ∈ es, ¬ e.Invokes) ∧ (n = none → h' = h) ∧
    ∀ a, h.calls.getLast? = some a → Starts h h' a
  /-- So does a retry through any error, as long as a handle is left. -/
  errorRetry : ∀ i < h.errors.length, ∃ n h',
    h.step (.errorRetry i) = some (.plain (.numberIfAny n), h') ∧
    (n = none ↔ h.watching.isAlive = false) ∧ (n = none → h' = h) ∧
    (h.watching.isAlive = true → ∃ a, h.calls.getLast? = some a ∧ Starts h h' a)
  upgrade : ∀ i < h.errors.length, ∃ n h',
    h.step (.upgrade i) = some (.plain (.numberIfAny n), h') ∧
    (n = none ↔ h.watching.isAlive = false) ∧ ∀ k, n = some k → h'.watching.isHandle k = true
  /-- Errors and settlements keep no handler alive. -/
  isAlive : h.watching.isAlive = (es.foldl handlesBy [true]).any id
  reason : ∀ es' h', h.run es' = some h' → ∀ (i : Nat) e, h.errors[i]? = some e →
    h'.errors[i]? = some e
  /-- The guard of the next call is the number of that call. -/
  guard : h.watching.beginWatch.1 = h.calls.length
  /-- Of all calls so far only the last may still settle, which is the one that a retry replays. -/
  settles : ∀ es' g, h.Completes es' g → g < h.calls.length →
    g + 1 = h.calls.length ∧ h.calls[g]? = h.lastArgs?

namespace Coherent

lemma exists_lastArgs (hc : h.Coherent) (hn : h.calls ≠ []) :
    ∃ a, h.calls.getLast? = some a ∧ h.lastArgs? = some a := by
  have ha := List.getLast?_eq_some_getLast hn
  exact ⟨_, ha, hc.lastArgs.trans ha⟩

lemma retry_eq_none_iff (hc : h.Coherent) : h.retry.1 = none ↔ h.calls = [] := by
  by_cases hn : h.calls = []
  · rw [retry_eq_of_none (hc.lastArgs_eq_none hn)]
    exact ⟨fun _ => hn, fun _ => rfl⟩
  · obtain ⟨a, -, ha⟩ := hc.exists_lastArgs hn
    obtain ⟨r, -, heq⟩ := retry_eq_of_lastArgs ha
    rw [heq]
    exact ⟨fun h => absurd h (by simp), fun h => absurd h hn⟩

lemma starts_retry (hc : h.Coherent) {a : A} (ha : h.calls.getLast? = some a) :
    Starts h h.retry.2 a := by
  obtain ⟨r, rfl, heq⟩ := retry_eq_of_lastArgs (hc.lastArgs.trans ha)
  rw [heq]
  exact starts_invoke h r

lemma beginRetry_eq_none_iff (hc : h.Coherent) (o : Option (Outcome ε α)) :
    (h.beginRetry o).1 = none ↔ h.calls = [] := by
  by_cases hn : h.calls = []
  · rw [beginRetry, hc.lastArgs_eq_none hn]
    exact ⟨fun _ => hn, fun _ => rfl⟩
  · obtain ⟨a, -, ha⟩ := hc.exists_lastArgs hn
    rw [beginRetry, ha]
    exact ⟨fun h => absurd h (by simp), fun h => absurd h hn⟩

lemma starts_beginRetry (hc : h.Coherent) {a : A} (ha : h.calls.getLast? = some a)
    (o : Option (Outcome ε α)) : Starts h (h.beginRetry o).2 a := by
  rw [beginRetry, hc.lastArgs.trans ha]
  exact ⟨[], rfl⟩

lemma calls_of_held (hc : h.Coherent) {g : Nat} (hg : h.watching.tracker.held = some g) :
    g + 1 = h.calls.length ∧ h.calls[g]? = h.lastArgs? := by
  have hlast : g + 1 = h.calls.length := (hc.single.last g hg).trans hc.length_guards
  rw [hc.lastArgs, List.getLast?_eq_getElem?, ← hlast]
  exact ⟨rfl, rfl⟩

end Coherent

/-- **A retry replays the last call, and only that call may settle.** After every run from a fresh
handler: through any handle and any error that was taken out, however long ago, a retry starts the
operation with the arguments of the most recent call. -/
theorem replays_last_call {es : List (Event A ε α)} (hr : run {} es = some h) :
    Replays es h := by
  have hc : h.Coherent := Coherent.init.moves (moves_run hr)
  have hnone : h.calls = [] ↔ ∀ e ∈ es, ¬ e.Invokes := by
    simpa using calls_eq_nil_iff Coherent.init hr
  have hthrough : ∀ {k} {x : Answer ε × Handler A ε α}, h.watching.isHandle k = true →
      h.through k x = some x := fun hk => if_pos hk
  refine
    { invoke := fun k r hk => ⟨_, _, hthrough hk, starts_invoke h r⟩
      start := fun k args o hk => ⟨_, _, hthrough hk, [], rfl⟩
      retry := fun k o hk e he => ?_
      errorRetry := fun i hi => ?_
      upgrade := fun i hi => ?_
      isAlive := congrArg (List.any · id) (handles_run hr)
      reason := fun es' h' hr' i e he => ?_
      guard := (Watching.fst_beginWatch _).trans hc.length_guards
      settles := fun es' g hes hg => ?_ }
  · simp only [List.mem_cons, List.not_mem_nil, or_false] at he
    -- a whole retry, and one that is only begun
    rcases he with rfl | rfl
    · refine ⟨h.retry.1, h.retry.2, hthrough hk, hc.retry_eq_none_iff.trans hnone, fun hn => ?_,
        fun a ha => hc.starts_retry ha⟩
      rw [retry_eq_of_none (hc.lastArgs_eq_none (hc.retry_eq_none_iff.1 hn))]
    · refine ⟨(h.beginRetry o).1, (h.beginRetry o).2, hthrough hk,
        (hc.beginRetry_eq_none_iff o).trans hnone, fun hn => ?_,
        fun a ha => hc.starts_beginRetry ha o⟩
      rw [beginRetry, hc.lastArgs_eq_none ((hc.beginRetry_eq_none_iff o).1 hn)]
  · -- only a call can have brought the error
    have hne : h.calls ≠ [] := by
      intro hn
      rw [hc.errors hn] at hi
      exact absurd hi (by simp)
    obtain ⟨a, ha, -⟩ := hc.exists_lastArgs hne
    refine ⟨h.errorRetry.1, h.errorRetry.2, if_pos hi, ?_⟩
    cases halive : h.watching.isAlive with
    | true =>
      have hsome := mt hc.retry_eq_none_iff.1 hne
      rw [errorRetry, if_pos halive]
      exact ⟨⟨fun h => absurd h hsome, fun h => by simp at h⟩, fun h => absurd h hsome,
        fun _ => ⟨a, ha, hc.starts_retry ha⟩⟩
    | false =>
      rw [errorRetry, halive]
      exact ⟨⟨fun _ => rfl, fun _ => rfl⟩, fun _ => rfl, fun h => by simp at h⟩
  · refine ⟨h.upgrade.1, h.upgrade.2, if_pos hi, ?_⟩
    cases halive : h.watching.isAlive with
    | true =>
      rw [upgrade, if_pos halive]
      refine ⟨⟨fun h => by simp at h, fun h => by simp at h⟩, fun k hk => ?_⟩
      obtain rfl : h.watching.handles.length = k := Option.some.inj hk
      simp [Watching.addHandle, Watching.isHandle]
    | false =>
      rw [upgrade, halive]
      exact ⟨⟨fun _ => rfl, fun _ => rfl⟩, fun k hk => by simp at hk⟩
  · -- errors that were taken out are only added to
    obtain ⟨more, hmore⟩ := (grows_of_moves (moves_run hr')).errors
    rw [← hmore, List.getElem?_append_left (List.getElem?_eq_some_iff.1 he).1, he]
  · rw [← hc.length_guards] at hg
    exact hc.calls_of_held (held_of_completes hg hes)

/-- The inner of two calls is the last one although the outer one starts after it; an error from
before both retries the inner one, which alone may settle then. -/
theorem replays_last_call_of_nested : ∃ h : Handler Nat String Nat,
    run {} [.invoke 0 (.mk 1 (some (.error "lost")) .nothing .nothing), .poll 0, .keepError 0,
      .start 0 2 none, .start 0 3 (some (.ok 7)), .started 1, .started 0, .upgrade 0,
      .startRetry 1 none, .drop 1, .started 2] = some h ∧
    h.calls = [1, 2, 3, 3] ∧ h.watching.isAlive = true ∧
    (∃ n h', h.step (.errorRetry 0) = some (.plain (.numberIfAny (some n)), h') ∧
      Starts h h' 3) ∧
    ∀ es g, h.Completes es g → g < 4 → g = 3 := by
  let h : Handler Nat String Nat := {
    watching := {
      tracker := ⟨⟨.pending, none, some "lost"⟩, [false, false, false, true], some 3⟩
      handles := [true, false]
      starting := [none, none, none]
      settlements := [none, some ⟨2, 2⟩, some ⟨1, 1⟩, some ⟨3, 3⟩]
      gates := [.settled (.error "lost"), .awaited, .settled (.ok 7), .awaited] }
    atPoll := [.nothing, .nothing, .nothing, .nothing]
    last := some (.mk 3 none .nothing .nothing)
    calls := [1, 2, 3, 3]
    errors := ["lost"] }
  have hrun : run {} [.invoke 0 (.mk 1 (some (.error "lost")) .nothing .nothing), .poll 0,
      .keepError 0, .start 0 2 none, .start 0 3 (some (.ok 7)), .started 1, .started 0, .upgrade 0,
      .startRetry 1 none, .drop 1, .started 2] = some h := rfl
  have hreplays := replays_last_call hrun
  have halive : h.watching.isAlive = true := hreplays.isAlive
  obtain ⟨n, h', hstep, hnone, -, hstarts⟩ := hreplays.errorRetry 0 Nat.one_pos
  obtain ⟨a, ha, hstarts⟩ := hstarts halive
  obtain rfl : 3 = a := Option.some.inj ha
  refine ⟨h, hrun, rfl, halive, ?_, fun es g hes hg => ?_⟩
  · cases n with
    | none => exact absurd (hnone.1 rfl) (by simp [halive])
    | some n => exact ⟨n, h', hstep, hstarts⟩
  · exact Nat.succ.inj (hreplays.settles es g hes hg).1

end Handler

end ViewLayers
