import Mathlib.Data.List.ReduceOption
import ViewLayers.Operation.Watching
import ViewLayers.Proofs.Operation.HeldGuard
import ViewLayers.Proofs.Runs

/-!
Who may settle a tracker in use. Along every run the operation under the guard in hand is the only
one that can, and it can as long as a handle is left; a settlement whose guard was taken away
never completes.
-/

namespace ViewLayers

variable {ε α : Type}

lemma cons_reduceOption_set_perm {β : Type} {l : List (Option β)} {n : Nat} {b : β}
    (h : l[n]? = some (some b)) : (b :: (l.set n none).reduceOption).Perm l.reduceOption := by
  induction l generalizing n with
  | nil => simp at h
  | cons o l ih =>
    cases n with
    | zero =>
      obtain rfl : o = some b := by simpa using h
      simp
    | succ n =>
      have ih' := ih (n := n) (by simpa using h)
      cases o with
      | none => simpa using ih'
      | some a => simpa using (List.Perm.swap a b _).trans (ih'.cons a)

namespace Watching

/-! ### Runs -/

def run (s : Watching ε α) (es : List (Event ε α)) : Option (Watching ε α) := runBy step s es

/-- Polling the settlement `n`, whose operation is under the guard `g`, completes it. -/
def CompletesAt (s : Watching ε α) (n g : Nat) : Prop :=
  (∃ f, s.settlements[n]? = some (some f) ∧ f.guard = g) ∧ (s.poll n).1 = .done ()

def CompletesBy (s : Watching ε α) : Event ε α → Nat → Prop
  | .poll n, g => s.CompletesAt n g
  | _, _ => False

/-- A settlement under the guard `g` completes in the course of a run. -/
def Completes (s : Watching ε α) : List (Event ε α) → Nat → Prop
  | [], _ => False
  | e :: es, g => s.CompletesBy e g ∨ ∃ r s', s.step e = some (r, s') ∧ s'.Completes es g

/-- A step from `s` to `s'` supersedes, aborts or tears down the operation under the guard `g`. An
operation that aborts or watches another while it is being started does so to itself. -/
def Ends (s : Watching ε α) (e : Event ε α) (s' : Watching ε α) (g : Nat) : Prop :=
  match e with
  | .watch .. | .start .. | .abort _ => g < s.tracker.guards.length
  | .watchReentrant _ act _ =>
    g < s.tracker.guards.length ∨ g = s.tracker.guards.length ∧ act ≠ .reset
  | .drop _ => g < s.tracker.guards.length ∧ s'.isAlive = false
  | _ => False

/-! ### What each operation does -/

/-- The guards of the operations whose settlements are there or to come. -/
def running (s : Watching ε α) : List Nat :=
  (s.starting.reduceOption ++ s.settlements.reduceOption).map Settlement.guard

lemma through_eq_some_iff {s s' : Watching ε α} {handle : Nat} {x : Reply Unit × Watching ε α}
    {r : Reply Unit} :
    s.through handle x = some (r, s') ↔ s.isHandle handle = true ∧ x = (r, s') := by
  unfold through
  split <;> simp_all

lemma isAlive_of_isHandle {s : Watching ε α} {handle : Nat} (h : s.isHandle handle = true) :
    s.isAlive = true := by
  unfold isHandle at h
  rw [isAlive, List.any_eq_true]
  rcases hh : s.handles[handle]? with _ | b
  · simp [hh] at h
  · rw [hh] at h
    exact ⟨b, List.mem_of_getElem? hh, h⟩

@[simp] lemma fst_beginWatch (s : Watching ε α) : s.beginWatch.1 = s.tracker.guards.length := by
  simp [beginWatch]

@[simp] lemma tracker_beginWatch (s : Watching ε α) :
    s.beginWatch.2.tracker = s.tracker.watch.2 := rfl

@[simp] lemma running_beginWatch (s : Watching ε α) :
    s.beginWatch.2.running = s.running := rfl

@[simp] lemma tracker_addGate (s : Watching ε α) (o : Option (Outcome ε α)) :
    (s.addGate o).2.tracker = s.tracker := rfl

@[simp] lemma running_addGate (s : Watching ε α) (o : Option (Outcome ε α)) :
    (s.addGate o).2.running = s.running := rfl

@[simp] lemma running_addSettlement (s : Watching ε α) (g k : Nat) :
    (s.addSettlement g k).running = s.running ++ [g] := by
  simp [addSettlement, running, List.reduceOption_append]

lemma perm_running_settlements {s : Watching ε α} {n : Nat} {f : Settlement}
    (h : s.settlements[n]? = some (some f)) :
    (f.guard :: { s with settlements := s.settlements.set n none }.running).Perm s.running := by
  have hperm := (cons_reduceOption_set_perm h).append_left s.starting.reduceOption
  exact (List.perm_middle.symm.trans hperm).map Settlement.guard

lemma perm_running_starting {s : Watching ε α} {n : Nat} {f : Settlement}
    (h : s.starting[n]? = some (some f)) :
    (f.guard :: { s with starting := s.starting.set n none }.running).Perm s.running :=
  ((cons_reduceOption_set_perm h).append_right s.settlements.reduceOption).map Settlement.guard

@[simp] lemma tracker_forget (s : Watching ε α) (n : Nat) :
    (s.forget n).2.tracker = s.tracker := by
  unfold forget; split <;> rfl

@[simp] lemma isAlive_forget (s : Watching ε α) (n : Nat) :
    (s.forget n).2.isAlive = s.isAlive := by
  unfold forget; split <;> rfl

lemma running_forget (s : Watching ε α) (n : Nat) :
    (s.forget n).2.running.Subperm s.running := by
  unfold forget
  split
  · rename_i f hf
    exact (List.sublist_cons_self f.guard _).subperm.trans (perm_running_settlements hf).subperm
  · exact List.Subperm.refl _

@[simp] lemma tracker_endStart (s : Watching ε α) (n : Nat) :
    (s.endStart n).2.tracker = s.tracker := by
  unfold endStart; split <;> rfl

@[simp] lemma isAlive_endStart (s : Watching ε α) (n : Nat) :
    (s.endStart n).2.isAlive = s.isAlive := by
  unfold endStart; split <;> rfl

lemma running_endStart (s : Watching ε α) (n : Nat) :
    (s.endStart n).2.running.Subperm s.running := by
  unfold endStart
  split
  · rename_i f hf
    rw [running_addSettlement]
    exact ((List.perm_append_singleton _ _).trans (perm_running_starting hf)).subperm
  · exact List.Subperm.refl _

lemma perm_running_beginStart (s : Watching ε α) (o : Option (Outcome ε α)) :
    (s.beginStart o).running.Perm (s.tracker.guards.length :: s.running) := by
  let f : Settlement := ⟨s.beginWatch.1, s.gates.length⟩
  have hstart : (s.starting ++ [some f]).reduceOption = s.starting.reduceOption ++ [f] :=
    List.reduceOption_append _ _
  show (((s.starting ++ [some f]).reduceOption ++ s.settlements.reduceOption).map
    Settlement.guard).Perm _
  rw [hstart, List.append_assoc, ← fst_beginWatch s]
  exact List.perm_middle.map Settlement.guard

/-- What a poll does: it settles the tracker, or else nothing at all. -/
lemma poll_cases (s : Watching ε α) (n : Nat) :
    (∃ f r, s.settlements[n]? = some (some f) ∧ s.gates.outcome? f.gate = some r ∧
      s.tracker.admits f.guard = true ∧ s.poll n = (.done (), { s with
        settlements := s.settlements.set n none, tracker := s.tracker.settle r })) ∨
    ((s.poll n).1 ≠ .done () ∧ (s.poll n).2 = s) := by
  unfold poll
  split
  · rename_i f hf
    split
    · rename_i r hr
      split
      · rename_i ha
        exact .inl ⟨f, r, hf, hr, ha, rfl⟩
      · exact .inr ⟨by simp, rfl⟩
    · exact .inr ⟨by simp, rfl⟩
  · exact .inr ⟨by simp, rfl⟩

lemma poll_eq_done_iff (s : Watching ε α) (n : Nat) :
    (s.poll n).1 = .done () ↔ ∃ f r, s.settlements[n]? = some (some f) ∧
      s.gates.outcome? f.gate = some r ∧ s.tracker.admits f.guard = true := by
  constructor
  · intro h
    rcases s.poll_cases n with ⟨f, r, hf, hr, ha, -⟩ | ⟨hne, -⟩
    · exact ⟨f, r, hf, hr, ha⟩
    · exact absurd h hne
  · rintro ⟨f, r, hf, hr, ha⟩
    simp [poll, hf, hr, ha]

/-! ### The invariant -/

/-- The tracker is governed by its guard in hand, after a run in which the operations under the
guards in `done` have settled it. -/
def Inv (done : Nat → Prop) (s : Watching ε α) : Prop :=
  Governed done s.running s.isAlive s.tracker

variable {done : Nat → Prop} {s s' : Watching ε α}

lemma inv_init : Inv (fun _ => False) ({} : Watching ε α) := Governed.init

lemma governed_reenter {running : List Nat} (h : Governed done running s.isAlive s.tracker)
    (ha : s.isAlive = true) (act : Reentry) :
    Governed done running (s.reenter act).isAlive (s.reenter act).tracker := by
  cases act with
  | abort => exact h.abort
  | reset => exact h.reset
  | watch => exact (h.watch ha).mono (List.sublist_cons_self _ _).subperm

lemma running_reenter (s : Watching ε α) (act : Reentry) :
    (s.reenter act).running = s.running := by
  cases act <;> rfl

lemma Inv.watchWith (h : Inv done s) (ha : s.isAlive = true)
    {start : Watching ε α → Watching ε α} (o : Option (Outcome ε α))
    (hrun : ∀ t, (start t).running = t.running)
    (hgov : ∀ t : Watching ε α, ∀ running, t.isAlive = true →
      Governed done running t.isAlive t.tracker →
      Governed done running (start t).isAlive (start t).tracker) :
    Inv done (s.watchWith start o) := by
  have hbegun := Governed.watch h ha
  have hstarted := hgov (s.beginWatch.2.addGate o).2 _ ha hbegun
  refine Governed.mono hstarted ?_
  show ((start (s.beginWatch.2.addGate o).2).addSettlement s.beginWatch.1 _).running.Subperm _
  rw [running_addSettlement, hrun, running_addGate, running_beginWatch, fst_beginWatch]
  exact (List.perm_append_singleton _ _).subperm

lemma Inv.beginStart (h : Inv done s) (ha : s.isAlive = true) (o : Option (Outcome ε α)) :
    Inv done (s.beginStart o) := by
  exact (Governed.watch h ha).mono (perm_running_beginStart s o).subperm

lemma Inv.endStart (h : Inv done s) (n : Nat) : Inv done (s.endStart n).2 := by
  unfold Inv
  rw [isAlive_endStart, tracker_endStart]
  exact h.mono (running_endStart s n)

lemma Inv.forget (h : Inv done s) (n : Nat) : Inv done (s.forget n).2 := by
  unfold Inv
  rw [isAlive_forget, tracker_forget]
  exact h.mono (running_forget s n)

lemma isAlive_of_set {handle : Nat}
    (h : ({ s with handles := s.handles.set handle false } : Watching ε α).isAlive = true) :
    s.isAlive = true := by
  obtain ⟨b, hb, hid⟩ := List.any_eq_true.1 h
  refine List.any_eq_true.2 ⟨b, ?_, hid⟩
  rcases List.mem_or_eq_of_mem_set hb with hb | rfl
  · exact hb
  · simp at hid

lemma Inv.dropHandle (h : Inv done s) (handle : Nat) : Inv done (s.dropHandle handle) := by
  unfold Watching.dropHandle
  by_cases ha : ({ s with handles := s.handles.set handle false } : Watching ε α).isAlive = true
  · have hs := isAlive_of_set ha
    simp only [ha, if_true]
    unfold Inv at h ⊢
    rw [ha]
    rw [hs] at h
    exact h
  · simp only [ha]
    have := Governed.letGo h
    unfold Inv
    rw [show Watching.isAlive _ = false from Bool.not_eq_true _ ▸ ha]
    exact this

lemma Inv.poll (h : Inv done s) (n : Nat) :
    Inv (fun g => done g ∨ s.CompletesAt n g) (s.poll n).2 := by
  rcases s.poll_cases n with ⟨f, r, hf, hr, ha, heq⟩ | ⟨hne, heq⟩
  · have hg := (Tracker.admits_iff.1 ha).1
    have hset := Governed.settle h (perm_running_settlements hf).subperm hg r
    have hdone : ∀ g, s.CompletesAt n g ↔ g = f.guard := by
      intro g
      simp [CompletesAt, hf, heq, eq_comm]
    simp only [hdone, heq]
    exact hset
  · have hdone : ∀ g, ¬ s.CompletesAt n g := fun g hg => hne hg.2
    simp only [hdone, or_false, heq]
    exact h

lemma Inv.addHandle (h : Inv done s) (ha : s.isAlive = true) : Inv done s.addHandle.2 := by
  have : s.addHandle.2.isAlive = true := by simp [Watching.addHandle, isAlive]
  unfold Inv at h ⊢
  rw [this]
  rw [ha] at h
  exact h

/-- **Every step keeps the invariant**, and adds at most the operation that it completes. -/
lemma Inv.step {e : Event ε α} {r : Reply Unit} (h : Inv done s) (hs : s.step e = some (r, s')) :
    Inv (fun g => done g ∨ s.CompletesBy e g) s' := by
  have hsame : ∀ {t : Watching ε α}, Inv done t → Inv (fun g => done g ∨ False) t := by
    intro t ht
    simpa only [or_false] using ht
  cases e with
  -- a new operation runs under a new guard, which is in hand from then on
  | watch handle o =>
    obtain ⟨hh, heq⟩ := through_eq_some_iff.1 hs
    cases heq
    exact hsame (h.watchWith (isAlive_of_isHandle hh) o (fun _ => rfl) fun _ _ _ ht => ht)
  -- what it does while it is started comes after its guard is taken and before it runs
  | watchReentrant handle act o =>
    obtain ⟨hh, heq⟩ := through_eq_some_iff.1 hs
    cases heq
    exact hsame (h.watchWith (isAlive_of_isHandle hh) o (running_reenter · act)
      fun _ _ ha ht => governed_reenter ht ha act)
  | start handle o =>
    obtain ⟨hh, heq⟩ := through_eq_some_iff.1 hs
    cases heq
    exact hsame (h.beginStart (isAlive_of_isHandle hh) o)
  | started n =>
    cases hs
    exact hsame (h.endStart n)
  -- the guard in hand is put down
  | abort handle =>
    obtain ⟨-, heq⟩ := through_eq_some_iff.1 hs
    cases heq
    exact hsame (Governed.abort h)
  | reset handle =>
    obtain ⟨-, heq⟩ := through_eq_some_iff.1 hs
    cases heq
    exact hsame (Governed.reset h)
  -- handles matter by the last of them alone
  | clone handle =>
    obtain ⟨hh, heq⟩ := through_eq_some_iff.1 hs
    cases heq
    exact hsame (h.addHandle (isAlive_of_isHandle hh))
  | drop handle =>
    obtain ⟨-, heq⟩ := through_eq_some_iff.1 hs
    cases heq
    exact hsame (h.dropHandle handle)
  | downgrade handle =>
    obtain ⟨-, heq⟩ := through_eq_some_iff.1 hs
    cases heq
    exact hsame h
  | upgrade weak =>
    simp only [Watching.step] at hs
    split at hs
    · split at hs
      · rename_i ha
        cases hs
        exact hsame (h.addHandle ha)
      · -- a tracker that is gone does not come back
        cases hs
        exact hsame h
    · cases hs
  -- only here may an operation complete
  | poll n =>
    cases hs
    exact h.poll n
  | forget n =>
    cases hs
    exact hsame (h.forget n)
  -- gates are no part of the invariant
  | settle gate r =>
    cases hs
    exact hsame h
  | abandon gate lost =>
    cases hs
    exact hsame h

lemma Inv.run {es : List (Event ε α)} (h : Inv done s) (hr : s.run es = some s') :
    Inv (fun g => done g ∨ s.Completes es g) s' := by
  induction es generalizing s done with
  | nil =>
    cases hr
    simpa [Completes] using h
  | cons e es ih =>
    obtain ⟨r, t, hstep, hrest⟩ := runBy_cons_eq_some_iff.1 hr
    have hdone : ∀ g, (done g ∨ s.CompletesBy e g) ∨ t.Completes es g ↔
        done g ∨ s.Completes (e :: es) g := by
      intro g
      simp [Completes, hstep, or_assoc]
    simpa only [hdone] using ih (h.step hstep) hrest

/-! ### What is over -/

/-- The guard `g` was issued and is not in hand. -/
def Past (s : Watching ε α) (g : Nat) : Prop :=
  g < s.tracker.guards.length ∧ s.tracker.held ≠ some g

lemma Past.not_completesAt {g : Nat} (h : s.Past g) (n : Nat) : ¬ s.CompletesAt n g := by
  rintro ⟨⟨f, hf, rfl⟩, hdone⟩
  obtain ⟨f', r, hf', -, ha⟩ := (s.poll_eq_done_iff n).1 hdone
  obtain rfl : f = f' := by simpa [hf] using hf'
  exact h.2 (Tracker.admits_iff.1 ha).1

lemma Past.not_completesBy {g : Nat} (h : s.Past g) (e : Event ε α) : ¬ s.CompletesBy e g := by
  cases e <;> first | exact h.not_completesAt _ | exact id

lemma Past.later {g : Nat} (h : s.Past g) (hl : s.tracker.Later s'.tracker) : s'.Past g := by
  refine ⟨Nat.lt_of_lt_of_le h.1 hl.1, fun hg => ?_⟩
  rcases hl.2 g hg with hg | hg
  · exact h.2 hg
  · exact Nat.not_lt.2 hg h.1

lemma later_reenter (s : Watching ε α) (act : Reentry) :
    s.tracker.Later (s.reenter act).tracker := by
  cases act with
  | abort => exact Tracker.later_abort _
  | reset => exact Tracker.later_send _ _
  | watch => exact Tracker.later_watch _

lemma later_dropHandle (s : Watching ε α) (handle : Nat) :
    s.tracker.Later (s.dropHandle handle).tracker := by
  unfold dropHandle
  dsimp only
  split
  · exact Tracker.Later.refl _
  · exact Tracker.later_letGo _

lemma later_poll (s : Watching ε α) (n : Nat) : s.tracker.Later (s.poll n).2.tracker := by
  rcases s.poll_cases n with ⟨f, r, -, -, -, heq⟩ | ⟨-, heq⟩
  · rw [heq]
    exact Tracker.later_send _ _
  · rw [heq]
    exact Tracker.Later.refl _

/-- A guard that was put down is never taken up again. -/
lemma later_step {e : Event ε α} {r : Reply Unit} (hs : s.step e = some (r, s')) :
    s.tracker.Later s'.tracker := by
  cases e with
  | watch handle o =>
    cases (through_eq_some_iff.1 hs).2
    exact Tracker.later_watch _
  | watchReentrant handle act o =>
    cases (through_eq_some_iff.1 hs).2
    exact (Tracker.later_watch _).trans (later_reenter (s.beginWatch.2.addGate o).2 act)
  | start handle o =>
    cases (through_eq_some_iff.1 hs).2
    exact Tracker.later_watch _
  | started n =>
    cases hs
    exact Tracker.Later.of_eq (tracker_endStart s n)
  | abort handle =>
    cases (through_eq_some_iff.1 hs).2
    exact Tracker.later_abort _
  | reset handle =>
    cases (through_eq_some_iff.1 hs).2
    exact Tracker.later_send _ _
  | clone handle =>
    cases (through_eq_some_iff.1 hs).2
    exact Tracker.Later.refl _
  | drop handle =>
    cases (through_eq_some_iff.1 hs).2
    exact later_dropHandle s handle
  | downgrade handle =>
    cases (through_eq_some_iff.1 hs).2
    exact Tracker.Later.refl _
  | upgrade weak =>
    simp only [step] at hs
    split at hs
    · split at hs <;> cases hs <;> exact Tracker.Later.refl _
    · cases hs
  | poll n =>
    cases hs
    exact later_poll s n
  | forget n =>
    cases hs
    exact Tracker.Later.of_eq (tracker_forget s n)
  | settle gate r =>
    cases hs
    exact Tracker.Later.refl _
  | abandon gate lost =>
    cases hs
    exact Tracker.Later.refl _

lemma Past.not_completes {g : Nat} (h : s.Past g) (es : List (Event ε α)) :
    ¬ s.Completes es g := by
  induction es generalizing s with
  | nil => exact id
  | cons e es ih =>
    rintro (he | ⟨r, t, ht, hes⟩)
    · exact h.not_completesBy e he
    · exact ih (h.later (later_step ht)) hes

lemma past_watch {g : Nat} (h : g < s.tracker.guards.length)
    (hw : s'.tracker = s.tracker.watch.2) : s'.Past g := by
  rw [Past, hw, Tracker.length_guards_watch, Tracker.held_watch]
  exact ⟨by omega, fun he => Nat.ne_of_gt h (Option.some.inj he)⟩

lemma past_abort {g : Nat} (h : g < s.tracker.guards.length)
    (ha : s'.tracker = s.tracker.abort) : s'.Past g := by
  rw [Past, ha, Tracker.length_guards_abort, Tracker.held_abort]
  exact ⟨h, by simp⟩

lemma held_dropHandle {handle : Nat} (h : (s.dropHandle handle).isAlive = false) :
    (s.dropHandle handle).tracker.held = none := by
  unfold dropHandle at h ⊢
  dsimp only at h ⊢
  split
  · rename_i ha
    rw [if_pos ha] at h
    exact absurd (ha.symm.trans h) (by simp)
  · exact Tracker.held_letGo _

lemma past_of_ends {e : Event ε α} {r : Reply Unit} {g : Nat} (hs : s.step e = some (r, s'))
    (h : s.Ends e s' g) : s'.Past g := by
  have hlater := later_step hs
  cases e with
  | watch handle o =>
    cases (through_eq_some_iff.1 hs).2
    exact past_watch h rfl
  | start handle o =>
    cases (through_eq_some_iff.1 hs).2
    exact past_watch h rfl
  | watchReentrant handle act o =>
    cases (through_eq_some_iff.1 hs).2
    rcases h with h | ⟨rfl, hact⟩
    · have hbegun : (s.beginWatch.2.addGate o).2.Past g := past_watch h rfl
      exact hbegun.later (later_reenter _ act)
    · -- the operation's own guard is the last one before its start does anything
      have hown : s.tracker.guards.length < (s.beginWatch.2.addGate o).2.tracker.guards.length := by
        simp
      cases act with
      | abort => exact past_abort hown rfl
      | reset => exact absurd rfl hact
      | watch => exact past_watch hown rfl
  | abort handle =>
    cases (through_eq_some_iff.1 hs).2
    exact past_abort h rfl
  | drop handle =>
    cases (through_eq_some_iff.1 hs).2
    exact ⟨Nat.lt_of_lt_of_le h.1 hlater.1, by simp [held_dropHandle h.2]⟩
  | _ => exact absurd h id

/-- **Only the operation in hand settles the tracker.** After every run from a fresh tracker:
at most one guard is valid and it is the one in hand, and while the tracker can be seen pending
the operation of that guard has not settled it; a poll completes a settlement exactly when its
operation has come to an outcome, a handle is left and its guard is in hand and valid; such a poll
finds the tracker pending and leaves it showing that outcome, every other poll leaves all as it
was; and what a step supersedes, aborts or tears down completes in no run that follows. -/
theorem settles_only_in_hand {es : List (Event ε α)} {s : Watching ε α}
    (h : run {} es = some s) :
    (∀ g g', s.tracker.isValid g = true → s.tracker.isValid g' = true → g = g') ∧
    (∀ g, s.tracker.isValid g = true → s.tracker.held = some g) ∧
    (s.isAlive = true → s.tracker.lifecycle.phase = .pending →
      ∃ g, s.tracker.held = some g ∧ s.tracker.isValid g = true ∧ ¬ Completes {} es g) ∧
    (∀ n, (s.poll n).1 = .done () ↔ ∃ f r, s.settlements[n]? = some (some f) ∧
      s.gates.outcome? f.gate = some r ∧ s.isAlive = true ∧
      s.tracker.held = some f.guard ∧ s.tracker.isValid f.guard = true) ∧
    (∀ n f r, s.settlements[n]? = some (some f) → s.gates.outcome? f.gate = some r →
      (s.poll n).1 = .done () → s.tracker.lifecycle.phase = .pending ∧
        s.tracker.lifecycle.accepts (.ofOutcome r) = true ∧
        (s.poll n).2.tracker.lifecycle = Lifecycle.settled r) ∧
    (∀ n, (s.poll n).1 ≠ .done () → (s.poll n).2 = s) ∧
    (∀ e r s' g es', s.step e = some (r, s') → s.Ends e s' g → ¬ s'.Completes es' g) := by
  have hinv : Governed _ s.running s.isAlive s.tracker := inv_init.run h
  simp only [false_or] at hinv
  have hvalid := hinv.single.valid_iff
  refine ⟨fun g g' hg hg' => ?_, fun g => (hvalid g).1, fun ha hp => ?_, fun n => ?_,
    fun n f r hf hr hdone => ?_, fun n hne => ?_, fun e r s' g es' hs he => ?_⟩
  · exact Option.some.inj (((hvalid g).1 hg).symm.trans ((hvalid g').1 hg'))
  · -- a tracker that is seen pending waits for the guard in hand
    obtain ⟨g, hg, hdone⟩ := hinv.held_of_pending ha hp
    exact ⟨g, hg, (hvalid g).2 hg, hdone⟩
  · rw [poll_eq_done_iff]
    constructor
    · rintro ⟨f, r, hf, hr, ha⟩
      obtain ⟨hheld, hval⟩ := Tracker.admits_iff.1 ha
      exact ⟨f, r, hf, hr, hinv.alive_of_held _ hheld, hheld, hval⟩
    · rintro ⟨f, r, hf, hr, -, ha⟩
      exact ⟨f, r, hf, hr, Tracker.admits_iff.2 ha⟩
  · rcases s.poll_cases n with ⟨f', r', hf', hr', ha, heq⟩ | ⟨hne, -⟩
    · -- the guard in hand is that of an operation that runs, for which the tracker is pending
      obtain rfl : f = f' := by simpa [hf] using hf'
      obtain rfl : r = r' := by simpa [hr] using hr'
      have hrun : f.guard ∈ s.running :=
        (perm_running_settlements hf).subset List.mem_cons_self
      have hpend := hinv.pending_of_running _ hrun (Tracker.admits_iff.1 ha).1
      refine ⟨hpend, Lifecycle.accepts_ofOutcome hpend r, ?_⟩
      rw [heq]
      exact Lifecycle.send_ofOutcome hpend r
    · exact absurd hdone hne
  · rcases s.poll_cases n with ⟨f, r, -, -, -, heq⟩ | ⟨-, heq⟩
    · rw [heq] at hne
      exact absurd rfl hne
    · exact heq
  · exact (past_of_ends hs he).not_completes es'

/-- Of four operations, one taken up while another still starts, only the last one settles. -/
theorem settles_only_in_hand_of_four : ∃ s : Watching Nat Nat,
    run {} [.watch 0 none, .start 0 (some (.ok 7)), .watchReentrant 0 .abort (some (.ok 1)),
      .watch 0 none, .settle 0 (.ok 5), .started 0, .settle 3 (.error 9)] = some s ∧
    (s.poll 2).1 = .done () ∧ s.tracker.lifecycle.phase = .pending ∧
    (s.poll 2).2.tracker.lifecycle = Lifecycle.settled (.error 9) ∧
    (s.poll 0).2 = s ∧ (s.poll 1).2 = s ∧ (s.poll 3).2 = s := by
  let s : Watching Nat Nat := {
    tracker := ⟨⟨.pending, none, none⟩, [false, false, false, true], some 3⟩
    starting := [none]
    settlements := [some ⟨0, 0⟩, some ⟨2, 2⟩, some ⟨3, 3⟩, some ⟨1, 1⟩]
    gates := [.settled (.ok 5), .settled (.ok 7), .settled (.ok 1), .settled (.error 9)] }
  have hrun : run {} [.watch 0 none, .start 0 (some (.ok 7)),
      .watchReentrant 0 .abort (some (.ok 1)), .watch 0 none, .settle 0 (.ok 5), .started 0,
      .settle 3 (.error 9)] = some s := rfl
  obtain ⟨-, -, -, -, hdone, hother, -⟩ := settles_only_in_hand hrun
  obtain ⟨hpend, -, hset⟩ := hdone 2 ⟨3, 3⟩ (.error 9) rfl rfl rfl
  have hne : (.pending : Polled Unit) ≠ .done () := by simp
  exact ⟨s, hrun, rfl, hpend, hset, hother 0 hne, hother 1 hne, hother 3 hne⟩

end Watching

end ViewLayers
