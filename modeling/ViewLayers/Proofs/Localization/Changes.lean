import Mathlib.Data.List.Basic
import ViewLayers.Localization.Cache
import ViewLayers.Proofs.Operation.Gates
import ViewLayers.Proofs.Runs

/-!
What one step does to a cache of messages. The loads only grow in number, and each goes one way: its
loader starts, comes to something through a gate, and what it came to is left in the cache.
-/

namespace ViewLayers

/-! ### Loads -/

def LoadState.hasStarted : LoadState → Bool
  | .fresh _ => false
  | _ => true

inductive LoadState.Onward : LoadState → LoadState → Prop
  | refl (s : LoadState) : s.Onward s
  | start (loader : Loader) (gate : Nat) : (fresh loader).Onward (started gate)
  | finish (s : LoadState) : s.Onward finished

lemma LoadState.Onward.trans {s s' s'' : LoadState} (h : s.Onward s') (h' : s'.Onward s'') :
    s.Onward s'' := by
  cases h with
  | refl => exact h'
  | start loader gate =>
    cases h' with
    | refl => exact .start loader gate
    | finish => exact .finish _
  | finish =>
    cases h' <;> exact .finish s

namespace MessageCache

variable {c c' : MessageCache} {e : Event} {a : Answer} {k : String} {n i : Nat}

def run (c : MessageCache) (es : List Event) : Option MessageCache := runBy step c es

/-- What a load comes to if it is polled now. -/
def result? (c : MessageCache) (load : Nat) : Option Loaded :=
  match c.loads[load]? with
  | some ⟨k, .fresh loader⟩ => c.outcome? k loader
  | some ⟨_, .started gate⟩ => c.gates.outcome? gate
  | _ => none

/-! ### What a step does -/

inductive Change (c : MessageCache) : Event → MessageCache → Prop
  | rest {e : Event} {pendings : List (Option Nat)} {gates : Gates Loaded}
      (hgates : c.gates.Onward gates 0) : c.Change e { c with pendings, gates }
  | insert {locale ns : String} {m : Messages} {gates : Gates Loaded}
      (hgates : c.gates.Onward gates 0) : c.Change (.insert locale ns m)
        { c with entries := c.entries.insert (key locale ns) (.ready m), gates }
  | clear {gates : Gates Loaded} (hgates : c.gates.Onward gates 0) :
      c.Change .clear { c with entries := ∅, gates }
  | drop {gates : Gates Loaded} (hgates : c.gates.Onward gates 0) :
      c.Change .drop { c with entries := ∅, isAlive := false, gates }
  | create {locale ns : String} {loader : Loader} {gates : Gates Loaded}
      (halive : c.isAlive = true) (hnone : c.entries.get? (key locale ns) = none)
      (hgates : c.gates.Onward gates 0) : c.Change (.lookup locale ns loader) { c with
        entries := c.entries.insert (key locale ns) (.loading c.loads.length)
        loads := c.loads ++ [⟨key locale ns, .fresh loader⟩]
        pendings := c.pendings ++ [some c.loads.length], gates }
  | start {n i : Nat} {k : String} {loader : Loader} {gates : Gates Loaded}
      (hn : c.pendings[n]? = some (some i)) (hi : c.loads[i]? = some ⟨k, .fresh loader⟩)
      (hresult : c.result? i = none) (hgates : c.gates.Onward gates 1) :
      c.Change (.poll n) { c with loads := c.loads.set i ⟨k, .started c.started⟩, gates }
  | finish {n i : Nat} {k : String} {s : LoadState} {r : Loaded} {gates : Gates Loaded}
      (hn : c.pendings[n]? = some (some i)) (hi : c.loads[i]? = some ⟨k, s⟩)
      (hresult : c.result? i = some r) (hgates : c.gates.Onward gates (!s.hasStarted).toNat) :
      c.Change (.poll n) { c.store k r with
        loads := c.loads.set i ⟨k, .finished⟩, pendings := c.pendings.set n none, gates }

@[simp] lemma entries_store (c : MessageCache) (k : String) (r : Loaded) :
    (c.store k r).entries =
      if c.isAlive then c.entries.insert k (.ready (r.toOption.getD ∅)) else c.entries := by
  unfold store
  split <;> rfl

@[simp] lemma isAlive_store (c : MessageCache) (k : String) (r : Loaded) :
    (c.store k r).isAlive = c.isAlive := by
  unfold store
  split <;> rfl

@[simp] lemma pendings_store (c : MessageCache) (k : String) (r : Loaded) :
    (c.store k r).pendings = c.pendings := by
  unfold store
  split <;> rfl

lemma exists_sweep (c : MessageCache) :
    ∃ gates, c.sweep = { c with gates } ∧ c.gates.Onward gates 0 := by
  refine ⟨_, rfl, ?_⟩
  generalize c.loads.zipIdx = ls
  suffices h : ∀ gs : Gates Loaded, c.gates.Onward gs 0 → c.gates.Onward (ls.foldl _ gs) 0 from
    h _ (.refl _)
  induction ls with
  | nil => exact fun gs h => h
  | cons l ls ih =>
    refine fun gs h => ih _ ?_
    dsimp only
    split
    · split
      · exact h
      · exact h.trans (Gates.onward_desert _ _)
    · exact h

lemma start_of_fresh {loader : Loader} (hi : c.loads[i]? = some ⟨k, .fresh loader⟩) :
    c.start i = { c with
      loads := c.loads.set i ⟨k, .started c.started⟩
      gates := c.gates ++ [.ofOutcome (c.result? i)] } := by
  simp only [start, result?, hi, started]

lemma start_of_hasStarted {s : LoadState} (hi : c.loads[i]? = some ⟨k, s⟩)
    (hs : s.hasStarted = true) : c.start i = c := by
  cases s with
  | fresh => cases hs
  | _ => simp only [start, hi]

lemma advance_of_started {gate : Nat} (hi : c.loads[i]? = some ⟨k, .started gate⟩) :
    (∀ r, c.result? i = some r →
      c.advance i = (true, { c.store k r with loads := c.loads.set i ⟨k, .finished⟩ })) ∧
    (c.result? i = none → c.advance i = (false, c)) := by
  have hresult : c.result? i = c.gates.outcome? gate := by simp only [result?, hi]
  rw [hresult]
  refine ⟨fun r hr => ?_, fun hr => ?_⟩
  · simp only [advance, start_of_hasStarted hi rfl, hi, hr]
  · simp only [advance, start_of_hasStarted hi rfl, hi, hr]

lemma advance_of_fresh {loader : Loader} (hi : c.loads[i]? = some ⟨k, .fresh loader⟩) :
    c.advance i = (c.start i).advance i ∧
      (c.start i).loads[i]? = some ⟨k, .started c.started⟩ ∧
      (c.start i).result? i = c.result? i := by
  have hlen := (List.getElem?_eq_some_iff.1 hi).1
  have hstarted : (c.start i).loads[i]? = some ⟨k, .started c.started⟩ := by
    simp [start_of_fresh hi, hlen]
  refine ⟨?_, hstarted, ?_⟩
  · rw [advance, advance, start_of_hasStarted hstarted rfl]
  · have hgate := Gates.outcome?_append_ofOutcome c.gates (c.result? i)
    rw [result?, hstarted, start_of_fresh hi]
    exact hgate

lemma advance_cases (c : MessageCache) (i : Nat) :
    (∃ k s r gates, c.loads[i]? = some ⟨k, s⟩ ∧ c.result? i = some r ∧
      c.gates.Onward gates (!s.hasStarted).toNat ∧ c.advance i = (true,
        { c.store k r with loads := c.loads.set i ⟨k, .finished⟩, gates })) ∨
    (c.result? i = none ∧ ∃ k loader gates, c.loads[i]? = some ⟨k, .fresh loader⟩ ∧
      c.gates.Onward gates 1 ∧ c.advance i = (false,
        { c with loads := c.loads.set i ⟨k, .started c.started⟩, gates })) ∨
    (c.result? i = none ∧ ∃ b, c.advance i = (b, c) ∧
      ∀ k s, c.loads[i]? = some ⟨k, s⟩ → s.hasStarted = true ∧ (b = true ↔ s = .finished)) := by
  rcases hi : c.loads[i]? with _ | ⟨k, s⟩
  · exact .inr (.inr ⟨by simp [result?, hi], true, by simp [advance, start, hi], by simp⟩)
  cases s with
  | fresh loader =>
    obtain ⟨hadvance, hstarted, hresult⟩ := advance_of_fresh hi
    obtain ⟨hsome, hnone⟩ := advance_of_started hstarted
    have hgates := Gates.onward_append c.gates (.ofOutcome (c.result? i))
    rw [hresult, ← hadvance, start_of_fresh hi] at hsome hnone
    -- what has just started may have come to something at once
    rcases ho : c.result? i with _ | r
    · rw [ho] at hnone hgates
      exact .inr (.inl ⟨rfl, k, loader, _, rfl, hgates, hnone rfl⟩)
    · rw [ho] at hsome hgates
      refine .inl ⟨k, _, r, _, rfl, rfl, hgates, (hsome r rfl).trans ?_⟩
      simp only [store, List.set_set]
      split <;> rfl
  | started gate =>
    obtain ⟨hsome, hnone⟩ := advance_of_started hi
    rcases ho : c.result? i with _ | r
    · refine .inr (.inr ⟨rfl, false, hnone ho, fun k' s' hs => ?_⟩)
      cases hs
      simp [LoadState.hasStarted]
    · refine .inl ⟨k, _, r, _, rfl, rfl, .refl c.gates, (hsome r ho).trans ?_⟩
      simp only [store]
      split <;> rfl
  | finished =>
    refine .inr (.inr
      ⟨by simp [result?, hi], true, by simp [advance, start, hi], fun k' s' hs => ?_⟩)
    cases hs
    simp [LoadState.hasStarted]

lemma Change.sweep (h : c.Change e c') : c.Change e c'.sweep := by
  obtain ⟨gates, hsweep, hswept⟩ := c'.exists_sweep
  rw [hsweep]
  cases h with
  | rest hgates => exact .rest (hgates.trans hswept)
  | insert hgates => exact .insert (hgates.trans hswept)
  | clear hgates => exact .clear (hgates.trans hswept)
  | drop hgates => exact .drop (hgates.trans hswept)
  | create halive hnone hgates => exact .create halive hnone (hgates.trans hswept)
  | start hn hi hresult hgates => exact .start hn hi hresult (hgates.trans hswept)
  | finish hn hi hresult hgates => exact .finish hn hi hresult (hgates.trans hswept)

lemma change_lookup (halive : c.isAlive = true) (locale ns : String) (loader : Loader) :
    c.Change (.lookup locale ns loader) (c.lookup (key locale ns) loader).2 := by
  unfold lookup
  split
  · exact .rest (.refl _)
  · exact .rest (.refl _)
  · rename_i hnone
    exact .create halive hnone (.refl _)

lemma change_poll (c : MessageCache) (n : Nat) : c.Change (.poll n) (c.poll n).2 := by
  unfold poll
  split
  · rename_i i hn
    rcases c.advance_cases i with ⟨k, s, r, gates, hi, hresult, hgates, hadvance⟩ |
      ⟨hresult, k, loader, gates, hi, hgates, hadvance⟩ | ⟨-, b, hadvance, -⟩
    · rw [hadvance]
      simp only [if_true, pendings_store]
      exact .finish hn hi hresult hgates
    · rw [hadvance]
      exact .start hn hi hresult hgates
    · rw [hadvance]
      cases b <;> exact .rest (.refl _)
  · exact .rest (.refl _)

/-- Every step is a change. -/
theorem step_change (h : c.step e = some (a, c')) : c.Change e c' := by
  cases e with
  | get locale ns =>
    obtain ⟨-, h⟩ := Option.ite_none_right_eq_some.1 h
    cases h
    exact .rest (.refl _)
  | isLoading locale ns =>
    obtain ⟨-, h⟩ := Option.ite_none_right_eq_some.1 h
    cases h
    exact .rest (.refl _)
  | insert locale ns m =>
    obtain ⟨-, h⟩ := Option.ite_none_right_eq_some.1 h
    cases h
    exact (Change.insert (.refl _)).sweep
  | clear =>
    obtain ⟨-, h⟩ := Option.ite_none_right_eq_some.1 h
    cases h
    exact (Change.clear (.refl _)).sweep
  | drop =>
    obtain ⟨-, h⟩ := Option.ite_none_right_eq_some.1 h
    cases h
    exact (Change.drop (.refl _)).sweep
  | lookup locale ns loader =>
    obtain ⟨halive, h⟩ := Option.ite_none_right_eq_some.1 h
    obtain rfl : (c.lookup (key locale ns) loader).2 = c' := congrArg Prod.snd (Option.some.inj h)
    exact change_lookup halive locale ns loader
  | poll n =>
    cases h
    exact (c.change_poll n).sweep
  | forget n =>
    have hforget : c.Change (.forget n) (c.forget n).2 := by
      unfold forget
      split <;> exact .rest (.refl _)
    cases h
    exact hforget.sweep
  | settle gate r =>
    cases h
    exact .rest (Gates.onward_settle _ _ _)
  | abandon gate lost =>
    cases h
    exact .rest (Gates.onward_abandon _ _ _)

/-! ### What a run does -/

lemma getElem?_set_load {ls : List Load} {l l' m : Load} {j : Nat} (hi : ls[i]? = some l)
    (hj : (ls.set i l')[j]? = some m) : i = j ∧ l' = m ∨ i ≠ j ∧ ls[j]? = some m := by
  by_cases h : i = j
  · subst h
    rw [List.getElem?_set_self (List.getElem?_eq_some_iff.1 hi).1] at hj
    exact .inl ⟨rfl, Option.some.inj hj⟩
  · rw [List.getElem?_set_ne h] at hj
    exact .inr ⟨h, hj⟩

structure Later (c c' : MessageCache) : Prop where
  isAlive : c'.isAlive = true → c.isAlive = true
  load : ∀ (i : Nat) (k : String) (s : LoadState), c.loads[i]? = some ⟨k, s⟩ →
    ∃ s', c'.loads[i]? = some ⟨k, s'⟩ ∧ s.Onward s'
  gates : ∃ more, c.gates.Onward c'.gates more

lemma Later.refl (c : MessageCache) : c.Later c :=
  ⟨id, fun _ _ s hi => ⟨s, hi, .refl s⟩, 0, .refl _⟩

lemma Later.trans {c'' : MessageCache} (h : c.Later c') (h' : c'.Later c'') : c.Later c'' := by
  refine ⟨h.isAlive ∘ h'.isAlive, fun i k s hi => ?_, ?_⟩
  · obtain ⟨s', hi', hs'⟩ := h.load i k s hi
    obtain ⟨s'', hi'', hs''⟩ := h'.load i k s' hi'
    exact ⟨s'', hi'', hs'.trans hs''⟩
  · obtain ⟨more, hgates⟩ := h.gates
    obtain ⟨more', hgates'⟩ := h'.gates
    exact ⟨_, hgates.trans hgates'⟩

lemma load_set {ls : List Load} {s s' t : LoadState} {k' : String} {j : Nat}
    (hj : ls[j]? = some ⟨k', t⟩) (ht : t.Onward s') (hi : ls[i]? = some ⟨k, s⟩) :
    ∃ s'', (ls.set j ⟨k', s'⟩)[i]? = some ⟨k, s''⟩ ∧ s.Onward s'' := by
  by_cases h : j = i
  · subst h
    obtain ⟨rfl, rfl⟩ : k' = k ∧ t = s := by simpa [hj] using hi
    exact ⟨s', List.getElem?_set_self (List.getElem?_eq_some_iff.1 hi).1, ht⟩
  · exact ⟨s, by rw [List.getElem?_set_ne h, hi], .refl s⟩

lemma Change.later (h : c.Change e c') : c.Later c' := by
  cases h with
  | rest hgates => exact ⟨id, (Later.refl c).load, 0, hgates⟩
  | insert hgates => exact ⟨id, (Later.refl c).load, 0, hgates⟩
  | clear hgates => exact ⟨id, (Later.refl c).load, 0, hgates⟩
  | drop hgates => exact ⟨by simp, (Later.refl c).load, 0, hgates⟩
  | create halive hnone hgates =>
    refine ⟨id, fun i k s hi => ⟨s, ?_, .refl s⟩, 0, hgates⟩
    exact (List.getElem?_append_left (List.getElem?_eq_some_iff.1 hi).1).trans hi
  | start hn hj hresult hgates =>
    exact ⟨id, fun i k s hi => load_set hj (.start _ _) hi, 1, hgates⟩
  | finish hn hj hresult hgates =>
    exact ⟨by simp, fun i k s hi => load_set hj (.finish _) hi, _, hgates⟩

lemma later_run {es : List Event} (h : c.run es = some c') : c.Later c' :=
  runBy_related Later.refl .trans (fun hstep => (step_change hstep).later) h

lemma Later.result?_eq {gate : Nat} {r r' : Loaded} (h : c.Later c')
    (hi : c.loads[i]? = some ⟨k, .started gate⟩) (hr : c.result? i = some r)
    (hr' : c'.result? i = some r') : r' = r := by
  obtain ⟨s', hi', hs'⟩ := h.load i k _ hi
  obtain ⟨more, hgates⟩ := h.gates
  cases hs' with
  | refl =>
    simp only [result?, hi] at hr
    simp only [result?, hi'] at hr'
    exact hgates.outcome?_eq hr hr'
  | finish => simp [result?, hi'] at hr'

end MessageCache

end ViewLayers
