import Mathlib.Data.List.Induction
import ViewLayers.Proofs.Localization.SingleFlight

/-!
The last write. An entry of a cache is what was left last under its key, by an insertion, by a
lookup that created a load, or by a load that finished, whatever was written since that load was
created.
-/

namespace ViewLayers.MessageCache

variable {c c' : MessageCache} {e : Event} {es : List Event} {a : Answer} {k : String} {i j n : Nat}
  {x : CacheEntry}

/-! ### Writes -/

/-- A step writes under a key: messages are put in, all is taken out, or a load of the key
finishes. -/
def Writes (c : MessageCache) (k : String) : Event → Prop
  | .insert locale ns _ => key locale ns = k
  | .clear | .drop => True
  | .poll n => ∃ i s, c.pendings[n]? = some (some i) ∧ c.loads[i]? = some ⟨k, s⟩ ∧
    (c.result? i).isSome = true
  | _ => False

/-- A step leaves an entry under a key, by a write or because there was none. -/
def Leaves (c : MessageCache) (k : String) (x : CacheEntry) : Event → Prop
  | .insert locale ns m => key locale ns = k ∧ x = .ready m
  | .lookup locale ns _ => key locale ns = k ∧ c.entries.get? k = none ∧ x = .loading c.loads.length
  | .poll n => ∃ i s r, c.pendings[n]? = some (some i) ∧ c.loads[i]? = some ⟨k, s⟩ ∧
    c.result? i = some r ∧ x = .ready (r.toOption.getD ∅)
  | _ => False

/-- No step of a run writes under a key. -/
def Silent (k : String) : MessageCache → List Event → Prop
  | _, [] => True
  | c, e :: es => ¬ c.Writes k e ∧ ∀ a d, c.step e = some (a, d) → Silent k d es

lemma entries_poll (c : MessageCache) (n : Nat) :
    (∃ i k s r, c.pendings[n]? = some (some i) ∧ c.loads[i]? = some ⟨k, s⟩ ∧
      c.result? i = some r ∧ (c.poll n).2.entries = (c.store k r).entries) ∨
    (∀ i, c.pendings[n]? = some (some i) → c.result? i = none) ∧
      (c.poll n).2.entries = c.entries := by
  rcases hn : c.pendings[n]? with _ | _ | i
  · exact .inr ⟨by simp, by simp only [poll, hn]⟩
  · exact .inr ⟨by simp, by simp only [poll, hn]⟩
  rcases c.advance_cases i with ⟨k, s, r, gates, hi, hresult, -, hadvance⟩ |
    ⟨hresult, k, loader, gates, hi, -, hadvance⟩ | ⟨hresult, b, hadvance, -⟩
  · exact .inl ⟨i, k, s, r, rfl, hi, hresult, by simp only [poll, hn, hadvance, if_true]⟩
  · refine .inr ⟨fun j hj => ?_, by simp [poll, hn, hadvance]⟩
    cases hj
    exact hresult
  · refine .inr ⟨fun j hj => ?_, by cases b <;> simp [poll, hn, hadvance]⟩
    cases hj
    exact hresult

lemma entries_lookup (c : MessageCache) (k : String) (loader : Loader) :
    (c.lookup k loader).2.entries = match c.entries.get? k with
      | some _ => c.entries
      | none => c.entries.insert k (.loading c.loads.length) := by
  unfold lookup
  split <;> rename_i h <;> rw [h] <;> rfl

lemma entries_forget (c : MessageCache) (n : Nat) : (c.forget n).2.entries = c.entries := by
  unfold forget
  split <;> rfl

lemma entry_lookup_iff (locale ns : String) (loader : Loader) :
    (c.lookup (key locale ns) loader).2.entries.get? k = some x ↔
      c.Leaves k x (.lookup locale ns loader) ∨ c.entries.get? k = some x := by
  rw [entries_lookup]
  rcases hentry : c.entries.get? (key locale ns) with _ | y
  · rw [Dict.get?_insert]
    by_cases hk : key locale ns = k
    · subst hk
      simp [Leaves, hentry, eq_comm]
    · simp [Leaves, hk]
  · refine ⟨.inr, fun h => ?_⟩
    rcases h with ⟨rfl, hnone, -⟩ | h
    · rw [hentry] at hnone
      cases hnone
    · exact h

lemma entry_poll_iff (halive : c.isAlive = true) (n : Nat) :
    (c.poll n).2.entries.get? k = some x ↔
      c.Leaves k x (.poll n) ∨ ¬ c.Writes k (.poll n) ∧ c.entries.get? k = some x := by
  rcases c.entries_poll n with ⟨i, k', s, r, hn, hi, hresult, hentries⟩ | ⟨hresult, hentries⟩
  · have hsame : ∀ j s', c.pendings[n]? = some (some j) → c.loads[j]? = some ⟨k, s'⟩ →
        j = i ∧ k' = k := by
      intro j s' hj hload
      obtain rfl : i = j := by simpa [hn] using hj
      exact ⟨rfl, by simpa [hi] using congrArg (Option.map Load.key) hload⟩
    rw [hentries, entries_store, if_pos halive, Dict.get?_insert]
    by_cases hk : k' = k
    · subst hk
      rw [if_pos rfl]
      refine ⟨fun h => .inl ⟨i, s, r, hn, hi, hresult, (Option.some.inj h).symm⟩, ?_⟩
      rintro (⟨j, s', r', hj, hload, hr, rfl⟩ | ⟨hnot, -⟩)
      · obtain ⟨rfl, -⟩ := hsame j s' hj hload
        obtain rfl : r = r' := by simpa [hresult] using hr
        rfl
      · exact absurd ⟨i, s, hn, hi, by rw [hresult]; rfl⟩ hnot
    · rw [if_neg hk]
      refine ⟨fun h => .inr ⟨fun ⟨j, s', hj, hload, _⟩ => hk (hsame j s' hj hload).2, h⟩, ?_⟩
      rintro (⟨j, s', r', hj, hload, -⟩ | ⟨-, h⟩)
      · exact absurd (hsame j s' hj hload).2 hk
      · exact h
  · rw [hentries]
    have hnone : ∀ i, c.pendings[n]? = some (some i) → ¬ (c.result? i).isSome = true := by
      intro i hi
      simp [hresult i hi]
    refine ⟨fun h => .inr ⟨fun ⟨i, _, hi, _, hsome⟩ => hnone i hi hsome, h⟩, fun h => ?_⟩
    rcases h with ⟨i, s, r, hi, -, hr, -⟩ | ⟨-, h⟩
    · exact absurd (by rw [hr]; rfl) (hnone i hi)
    · exact h

/-- An entry is what the step leaves, or stays where nothing is written. -/
lemma step_entry_iff (hstep : c.step e = some (a, c')) (halive : c'.isAlive = true) :
    c'.entries.get? k = some x ↔
      c.Leaves k x e ∨ ¬ c.Writes k e ∧ c.entries.get? k = some x := by
  have hstill := (step_change hstep).later.isAlive halive
  cases e with
  -- looking at the cache writes nothing
  | get locale ns =>
    rw [step, if_pos hstill] at hstep
    cases hstep
    simp [Leaves, Writes]
  | isLoading locale ns =>
    rw [step, if_pos hstill] at hstep
    cases hstep
    simp [Leaves, Writes]
  | insert locale ns m =>
    rw [step, if_pos hstill] at hstep
    have hentries : c'.entries = c.entries.insert (key locale ns) (.ready m) :=
      congrArg (fun y => y.2.entries) (Option.some.inj hstep).symm
    rw [hentries, Dict.get?_insert]
    by_cases hk : key locale ns = k <;> simp [Leaves, Writes, hk, eq_comm]
  | clear =>
    rw [step, if_pos hstill] at hstep
    cases hstep
    simp only [Leaves, Writes, not_true, false_and, or_false, iff_false]
    exact Option.some_ne_none x ∘ Eq.symm
  | drop =>
    rw [step, if_pos hstill] at hstep
    cases hstep
    cases halive
  -- a lookup leaves a load where there was no entry, and a poll what its load has come to
  | lookup locale ns loader =>
    rw [step, if_pos hstill] at hstep
    have hentries : c'.entries = (c.lookup (key locale ns) loader).2.entries :=
      congrArg (fun y => y.2.entries) (Option.some.inj hstep).symm
    rw [hentries, entry_lookup_iff]
    simp only [Writes, not_false_eq_true, true_and]
  | poll n =>
    have hentries : c'.entries = (c.poll n).2.entries :=
      congrArg (fun y => y.2.entries) (Option.some.inj hstep).symm
    rw [hentries, entry_poll_iff hstill]
  | forget n =>
    have hentries : c'.entries = (c.forget n).2.entries :=
      congrArg (fun y => y.2.entries) (Option.some.inj hstep).symm
    rw [hentries, entries_forget]
    simp [Leaves, Writes]
  | settle gate r =>
    cases hstep
    simp [Leaves, Writes]
  | abandon gate lost =>
    cases hstep
    simp [Leaves, Writes]

/-! ### The steps of a run -/

/-- A run of a new cache is in `d` before the step `e`, then in `d'`, and goes on with `after`. -/
def Passes (es : List Event) (d : MessageCache) (e : Event) (d' : MessageCache)
    (after : List Event) : Prop :=
  ∃ before a, es = before ++ e :: after ∧ run {} before = some d ∧ d.step e = some (a, d')

variable {d d' : MessageCache} {e' : Event} {after : List Event}

lemma Passes.run_after (h : Passes es d e d' after) (hrun : run {} es = some c) :
    d'.run after = some c := by
  obtain ⟨before, a, rfl, hbefore, hstep⟩ := h
  obtain ⟨b, hb, hrest⟩ := runBy_append_eq_some_iff.1 hrun
  obtain rfl : d = b := Option.some.inj (hbefore.symm.trans hb)
  obtain ⟨a', b', hstep', hafter⟩ := runBy_cons_eq_some_iff.1 hrest
  obtain ⟨rfl, rfl⟩ := Prod.mk.inj (Option.some.inj (hstep.symm.trans hstep'))
  exact hafter

lemma passes_concat_iff (hrun : run {} es = some c) (hstep : c.step e = some (a, c')) :
    Passes (es ++ [e]) d e' d' after ↔
      (d = c ∧ e' = e ∧ d' = c' ∧ after = []) ∨
        ∃ after', after = after' ++ [e] ∧ Passes es d e' d' after' := by
  constructor
  · rintro ⟨before, a', hes, hbefore, hstep'⟩
    rcases List.eq_nil_or_concat' after with rfl | ⟨after', y, rfl⟩
    · obtain ⟨rfl, he⟩ := List.append_inj' hes rfl
      obtain rfl : e = e' := by simpa using he
      obtain rfl : c = d := by simpa [hrun] using hbefore
      obtain rfl : c' = d' := by
        simpa using congrArg (Option.map Prod.snd) (hstep.symm.trans hstep')
      exact .inl ⟨rfl, rfl, rfl, rfl⟩
    · rw [← List.cons_append, ← List.append_assoc] at hes
      obtain ⟨rfl, he⟩ := List.append_inj' hes rfl
      obtain rfl : e = y := by simpa using he
      exact .inr ⟨after', rfl, before, a', rfl, hbefore, hstep'⟩
  · rintro (⟨rfl, rfl, rfl, rfl⟩ | ⟨after', rfl, before, a', rfl, hbefore, hstep'⟩)
    · exact ⟨es, a, rfl, hrun, hstep⟩
    · exact ⟨before, a', by simp, hbefore, hstep'⟩

lemma silent_concat_iff (hrun : c.run es = some c') :
    Silent k c (es ++ [e]) ↔ Silent k c es ∧ ¬ c'.Writes k e := by
  induction es generalizing c with
  | nil =>
    cases hrun
    simp [Silent]
  | cons e' es ih =>
    obtain ⟨a, d, hstep, hrest⟩ := runBy_cons_eq_some_iff.1 hrun
    simp only [List.cons_append, Silent, hstep, Option.some.injEq, Prod.mk.injEq]
    constructor
    · rintro ⟨hwrites, hall⟩
      obtain ⟨hsilent, hnot⟩ := (ih hrest).1 (hall a d ⟨rfl, rfl⟩)
      refine ⟨⟨hwrites, ?_⟩, hnot⟩
      rintro _ _ ⟨rfl, rfl⟩
      exact hsilent
    · rintro ⟨⟨hwrites, hall⟩, hnot⟩
      refine ⟨hwrites, ?_⟩
      rintro _ _ ⟨rfl, rfl⟩
      exact (ih hrest).2 ⟨hall a d ⟨rfl, rfl⟩, hnot⟩

/-- **An entry is what was left last under its key.** -/
lemma entry_iff (hrun : run {} es = some c) (halive : c.isAlive = true) :
    c.entries.get? k = some x ↔
      ∃ d e d' after, Passes es d e d' after ∧ d.Leaves k x e ∧ Silent k d' after := by
  induction es using List.reverseRecOn generalizing c with
  | nil =>
    cases hrun
    refine ⟨fun h => (by cases h), ?_⟩
    rintro ⟨d, e, d', after, ⟨before, a, hes, -⟩, -⟩
    simp at hes
  | append_singleton es e ih =>
    obtain ⟨b, a, hb, hstep⟩ := runBy_concat_eq_some_iff.1 hrun
    have hstill := (step_change hstep).later.isAlive halive
    -- the entry comes from the last step, or from before where the last step writes nothing
    rw [step_entry_iff hstep halive, ih hb hstill]
    constructor
    · rintro (h | ⟨hnot, d, e', d', after, hpasses, hleaves, hsilent⟩)
      · exact ⟨b, e, c, [], (passes_concat_iff hb hstep).2 (.inl ⟨rfl, rfl, rfl, rfl⟩), h, trivial⟩
      · refine ⟨d, e', d', after ++ [e],
          (passes_concat_iff hb hstep).2 (.inr ⟨after, rfl, hpasses⟩), hleaves, ?_⟩
        exact (silent_concat_iff (hpasses.run_after hb)).2 ⟨hsilent, hnot⟩
    · rintro ⟨d, e', d', after, hpasses, hleaves, hsilent⟩
      rcases (passes_concat_iff hb hstep).1 hpasses with
        ⟨rfl, rfl, rfl, rfl⟩ | ⟨after', rfl, hbefore⟩
      · exact .inl hleaves
      · obtain ⟨hsilent, hnot⟩ := (silent_concat_iff (hbefore.run_after hb)).1 hsilent
        exact .inr ⟨hnot, d, e', d', after', hbefore, hleaves, hsilent⟩

/-! ### Loads of one key -/

lemma Later.length_le (h : c.Later c') : c.loads.length ≤ c'.loads.length := by
  by_contra hlt
  have hlen : c'.loads.length < c.loads.length := Nat.lt_of_not_le hlt
  obtain ⟨s', hs', -⟩ := h.load _ _ _ (List.getElem?_eq_getElem hlen)
  have := (List.getElem?_eq_some_iff.1 hs').1
  omega

lemma Passes.concat (h : Passes es d e d' after) (hrun : run {} es = some c)
    (hstep : c.step e' = some (a, c')) : Passes (es ++ [e']) d e d' (after ++ [e']) :=
  (passes_concat_iff hrun hstep).2 (.inr ⟨after, rfl, h⟩)

lemma exists_leaves (h : c.Writes k e) (hclear : e ≠ .clear) (hdrop : e ≠ .drop) :
    ∃ x, c.Leaves k x e := by
  cases e with
  | insert locale ns m => exact ⟨_, h, rfl⟩
  | clear => exact absurd rfl hclear
  | drop => exact absurd rfl hdrop
  | poll n =>
    obtain ⟨i, s, hn, hi, hsome⟩ := h
    obtain ⟨r, hresult⟩ := Option.isSome_iff_exists.1 hsome
    exact ⟨_, i, s, r, hn, hi, hresult, rfl⟩
  | _ => cases h

lemma none_before (hstep : c.step e = some (a, c')) (halive : c'.isAlive = true)
    (hclear : e ≠ .clear) (hnone : c'.entries.get? k = none) :
    c.entries.get? k = none ∧ ∀ x, ¬ c.Leaves k x e := by
  have hleaves : ∀ x, ¬ c.Leaves k x e := fun x hx => by
    rw [(step_entry_iff hstep halive).2 (.inl hx)] at hnone
    cases hnone
  have hdrop : e ≠ .drop := by
    rintro rfl
    obtain ⟨-, h⟩ := Option.ite_none_right_eq_some.1 hstep
    cases h
    cases halive
  refine ⟨Option.eq_none_iff_forall_ne_some.2 fun x hx => ?_, hleaves⟩
  have hwrites : ¬ c.Writes k e := fun h => by
    obtain ⟨y, hy⟩ := exists_leaves h hclear hdrop
    exact hleaves y hy
  rw [(step_entry_iff hstep halive).2 (.inr ⟨hwrites, hx⟩)] at hnone
  cases hnone

lemma load_of_set {ls : List Load} {s s' t : LoadState} {k' : String} (hj : ls[j]? = some ⟨k', t⟩)
    (hi : (ls.set j ⟨k', s'⟩)[i]? = some ⟨k, s⟩) : ∃ s'', ls[i]? = some ⟨k, s''⟩ := by
  rcases getElem?_set_load hj hi with ⟨rfl, heq⟩ | ⟨-, hi⟩
  · cases heq
    exact ⟨t, hj⟩
  · exact ⟨s, hi⟩

lemma Change.load_before {s : LoadState} (hc : c.Change e c')
    (hi : c'.loads[i]? = some ⟨k, s⟩) : (∃ s', c.loads[i]? = some ⟨k, s'⟩) ∨
      i = c.loads.length ∧ c.isAlive = true ∧ c.entries.get? k = none ∧
        c.Leaves k (.loading i) e := by
  cases hc with
  | @create locale ns loader gates halive hnone hgates =>
    rcases Nat.lt_or_ge i c.loads.length with hlt | hge
    · exact .inl ⟨s, (List.getElem?_append_left hlt).symm.trans hi⟩
    · obtain ⟨hlen, -⟩ := List.getElem?_eq_some_iff.1 hi
      rw [List.length_append, List.length_singleton] at hlen
      obtain rfl : i = c.loads.length := by omega
      cases List.getElem?_concat_length.symm.trans hi
      exact .inr ⟨rfl, halive, hnone, rfl, hnone, rfl⟩
  | start hn hj hresult hgates => exact .inl (load_of_set hj hi)
  | finish hn hj hresult hgates => exact .inl (load_of_set hj hi)
  | _ => exact .inl ⟨s, hi⟩

/-- Where a key has a load but no entry, the cache was cleared since that load was created. -/
lemma cleared_of_none {s : LoadState} (hrun : run {} es = some c) (halive : c.isAlive = true)
    (hi : c.loads[i]? = some ⟨k, s⟩) (hnone : c.entries.get? k = none) :
    ∃ d d' after, Passes es d .clear d' after ∧ i < d.loads.length := by
  induction es using List.reverseRecOn generalizing c s with
  | nil =>
    cases hrun
    cases hi
  | append_singleton es e ih =>
    obtain ⟨b, a, hb, hstep⟩ := runBy_concat_eq_some_iff.1 hrun
    have hc := step_change hstep
    by_cases hclear : e = .clear
    · subst hclear
      rcases hc.load_before hi with ⟨s', hi⟩ | ⟨-, -, -, hleaves⟩
      · refine ⟨b, c, [], (passes_concat_iff hb hstep).2 (.inl ⟨rfl, rfl, rfl, rfl⟩), ?_⟩
        exact (List.getElem?_eq_some_iff.1 hi).1
      · cases hleaves
    · -- nothing else takes an entry away, so that there was none before
      obtain ⟨hnone, hleaves⟩ := none_before hstep halive hclear hnone
      rcases hc.load_before hi with ⟨s', hi⟩ | ⟨-, -, -, h⟩
      · obtain ⟨d, d', after, hpasses, hlt⟩ := ih hb (hc.later.isAlive halive) hi hnone
        exact ⟨d, d', after ++ [e], hpasses.concat hb hstep, hlt⟩
      · exact absurd h (hleaves _)

lemma Passes.length_le (h : Passes es d e d' after) (hrun : run {} es = some c) :
    d.loads.length ≤ c.loads.length := by
  have hafter := h.run_after hrun
  obtain ⟨before, a, -, -, hstep⟩ := h
  exact ((step_change hstep).later.trans (later_run hafter)).length_le

lemma cleared_between {s s' : LoadState} (hrun : run {} es = some c) (hij : i < j)
    (hi : c.loads[i]? = some ⟨k, s⟩) (hj : c.loads[j]? = some ⟨k, s'⟩) :
    ∃ d d' after, Passes es d .clear d' after ∧ i < d.loads.length ∧ d.loads.length ≤ j := by
  induction es using List.reverseRecOn generalizing c s s' with
  | nil =>
    cases hrun
    cases hi
  | append_singleton es e ih =>
    obtain ⟨b, a, hb, hstep⟩ := runBy_concat_eq_some_iff.1 hrun
    have hc := step_change hstep
    suffices h : ∃ d d' after, Passes es d .clear d' after ∧
        i < d.loads.length ∧ d.loads.length ≤ j by
      obtain ⟨d, d', after, hpasses, hlt, hle⟩ := h
      exact ⟨d, d', after ++ [e], hpasses.concat hb hstep, hlt, hle⟩
    rcases hc.load_before hj with ⟨t, hj⟩ | ⟨rfl, halive, hnone, -⟩
    · rcases hc.load_before hi with ⟨t', hi⟩ | ⟨rfl, -⟩
      · exact ih hb hi hj
      · have := (List.getElem?_eq_some_iff.1 hj).1
        omega
    · -- the later load has just been created, which takes a key without an entry
      rcases hc.load_before hi with ⟨t, hi⟩ | ⟨rfl, -⟩
      · obtain ⟨d, d', after, hpasses, hlt⟩ := cleared_of_none hb halive hi hnone
        exact ⟨d, d', after, hpasses, hlt, hpasses.length_le hb⟩
      · omega

/-- A load of a key has not finished, and it is held. -/
def InFlight (c : MessageCache) (k : String) (i : Nat) : Prop :=
  ∃ s, c.loads[i]? = some ⟨k, s⟩ ∧ s ≠ .finished ∧ c.holds i = true

lemma holds_of_mem_pendings (h : some i ∈ c.pendings) : c.holds i = true := by
  rw [holds, List.contains_iff_mem.2 h, Bool.true_or]

lemma step_lookup_of_none (locale ns : String) (loader : Loader) (halive : c.isAlive = true)
    (hnone : c.entries.get? (key locale ns) = none) : c.step (.lookup locale ns loader) =
      some (.pending c.pendings.length, { c with
        entries := c.entries.insert (key locale ns) (.loading c.loads.length)
        loads := c.loads ++ [⟨key locale ns, .fresh loader⟩]
        pendings := c.pendings ++ [some c.loads.length] }) := by
  simp only [step, if_pos halive, lookup, hnone, addPending]

/-- A load that is waited for outlives a clearing, which makes room for another. -/
lemma inFlight_beside {s : LoadState} {locale ns : String} (loader : Loader)
    (halive : c.isAlive = true) (hn : c.pendings[n]? = some (some i))
    (hi : c.loads[i]? = some ⟨key locale ns, s⟩) (hs : s ≠ .finished) :
    ∃ d, c.run [.clear, .lookup locale ns loader] = some d ∧
      d.InFlight (key locale ns) i ∧ d.InFlight (key locale ns) c.loads.length := by
  obtain ⟨d, hrun, hloads, hpendings⟩ : ∃ d,
      c.run [.clear, .lookup locale ns loader] = some d ∧
        d.loads = c.loads ++ [⟨key locale ns, .fresh loader⟩] ∧
        d.pendings = c.pendings ++ [some c.loads.length] := by
    obtain ⟨gates, hsweep, -⟩ := exists_sweep { c with entries := ∅ }
    have hclear : c.step .clear = some (.plain .nothing, { c with entries := ∅, gates }) := by
      rw [step, if_pos halive, hsweep]
    have hlookup :=
      step_lookup_of_none (c := { c with entries := ∅, gates }) locale ns loader halive rfl
    have hrest : runBy step _ [.lookup locale ns loader] = some _ :=
      runBy_cons_eq_some_iff.2 ⟨_, _, hlookup, rfl⟩
    exact ⟨_, runBy_cons_eq_some_iff.2 ⟨_, _, hclear, hrest⟩, rfl, rfl⟩
  refine ⟨d, hrun, ⟨s, ?_, hs, ?_⟩, ⟨.fresh loader, ?_, by simp, ?_⟩⟩
  · rw [hloads, List.getElem?_append_left (List.getElem?_eq_some_iff.1 hi).1, hi]
  · exact holds_of_mem_pendings (hpendings ▸ List.mem_append_left _ (List.mem_of_getElem? hn))
  · rw [hloads, List.getElem?_concat_length]
  · exact holds_of_mem_pendings (hpendings ▸ List.mem_concat_self)

/-! ### The last write -/

structure LastWrite (es : List Event) (c : MessageCache) : Prop where
  /-- An entry is what was left under its key by a step after which nothing was written there. -/
  entry_iff : ∀ k x, c.entries.get? k = some x ↔
    ∃ d e d' after, Passes es d e d' after ∧ d.Leaves k x e ∧ Silent k d' after
  /-- A load that has come to something leaves that when it is polled, whatever the entry is by
  then. -/
  finishes : ∀ (n i : Nat) (locale ns : String) (s : LoadState) (r : Loaded),
    c.pendings[n]? = some (some i) → c.loads[i]? = some ⟨key locale ns, s⟩ →
    c.result? i = some r → ∃ d, c.step (.poll n) = some (.plain (.polled (.done ())), d) ∧
      d.step (.get locale ns) = some (.messages (some (r.toOption.getD ∅)), d)
  /-- Between two loads of one key the cache is cleared, -/
  cleared : ∀ (i j : Nat) (k : String) (s s' : LoadState), i < j →
    c.loads[i]? = some ⟨k, s⟩ → c.loads[j]? = some ⟨k, s'⟩ →
    ∃ d d' after, Passes es d .clear d' after ∧ i < d.loads.length ∧ d.loads.length ≤ j
  /-- and where it is cleared while one is waited for, the next lookup puts another in flight. -/
  beside : ∀ (n i : Nat) (locale ns : String) (s : LoadState) (loader : Loader),
    c.pendings[n]? = some (some i) → c.loads[i]? = some ⟨key locale ns, s⟩ → s ≠ .finished →
    ∃ d, c.run [.clear, .lookup locale ns loader] = some d ∧
      d.InFlight (key locale ns) i ∧ d.InFlight (key locale ns) c.loads.length

/-- **The last write decides**, also where a load was created before what it overwrites. -/
theorem last_write_decides (hrun : run {} es = some c) (halive : c.isAlive = true) :
    LastWrite es c where
  entry_iff k x := entry_iff hrun halive
  finishes n i locale ns s r hn hi hresult := by
    have hs : s ≠ .finished := by
      rintro rfl
      simp [result?, hi] at hresult
    obtain ⟨d, hstep, hfinished⟩ := poll_done hn hi (.inr (hresult ▸ rfl))
    refine ⟨d, hstep, ?_⟩
    obtain ⟨n', r', -, -, hresult', hd, hready⟩ := finished_step hstep hi hs hfinished
    obtain rfl : r = r' := by simpa [hresult] using hresult'
    rw [step, if_pos (hd.trans halive), get?_eq_some_iff.2 (hready halive)]
  cleared i j k s s' := cleared_between hrun
  beside n i locale ns s loader := inFlight_beside loader halive

/-- Messages are put in while a load waits, which then finishes; another load waits. -/
def overtaking : List Event :=
  [.lookup "en" "button" .wait, .poll 0,
    .insert "en" "button" (Dict.ofList [("label", "New")]),
    .settle 0 (.ok (Dict.ofList [("label", "Old")])), .poll 0,
    .lookup "de" "menu" .wait, .poll 1]

/-- The load overwrites what was put in after it was created, and a second load of one key is in
flight beside the first. -/
theorem last_write_decides_overtaking : ∃ c, run {} overtaking = some c ∧
    LastWrite overtaking c ∧ c.get? "en:button" = some (Dict.ofList [("label", "Old")]) ∧
    ∃ d, c.run [.clear, .lookup "de" "menu" .wait] = some d ∧
      d.InFlight "de:menu" 1 ∧ d.InFlight "de:menu" 2 := by
  have hovertaking : (run {} overtaking).map (fun c => (c.isAlive, c.get? "en:button",
      c.pendings, c.loads.length)) =
      some (true, some (Dict.ofList [("label", "Old")]), [none, some 1], 2) := by
    decide +kernel
  have hload : (run {} overtaking).bind (fun c => c.loads[1]?) = some ⟨"de:menu", .started 1⟩ := by
    rfl
  obtain ⟨c, hc, hfound⟩ := Option.map_eq_some_iff.1 hovertaking
  rw [hc, Option.bind_some] at hload
  simp only [Prod.mk.injEq] at hfound
  obtain ⟨halive, hget, hpendings, hlen⟩ := hfound
  have hlast : LastWrite overtaking c := last_write_decides hc halive
  have hbeside := hlast.beside 1 1 "de" "menu" _ .wait (by rw [hpendings]; rfl) hload (by simp)
  rw [hlen] at hbeside
  exact ⟨c, hc, hlast, hget, hbeside⟩

end ViewLayers.MessageCache
