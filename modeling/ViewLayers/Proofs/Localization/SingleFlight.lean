import Mathlib.Data.List.Nodup
import ViewLayers.Proofs.Localization.Changes

/-!
One load a key. As long as a cache is not cleared, a load that was once created for a key stands in
for every later one: its entry gives way to messages only, and those to nothing else.
-/

namespace ViewLayers.MessageCache

variable {c c' : MessageCache} {e : Event} {es : List Event} {a : Answer} {k : String} {i n : Nat}

/-! ### The loads -/

/-- Loads of which `started` have started: there is one a key at most, and a gate for each that has
started. -/
structure OneEach (loads : List Load) (started : Nat) : Prop where
  nodup : (loads.map Load.key).Nodup
  count : started = loads.countP (·.state.hasStarted)
  gate_lt : ∀ (i : Nat) (k : String) (g : Nat), loads[i]? = some ⟨k, .started g⟩ → g < started
  gate_inj : ∀ (i j : Nat) (k k' : String) (g : Nat), loads[i]? = some ⟨k, .started g⟩ →
    loads[j]? = some ⟨k', .started g⟩ → i = j

namespace OneEach

variable {ls : List Load} {s s' : LoadState}

lemma nil : OneEach [] 0 where
  nodup := List.nodup_nil
  count := rfl
  gate_lt _ _ _ hi := by cases hi
  gate_inj _ _ _ _ _ hi _ := by cases hi

lemma eq_of_key (h : OneEach ls n) {j : Nat} (hi : ls[i]? = some ⟨k, s⟩)
    (hj : ls[j]? = some ⟨k, s'⟩) : i = j := by
  refine (List.getElem?_inj ?_ h.nodup).1 ?_
  · rw [List.length_map]
    exact (List.getElem?_eq_some_iff.1 hi).1
  · rw [List.getElem?_map, List.getElem?_map, hi, hj, Option.map_some, Option.map_some]

lemma create (h : OneEach ls n) (hk : ∀ l ∈ ls, l.key ≠ k) (loader : Loader) :
    OneEach (ls ++ [⟨k, .fresh loader⟩]) n := by
  have hold : ∀ {i : Nat} {k' : String} {g : Nat},
      (ls ++ [⟨k, .fresh loader⟩])[i]? = some ⟨k', .started g⟩ →
      ls[i]? = some ⟨k', .started g⟩ := fun {i k' g} hi => by
    rcases Nat.lt_trichotomy i ls.length with hlt | rfl | hgt
    · rwa [List.getElem?_append_left hlt] at hi
    · rw [List.getElem?_concat_length] at hi
      cases hi
    · have hlen : ls.length + 1 ≤ i := hgt
      rw [List.getElem?_eq_none (by simpa using hlen)] at hi
      cases hi
  refine ⟨?_, by simp [h.count, LoadState.hasStarted], fun i k' g hi => ?_,
    fun i j k' k'' g hi hj => ?_⟩
  · rw [List.map_append, List.map_singleton]
    refine List.nodup_append.2 ⟨h.nodup, by simp, fun x hx y hy he => ?_⟩
    obtain ⟨l, hl, rfl⟩ := List.mem_map.1 hx
    exact hk l hl (he.trans (List.mem_singleton.1 hy))
  · exact h.gate_lt i k' g (hold hi)
  · exact h.gate_inj i j k' k'' g (hold hi) (hold hj)

lemma map_key_set (hi : ls[i]? = some ⟨k, s⟩) :
    (ls.set i ⟨k, s'⟩).map Load.key = ls.map Load.key := by
  have hkey : (ls.map Load.key)[i]? = some k := by rw [List.getElem?_map, hi, Option.map_some]
  obtain ⟨hlen, rfl⟩ := List.getElem?_eq_some_iff.1 hkey
  rw [List.map_set]
  exact List.set_getElem_self hlen

lemma start {loader : Loader} (h : OneEach ls n) (hi : ls[i]? = some ⟨k, .fresh loader⟩) :
    OneEach (ls.set i ⟨k, .started n⟩) (n + 1) := by
  have hold : ∀ {j : Nat} {k' : String} {g : Nat},
      (ls.set i ⟨k, .started n⟩)[j]? = some ⟨k', .started g⟩ →
      i = j ∧ g = n ∨ ls[j]? = some ⟨k', .started g⟩ ∧ g < n := fun {j k' g} hj => by
    rcases getElem?_set_load hi hj with ⟨rfl, heq⟩ | ⟨-, hj⟩
    · cases heq
      exact .inl ⟨rfl, rfl⟩
    · exact .inr ⟨hj, h.gate_lt _ _ _ hj⟩
  refine ⟨map_key_set hi ▸ h.nodup, ?_, fun j k' g hj => ?_, fun j j' k' k'' g hj hj' => ?_⟩
  · obtain ⟨hlen, hi⟩ := List.getElem?_eq_some_iff.1 hi
    simp [List.countP_set hlen, hi, LoadState.hasStarted, h.count]
  · rcases hold hj with ⟨-, rfl⟩ | ⟨-, hlt⟩ <;> omega
  · rcases hold hj with ⟨rfl, rfl⟩ | ⟨hj, hlt⟩
    · rcases hold hj' with ⟨rfl, -⟩ | ⟨-, hlt⟩
      · rfl
      · omega
    · rcases hold hj' with ⟨-, rfl⟩ | ⟨hj', -⟩
      · omega
      · exact h.gate_inj j j' k' k'' g hj hj'

lemma finish (h : OneEach ls n) (hi : ls[i]? = some ⟨k, s⟩) :
    OneEach (ls.set i ⟨k, .finished⟩) (n + (!s.hasStarted).toNat) := by
  have hold : ∀ {j : Nat} {k' : String} {g : Nat},
      (ls.set i ⟨k, .finished⟩)[j]? = some ⟨k', .started g⟩ →
      ls[j]? = some ⟨k', .started g⟩ := fun {j k' g} hj => by
    rcases getElem?_set_load hi hj with ⟨-, heq⟩ | ⟨-, hj⟩
    · cases heq
    · exact hj
  refine ⟨map_key_set hi ▸ h.nodup, ?_, fun j k' g hj => ?_, fun j j' k' k'' g hj hj' => ?_⟩
  · obtain ⟨hlen, hi⟩ := List.getElem?_eq_some_iff.1 hi
    rw [List.countP_set hlen, hi, ← h.count]
    cases hs : s.hasStarted with
    | false => simp [LoadState.hasStarted]
    | true =>
      have hpos : 0 < n := by
        rw [h.count, List.countP_pos_iff]
        exact ⟨⟨k, s⟩, hi ▸ List.getElem_mem hlen, hs⟩
      have : n = n - 1 + 1 := by omega
      simpa [LoadState.hasStarted]
  · exact Nat.lt_of_lt_of_le (h.gate_lt j k' g (hold hj)) (Nat.le_add_right ..)
  · exact h.gate_inj j j' k' k'' g (hold hj) (hold hj')

end OneEach

/-! ### The entries -/

structure Inv (c : MessageCache) : Prop where
  oneEach : OneEach c.loads c.started
  present : c.isAlive = true → ∀ l ∈ c.loads, c.entries.get? l.key ≠ none
  /-- Nothing waits for a load that has finished. -/
  loading : c.isAlive = true → ∀ k i, c.entries.get? k = some (.loading i) →
    ∃ s, c.loads[i]? = some ⟨k, s⟩ ∧ s ≠ .finished

lemma inv_init : Inv {} where
  oneEach := .nil
  present _ l hl := absurd hl List.not_mem_nil
  loading _ k i h := by cases h

lemma Inv.insert (h : c.Inv) (k : String) (m : Messages) : (c.insert k m).Inv where
  oneEach := h.oneEach
  present ha l hl := by
    rw [MessageCache.insert, Dict.get?_insert]
    split
    · simp
    · exact h.present ha l hl
  loading ha k' i hi := by
    rw [MessageCache.insert, Dict.get?_insert] at hi
    split at hi
    · cases hi
    · exact h.loading ha k' i hi

lemma Inv.congr (h : c.Inv) (hentries : c'.entries = c.entries) (hloads : c'.loads = c.loads)
    (halive : c'.isAlive = c.isAlive) (hstarted : c'.started = c.started) : c'.Inv := by
  obtain ⟨honeEach, hpresent, hloading⟩ := h
  refine ⟨?_, ?_, ?_⟩
  · rwa [hloads, hstarted]
  · rwa [hloads, hentries, halive]
  · rwa [hloads, hentries, halive]

lemma Inv.create (h : c.Inv) (hnone : c.entries.get? k = none) (ha : c.isAlive = true)
    (loader : Loader) : Inv { c with
      entries := c.entries.insert k (.loading c.loads.length)
      loads := c.loads ++ [⟨k, .fresh loader⟩] } where
  oneEach := h.oneEach.create (fun l hl hkey => h.present ha l hl (hkey ▸ hnone)) loader
  present _ l hl := by
    rw [Dict.get?_insert]
    split
    · simp
    · rename_i hne
      rcases List.mem_append.1 hl with hl | hl
      · exact h.present ha l hl
      · exact absurd (List.mem_singleton.1 hl ▸ rfl) hne
  loading _ k' i hi := by
    rw [Dict.get?_insert] at hi
    split at hi
    · rename_i heq
      cases hi
      exact ⟨.fresh loader, heq ▸ List.getElem?_concat_length, by simp⟩
    · obtain ⟨s, hs, hne⟩ := h.loading ha k' i hi
      refine ⟨s, ?_, hne⟩
      exact (List.getElem?_append_left (List.getElem?_eq_some_iff.1 hs).1).trans hs

lemma Inv.start {loader : Loader} {gates : Gates Loaded} (h : c.Inv)
    (hi : c.loads[i]? = some ⟨k, .fresh loader⟩) (hlen : gates.length = c.started + 1) :
    Inv { c with loads := c.loads.set i ⟨k, .started c.started⟩, gates } where
  oneEach := by
    show OneEach (c.loads.set i ⟨k, .started c.started⟩) gates.length
    rw [hlen]
    exact h.oneEach.start hi
  present ha l hl := by
    rcases List.mem_or_eq_of_mem_set hl with hl | rfl
    · exact h.present ha l hl
    · exact h.present ha ⟨k, .fresh loader⟩ (List.mem_of_getElem? hi)
  loading ha k' j hj := by
    obtain ⟨s, hs, hne⟩ := h.loading ha k' j hj
    by_cases hij : i = j
    · subst hij
      obtain rfl : k' = k := by simpa [hi] using (congrArg (Option.map Load.key) hs).symm
      exact ⟨_, List.getElem?_set_self (List.getElem?_eq_some_iff.1 hi).1, by simp⟩
    · exact ⟨s, (List.getElem?_set_ne hij).trans hs, hne⟩

lemma Inv.finish {s : LoadState} {gates : Gates Loaded} (h : c.Inv)
    (hi : c.loads[i]? = some ⟨k, s⟩) (r : Loaded)
    (hlen : gates.length = c.started + (!s.hasStarted).toNat) :
    Inv { c.store k r with loads := c.loads.set i ⟨k, .finished⟩, gates } where
  oneEach := by
    show OneEach (c.loads.set i ⟨k, .finished⟩) gates.length
    rw [hlen]
    exact h.oneEach.finish hi
  present ha l hl := by
    rw [isAlive_store] at ha
    rw [entries_store, if_pos ha, Dict.get?_insert]
    split
    · simp
    · rcases List.mem_or_eq_of_mem_set hl with hl | rfl
      · exact h.present ha l hl
      · exact h.present ha ⟨k, s⟩ (List.mem_of_getElem? hi)
  loading ha k' j hj := by
    rw [isAlive_store] at ha
    rw [entries_store, if_pos ha, Dict.get?_insert] at hj
    split at hj
    · cases hj
    · rename_i hne
      obtain ⟨s', hs', hnot⟩ := h.loading ha k' j hj
      refine ⟨s', (List.getElem?_set_ne fun hij => hne ?_).trans hs', hnot⟩
      subst hij
      simpa [hi] using congrArg (Option.map Load.key) hs'

lemma Inv.change (h : c.Inv) (hc : c.Change e c') (hclear : e ≠ .clear) : c'.Inv := by
  cases hc with
  | rest hgates => exact h.congr rfl rfl rfl hgates.length
  | insert hgates => exact (h.insert _ _).congr rfl rfl rfl hgates.length
  | clear => exact absurd rfl hclear
  | @drop gates hgates =>
    have hone : OneEach c.loads gates.length := hgates.length ▸ h.oneEach
    exact ⟨hone, by simp, by simp⟩
  | create halive hnone hgates =>
    exact (h.create hnone halive _).congr rfl rfl rfl hgates.length
  | start hn hi hresult hgates => exact h.start hi hgates.length
  | finish hn hi hresult hgates => exact (h.finish hi _ hgates.length).congr rfl rfl rfl rfl

lemma Inv.run (h : c.Inv) (hr : c.run es = some c') (hclear : ∀ e ∈ es, e ≠ .clear) : c'.Inv := by
  refine runBy_invariant (P := fun es d => (∀ e ∈ es, e ≠ .clear) → d.Inv) (fun _ => h)
    (fun hd hstep hclear => ?_) hr hclear
  rw [List.forall_mem_append, List.forall_mem_singleton] at hclear
  exact (hd hclear.1).change (step_change hstep) hclear.2

/-! ### What becomes of an entry -/

/-- Messages are put in under a key. -/
def Event.InsertsAt (k : String) : Event → Prop
  | .insert locale ns _ => key locale ns = k
  | _ => False

lemma get?_eq_some_iff {m : Messages} :
    c.get? k = some m ↔ c.entries.get? k = some (.ready m) := by
  unfold get?
  split
  · rename_i m' hk
    simp [hk]
  · rename_i hne
    simpa using hne m

lemma Change.ready {m : Messages} (hc : c.Change e c') (hclear : e ≠ .clear)
    (halive : c'.isAlive = true) (hk : c.entries.get? k = some (.ready m)) :
    ∃ m', c'.entries.get? k = some (.ready m') := by
  cases hc with
  | rest hgates => exact ⟨m, hk⟩
  | insert hgates =>
    rw [Dict.get?_insert]
    split
    · exact ⟨_, rfl⟩
    · exact ⟨m, hk⟩
  | clear => exact absurd rfl hclear
  | drop hgates => cases halive
  | create ha hnone hgates =>
    rw [Dict.get?_insert, if_neg fun hkey => by simp [hkey, hk] at hnone]
    exact ⟨m, hk⟩
  | start hn hi hresult hgates => exact ⟨m, hk⟩
  | finish hn hi hresult hgates =>
    rw [isAlive_store] at halive
    rw [entries_store, if_pos halive, Dict.get?_insert]
    split
    · exact ⟨_, rfl⟩
    · exact ⟨m, hk⟩

lemma ready_run {m : Messages} (hr : c.run es = some c') (hclear : ∀ e ∈ es, e ≠ .clear)
    (halive : c'.isAlive = true) (hk : c.entries.get? k = some (.ready m)) :
    ∃ m', c'.entries.get? k = some (.ready m') := by
  induction es generalizing c m with
  | nil =>
    cases hr
    exact ⟨m, hk⟩
  | cons e es ih =>
    obtain ⟨a, d, hstep, hrest⟩ := runBy_cons_eq_some_iff.1 hr
    rw [List.forall_mem_cons] at hclear
    obtain ⟨m', hm'⟩ :=
      (step_change hstep).ready hclear.1 ((later_run hrest).isAlive halive) hk
    exact ih hrest hclear.2 hm'

lemma Change.loading (h : c.Inv) (hc : c.Change e c') (hclear : e ≠ .clear)
    (hins : ¬ e.InsertsAt k) (halive : c'.isAlive = true)
    (hk : c.entries.get? k = some (.loading i)) :
    c'.entries.get? k = some (.loading i) ∨ c'.loads[i]? = some ⟨k, .finished⟩ := by
  cases hc with
  | rest hgates => exact .inl hk
  | @insert locale ns m gates hgates =>
    have hne : key locale ns ≠ k := hins
    rw [Dict.get?_insert, if_neg hne]
    exact .inl hk
  | clear => exact absurd rfl hclear
  | drop hgates => cases halive
  | create ha hnone hgates =>
    rw [Dict.get?_insert, if_neg fun hkey => by simp [hkey, hk] at hnone]
    exact .inl hk
  | start hn hi hresult hgates => exact .inl hk
  | @finish n j k' s r gates hn hj hresult hgates =>
    rw [isAlive_store] at halive
    obtain ⟨s', hi, -⟩ := h.loading halive k i hk
    rw [entries_store, if_pos halive, Dict.get?_insert]
    split
    · rename_i hkey
      subst hkey
      obtain rfl := h.oneEach.eq_of_key hi hj
      exact .inr (List.getElem?_set_self (List.getElem?_eq_some_iff.1 hi).1)
    · exact .inl hk

lemma loading_run (h : c.Inv) (hr : c.run es = some c') (hclear : ∀ e ∈ es, e ≠ .clear)
    (hins : ∀ e ∈ es, ¬ e.InsertsAt k) (halive : c'.isAlive = true)
    (hk : c.entries.get? k = some (.loading i)) :
    c'.entries.get? k = some (.loading i) ∨ c'.loads[i]? = some ⟨k, .finished⟩ := by
  induction es generalizing c with
  | nil =>
    cases hr
    exact .inl hk
  | cons e es ih =>
    obtain ⟨a, d, hstep, hrest⟩ := runBy_cons_eq_some_iff.1 hr
    rw [List.forall_mem_cons] at hclear hins
    have hc := step_change hstep
    rcases hc.loading h hclear.1 hins.1 ((later_run hrest).isAlive halive) hk with hk | hfinished
    · exact ih (h.change hc hclear.1) hrest hclear.2 hins.2 hk
    · -- a load that has finished stays so
      obtain ⟨s, hs, honward⟩ := (later_run hrest).load i k _ hfinished
      cases honward <;> exact .inr hs

/-! ### What each step does to the loads -/

lemma started_step {d : MessageCache} (hstep : c.step e = some (a, d))
    (hne : d.started ≠ c.started) : ∃ n i k loader s, e = .poll n ∧
      c.pendings[n]? = some (some i) ∧ c.loads[i]? = some ⟨k, .fresh loader⟩ ∧
      d.started = c.started + 1 ∧ d.loads[i]? = some ⟨k, s⟩ ∧ s.hasStarted = true := by
  cases step_change hstep with
  | rest hgates => exact absurd hgates.length hne
  | insert hgates => exact absurd hgates.length hne
  | clear hgates => exact absurd hgates.length hne
  | drop hgates => exact absurd hgates.length hne
  | create ha hnone hgates => exact absurd hgates.length hne
  | @start n i k loader gates hn hi hresult hgates =>
    have hlen := (List.getElem?_eq_some_iff.1 hi).1
    exact ⟨n, i, k, loader, _, rfl, hn, hi, hgates.length, List.getElem?_set_self hlen, rfl⟩
  | @finish n i k s r gates hn hi hresult hgates =>
    have hlen := (List.getElem?_eq_some_iff.1 hi).1
    cases s with
    | fresh loader =>
      exact ⟨n, i, k, loader, _, rfl, hn, hi, hgates.length, List.getElem?_set_self hlen, rfl⟩
    | _ => exact absurd hgates.length hne

lemma finished_step {d : MessageCache} {s : LoadState} (hstep : c.step e = some (a, d))
    (hi : c.loads[i]? = some ⟨k, s⟩) (hs : s ≠ .finished)
    (hfinished : d.loads[i]? = some ⟨k, .finished⟩) : ∃ n r, e = .poll n ∧
      c.pendings[n]? = some (some i) ∧ c.result? i = some r ∧ d.isAlive = c.isAlive ∧
      (c.isAlive = true → d.entries.get? k = some (.ready (r.toOption.getD ∅))) := by
  have hsame : c.loads[i]? ≠ some ⟨k, .finished⟩ := fun h => by
    rw [hi] at h
    cases h
    exact hs rfl
  cases step_change hstep with
  | rest hgates => exact absurd hfinished hsame
  | insert hgates => exact absurd hfinished hsame
  | clear hgates => exact absurd hfinished hsame
  | drop hgates => exact absurd hfinished hsame
  | create ha hnone hgates =>
    have hlen := (List.getElem?_eq_some_iff.1 hi).1
    exact absurd ((List.getElem?_append_left hlen).symm.trans hfinished) hsame
  | start hn hj hresult hgates =>
    rcases getElem?_set_load hj hfinished with ⟨-, heq⟩ | ⟨-, hold⟩
    · cases heq
    · exact absurd hold hsame
  | @finish n j k' s' r gates hn hj hresult hgates =>
    rcases getElem?_set_load hj hfinished with ⟨rfl, heq⟩ | ⟨-, hold⟩
    · cases heq
      refine ⟨n, r, rfl, hn, hresult, isAlive_store .., fun halive => ?_⟩
      rw [entries_store, if_pos halive, Dict.get?_insert, if_pos rfl]
    · exact absurd hold hsame

lemma created_step {d : MessageCache} (h : c.Inv) (hstep : c.step e = some (a, d))
    (hne : d.loads.length ≠ c.loads.length) : ∃ locale ns loader, e = .lookup locale ns loader ∧
      (∀ l ∈ c.loads, l.key ≠ key locale ns) ∧ a = .pending c.pendings.length ∧
      d = { c with
        entries := c.entries.insert (key locale ns) (.loading c.loads.length)
        loads := c.loads ++ [⟨key locale ns, .fresh loader⟩]
        pendings := c.pendings ++ [some c.loads.length] } := by
  cases step_change hstep with
  | rest => exact absurd rfl hne
  | insert => exact absurd rfl hne
  | clear => exact absurd rfl hne
  | drop => exact absurd rfl hne
  | start => exact absurd List.length_set hne
  | finish => exact absurd List.length_set hne
  | @create locale ns loader gates halive hnone hgates =>
    refine ⟨locale, ns, loader, rfl, fun l hl hkey => h.present halive l hl (hkey ▸ hnone), ?_⟩
    simp only [step, if_pos halive, lookup, hnone, addPending] at hstep
    obtain ⟨rfl, hd⟩ := Prod.mk.inj (Option.some.inj hstep)
    exact ⟨rfl, hd.symm⟩

lemma poll_done {s : LoadState} (hn : c.pendings[n]? = some (some i))
    (hi : c.loads[i]? = some ⟨k, s⟩) (h : s = .finished ∨ (c.result? i).isSome = true) :
    ∃ d, c.step (.poll n) = some (.plain (.polled (.done ())), d) ∧
      d.loads[i]? = some ⟨k, .finished⟩ := by
  have hpoll : (c.poll n).1 = .done () ∧ (c.poll n).2.loads[i]? = some ⟨k, .finished⟩ := by
    have hlen := (List.getElem?_eq_some_iff.1 hi).1
    rcases c.advance_cases i with ⟨k', s', r, gates, hi', hresult, hgates, hadvance⟩ |
      ⟨hresult, k', loader, gates, hi', hgates, hadvance⟩ | ⟨hresult, b, hadvance, hb⟩
    · obtain ⟨rfl, rfl⟩ : k = k' ∧ s = s' := by simpa [hi] using hi'
      simp [poll, hn, hadvance, hlen]
    · obtain ⟨rfl, rfl⟩ : k = k' ∧ s = .fresh loader := by simpa [hi] using hi'
      simp [hresult] at h
    · obtain rfl : s = .finished := by simpa [hresult] using h
      obtain rfl := (hb k _ hi).2.2 rfl
      simp [poll, hn, hadvance, hi]
  obtain ⟨gates, hsweep, -⟩ := (c.poll n).2.exists_sweep
  refine ⟨(c.poll n).2.sweep, ?_, ?_⟩
  · simp only [step, hpoll.1]
  · rw [hsweep]
    exact hpoll.2

lemma result?_settle {gate : Nat} {r : Loaded} {d : MessageCache}
    (hi : c.loads[i]? = some ⟨k, .started gate⟩)
    (hstep : c.step (.settle gate r) = some (.plain (.flag true), d)) : d.result? i = some r := by
  obtain ⟨hanswer, rfl⟩ := Prod.mk.inj (Option.some.inj hstep)
  have hflag : Answer.plain (.flag (c.gates.settle gate r).1) = .plain (.flag true) := hanswer
  have hsettled : (c.gates.settle gate r).1 = true := by injections
  simp only [result?, hi]
  exact Gates.outcome?_settle hsettled

/-! ### Single flight -/

/-- What holds from the cache `c` on, which is run on to `c'`. -/
structure SingleFlight (c : MessageCache) (es : List Event) (c' : MessageCache) : Prop where
  /-- No key ever has two loads, -/
  nodup : (c'.loads.map Load.key).Nodup
  /-- since loads stay, while each goes one way, -/
  onward : ∀ (i : Nat) (k : String) (s : LoadState), c.loads[i]? = some ⟨k, s⟩ →
    ∃ s', c'.loads[i]? = some ⟨k, s'⟩ ∧ s.Onward s'
  /-- and a load is created by a lookup for a key without one, with its loader. -/
  created : ∀ e a d, c.step e = some (a, d) → d.loads.length ≠ c.loads.length →
    ∃ locale ns loader, e = .lookup locale ns loader ∧
      (∀ l ∈ c.loads, l.key ≠ key locale ns) ∧ a = .pending c.pendings.length ∧
      d = { c with
        entries := c.entries.insert (key locale ns) (.loading c.loads.length)
        loads := c.loads ++ [⟨key locale ns, .fresh loader⟩]
        pendings := c.pendings ++ [some c.loads.length] }
  /-- The loader of a lookup that creates none is not even looked at. -/
  unused : ∀ locale ns loader a d, c.step (.lookup locale ns loader) = some (a, d) →
    d.loads.length = c.loads.length →
    ∀ loader', c.step (.lookup locale ns loader') = some (a, d)
  /-- As many loaders have started as there are loads that have, -/
  count : c'.started = c'.loads.countP (·.state.hasStarted)
  /-- and a loader is started by a poll of its load. -/
  starts : ∀ e a d, c.step e = some (a, d) → d.started ≠ c.started →
    ∃ n i k loader s, e = .poll n ∧ c.pendings[n]? = some (some i) ∧
      c.loads[i]? = some ⟨k, .fresh loader⟩ ∧ d.started = c.started + 1 ∧
      d.loads[i]? = some ⟨k, s⟩ ∧ s.hasStarted = true
  /-- Until messages are put in for the key or the load has finished, all lookups share it. -/
  shared : ∀ k i, c.entries.get? k = some (.loading i) → (∀ e ∈ es, ¬ e.InsertsAt k) →
    c'.isAlive = true → c'.loads[i]? = some ⟨k, .finished⟩ ∨
      ∀ locale ns loader, key locale ns = k → c'.step (.lookup locale ns loader) =
        some (.pending c'.pendings.length, { c' with pendings := c'.pendings ++ [some i] })
  /-- No two loads wait at one gate, -/
  own : ∀ (i j : Nat) (k k' : String) (g : Nat), c.loads[i]? = some ⟨k, .started g⟩ →
    c.loads[j]? = some ⟨k', .started g⟩ → i = j
  /-- so that what is settled there is what the one load comes to, -/
  settled : ∀ (i : Nat) (k : String) (g : Nat) r d, c.loads[i]? = some ⟨k, .started g⟩ →
    c.step (.settle g r) = some (.plain (.flag true), d) → d.result? i = some r
  /-- and stays the same. -/
  result : ∀ (i : Nat) (k : String) (g : Nat) r r', c.loads[i]? = some ⟨k, .started g⟩ →
    c.result? i = some r → c'.result? i = some r' → r' = r
  /-- Each poll of a load that has come to something finishes it, -/
  polled : ∀ (n i : Nat) (k : String) s, c.pendings[n]? = some (some i) →
    c.loads[i]? = some ⟨k, s⟩ → s = .finished ∨ (c.result? i).isSome = true →
    ∃ d, c.step (.poll n) = some (.plain (.polled (.done ())), d) ∧
      d.loads[i]? = some ⟨k, .finished⟩
  /-- nothing else does, and its messages are there at once, or none if it failed. -/
  finishes : ∀ e a d (i : Nat) (k : String) s, c.step e = some (a, d) →
    c.loads[i]? = some ⟨k, s⟩ → s ≠ .finished → d.loads[i]? = some ⟨k, .finished⟩ →
    ∃ n r, e = .poll n ∧ c.pendings[n]? = some (some i) ∧ c.result? i = some r ∧
      (c.isAlive = true → ∀ locale ns, key locale ns = k →
        d.step (.get locale ns) = some (.messages (some (r.toOption.getD ∅)), d))
  /-- A key with messages always has some from then on. -/
  ready : ∀ locale ns m, c.get? (key locale ns) = some m → c'.isAlive = true →
    ∃ m', c'.step (.get locale ns) = some (.messages (some m'), c') ∧
      c'.step (.isLoading locale ns) = some (.plain (.flag false), c') ∧
      ∀ loader, c'.step (.lookup locale ns loader) = some (.ready m', c')

/-- **There is one load a key**, whatever comes between its polls, as long as the cache is not
cleared. -/
theorem single_flight {es es' : List Event} (hrun : run {} es = some c)
    (hrun' : c.run es' = some c') (hclear : ∀ e ∈ es ++ es', e ≠ .clear) :
    SingleFlight c es' c' := by
  rw [List.forall_mem_append] at hclear
  have hinv : c.Inv := inv_init.run hrun hclear.1
  have hinv' : c'.Inv := hinv.run hrun' hclear.2
  have hlater := later_run hrun'
  refine
    { nodup := hinv'.oneEach.nodup
      onward := hlater.load
      created := fun e a d => created_step hinv
      unused := fun locale ns loader a d hstep hlen loader' => ?_
      count := hinv'.oneEach.count
      starts := fun e a d => started_step
      shared := fun k i hk hins halive => ?_
      own := hinv.oneEach.gate_inj
      settled := fun i k g r d => result?_settle
      result := fun i k g r r' => hlater.result?_eq
      polled := fun n i k s => poll_done
      finishes := fun e a d i k s hstep hi hs hfinished => ?_
      ready := fun locale ns m hm halive => ?_ }
  · -- only where there is no entry does a lookup keep its loader
    obtain ⟨halive, hlookup⟩ := Option.ite_none_right_eq_some.1 hstep
    rcases hentry : c.entries.get? (key locale ns) with _ | (m | j)
    · simp only [lookup, hentry, addPending, Option.some.injEq, Prod.mk.injEq] at hlookup
      simp [← hlookup.2] at hlen
    · simpa only [step, if_pos halive, lookup, hentry] using hstep
    · simpa only [step, if_pos halive, lookup, hentry] using hstep
  · rcases loading_run hinv hrun' hclear.2 hins halive hk with hk | hfinished
    · refine .inr fun locale ns loader hkey => ?_
      rw [← hkey] at hk
      simp only [step, if_pos halive, lookup, hk, addPending]
    · exact .inl hfinished
  · obtain ⟨n, r, he, hn, hresult, hd, hready⟩ := finished_step hstep hi hs hfinished
    refine ⟨n, r, he, hn, hresult, fun halive locale ns hkey => ?_⟩
    have hget := get?_eq_some_iff.2 (hkey ▸ hready halive)
    simp only [step, if_pos (hd.trans halive), hget]
  · obtain ⟨m', hm'⟩ := ready_run hrun' hclear.2 halive (get?_eq_some_iff.1 hm)
    refine ⟨m', ?_, ?_, fun loader => ?_⟩
    · simp only [step, if_pos halive, get?_eq_some_iff.2 hm']
    · simp only [step, if_pos halive, isLoading, hm']
    · simp only [step, if_pos halive, lookup, hm']

/-- Two loads for three lookups. -/
def lookups : List Event :=
  [.lookup "en" "button" .wait, .lookup "en" "button" (.come (.error "unused")), .poll 1,
    .lookup "de" "menu" .probe]

/-- One load comes to messages that are settled late, the other to what it finds in the cache. -/
def completions : List Event :=
  [.settle 0 (.ok (Dict.ofList [("label", "Go")])), .poll 0, .poll 2, .poll 1]

/-- The second lookup shares the first one's load, and its loader is never started. -/
theorem single_flight_shared : ∃ c c', run {} lookups = some c ∧ c.run completions = some c' ∧
    SingleFlight c completions c' ∧ c.loads.map Load.key = ["en:button", "de:menu"] ∧
    c.pendings = [some 0, some 0, some 1] ∧ c'.started = 2 ∧ c'.pendings = [none, none, none] ∧
    c'.get? "en:button" = some (Dict.ofList [("label", "Go")]) ∧
    c'.get? "de:menu" = some (Dict.ofList [("state", "loading")]) := by
  have hlookups : (run {} lookups).map (fun c => (c.loads.map Load.key, c.pendings)) =
      some (["en:button", "de:menu"], [some 0, some 0, some 1]) := by
    decide +kernel
  have hcompletions : ((run {} lookups).bind fun c => c.run completions).map (fun c =>
      (c.started, c.pendings, c.get? "en:button", c.get? "de:menu")) =
      some (2, [none, none, none], some (Dict.ofList [("label", "Go")]),
        some (Dict.ofList [("state", "loading")])) := by
    decide +kernel
  obtain ⟨c, hc, hfound⟩ := Option.map_eq_some_iff.1 hlookups
  rw [hc, Option.bind_some] at hcompletions
  obtain ⟨c', hc', hfound'⟩ := Option.map_eq_some_iff.1 hcompletions
  simp only [Prod.mk.injEq] at hfound hfound'
  have hclear : ∀ e ∈ lookups ++ completions, e ≠ .clear := by simp [lookups, completions]
  exact ⟨c, c', hc, hc', single_flight hc hc' hclear, hfound.1, hfound.2, hfound'⟩

end ViewLayers.MessageCache
