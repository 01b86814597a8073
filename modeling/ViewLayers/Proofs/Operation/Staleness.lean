import Mathlib.Data.List.Induction
import ViewLayers.Operation.Guards
import ViewLayers.Proofs.Operation.Gates
import ViewLayers.Proofs.Runs

/-!
What guards let through. The kin of a guard are the guards that come from the same new one by
cloning. A wrapped future passes on what it comes to at the first poll that finds it, unless one of
the kin of the guard around it was invalidated before, and then it never does. To all that is around
no kin of a guard it makes no difference whether that guard is invalidated.
-/

namespace ViewLayers.Guards

variable {ρ : Type} {s s' d d' : Guards ρ} {e : Event ρ} {es es' : List (Event ρ)} {a : Reply ρ}
  {g k n : Nat} {r : ρ}

def run (s : Guards ρ) (es : List (Event ρ)) : Option (Guards ρ) := runBy step s es

/-- What a future that is still there has come to, whether or not it passes it on. -/
def inner? (s : Guards ρ) (n : Nat) : Option ρ :=
  match s.futures[n]? with
  | some (some f) => s.gates.outcome? f.gate
  | _ => none

/-! ### Histories -/

structure Ancestry where
  /-- Which of the new guards each guard comes from. -/
  lines : List Nat := []
  /-- How many guards were new. -/
  news : Nat := 0

def Ancestry.after (a : Ancestry) : Event ρ → Ancestry
  | .new _ => ⟨a.lines ++ [a.news], a.news + 1⟩
  | .clone g => { a with lines := a.lines ++ a.lines[g]?.toList }
  | _ => a

def ancestry (es : List (Event ρ)) : Ancestry := es.foldl Ancestry.after {}

def lines (es : List (Event ρ)) : List Nat := (ancestry es).lines

/-- Two guards that come from one. -/
def Kin (es : List (Event ρ)) (g g' : Nat) : Prop :=
  ∃ k, (lines es)[g]? = some k ∧ (lines es)[g']? = some k

/-- One of the kin of the guard was invalidated. -/
def Stale (es : List (Event ρ)) (g : Nat) : Prop := ∃ g', .invalidate g' ∈ es ∧ Kin es g g'

def Event.wrapper? : Event ρ → Option Nat
  | .wrap g _ => some g
  | _ => none

/-- The guards around the futures. -/
def wrappers (es : List (Event ρ)) : List Nat := es.filterMap Event.wrapper?

/-- The future that a step speaks of, by its own number or its gate's. -/
def Event.future? : Event ρ → Option Nat
  | .poll n | .forget n | .settle n _ | .abandon n _ => some n
  | _ => none

lemma ancestry_concat (es : List (Event ρ)) (e : Event ρ) :
    ancestry (es ++ [e]) = (ancestry es).after e := by
  rw [ancestry, List.foldl_concat, ancestry]

lemma lines_concat (es : List (Event ρ)) (e : Event ρ) :
    ∃ more, lines (es ++ [e]) = lines es ++ more := by
  rw [lines, ancestry_concat]
  cases e with
  | new => exact ⟨_, rfl⟩
  | clone => exact ⟨_, rfl⟩
  | _ => exact ⟨[], (List.append_nil _).symm⟩

lemma lines_append (es es' : List (Event ρ)) : ∃ more, lines (es ++ es') = lines es ++ more := by
  induction es' using List.reverseRecOn with
  | nil => exact ⟨[], by simp⟩
  | append_singleton es' e ih =>
    obtain ⟨more, hmore⟩ := ih
    obtain ⟨more', hmore'⟩ := lines_concat (es ++ es') e
    exact ⟨more ++ more', by rw [← List.append_assoc, hmore', hmore, List.append_assoc]⟩

lemma getElem?_lines_append (h : (lines es)[g]? = some k) (es' : List (Event ρ)) :
    (lines (es ++ es'))[g]? = some k := by
  obtain ⟨more, hmore⟩ := lines_append es es'
  rw [hmore, List.getElem?_append_left (List.getElem?_eq_some_iff.1 h).1, h]

lemma Kin.append {g' : Nat} (h : Kin es g g') (es' : List (Event ρ)) : Kin (es ++ es') g g' := by
  obtain ⟨k, hg, hg'⟩ := h
  exact ⟨k, getElem?_lines_append hg es', getElem?_lines_append hg' es'⟩

lemma Stale.append (h : Stale es g) (es' : List (Event ρ)) : Stale (es ++ es') g := by
  obtain ⟨g', hg', hkin⟩ := h
  exact ⟨g', List.mem_append_left _ hg', hkin.append es'⟩

lemma wrappers_append (es es' : List (Event ρ)) :
    wrappers (es ++ es') = wrappers es ++ wrappers es' := List.filterMap_append

lemma getElem?_wrappers_append (h : (wrappers es)[n]? = some g) (es' : List (Event ρ)) :
    (wrappers (es ++ es'))[n]? = some g := by
  rw [wrappers_append, List.getElem?_append_left (List.getElem?_eq_some_iff.1 h).1, h]

/-! ### What a step does -/

lemma step_poll_iff :
    s.step (.poll n) = some (a, s') ↔ a = .polled (s.poll n).1 ∧ s' = (s.poll n).2 := by
  rw [step, Option.some.injEq, Prod.mk.injEq, eq_comm, eq_comm (b := s')]

lemma step_forget_iff :
    s.step (.forget n) = some (a, s') ↔ a = .flag (s.forget n).1 ∧ s' = (s.forget n).2 := by
  rw [step, Option.some.injEq, Prod.mk.injEq, eq_comm, eq_comm (b := s')]

lemma poll_cases (s : Guards ρ) (n : Nat) :
    (∃ f r, s.futures[n]? = some (some f) ∧ s.gates.outcome? f.gate = some r ∧
      s.isValid f.family = true ∧
      s.poll n = (.done r, { s with futures := s.futures.set n none })) ∨
    ((∀ r, (s.poll n).1 ≠ .done r) ∧ (s.poll n).2 = s) := by
  unfold poll
  split
  · rename_i f hf
    split
    · rename_i r hr
      split
      · rename_i hv
        exact .inl ⟨f, r, hf, hr, hv, rfl⟩
      · exact .inr ⟨by simp, rfl⟩
    · exact .inr ⟨by simp, rfl⟩
  · exact .inr ⟨by simp, rfl⟩

lemma poll_eq_done_iff : (s.poll n).1 = .done r ↔ ∃ f, s.futures[n]? = some (some f) ∧
    s.gates.outcome? f.gate = some r ∧ s.isValid f.family = true := by
  constructor
  · intro h
    rcases s.poll_cases n with ⟨f, r', hf, hr, hv, hpoll⟩ | ⟨hne, -⟩
    · rw [hpoll] at h
      cases h
      exact ⟨f, hf, hr, hv⟩
    · exact absurd h (hne r)
  · rintro ⟨f, hf, hr, hv⟩
    simp [poll, hf, hr, hv]

lemma poll_of_none (h : s.futures[n]? = some none) : (s.poll n).1 = .gone := by simp [poll, h]

lemma forget_cases (s : Guards ρ) (n : Nat) :
    (∃ f, s.futures[n]? = some (some f) ∧ s.forget n =
      (true, { s with futures := s.futures.set n none, gates := s.gates.desert f.gate })) ∨
    (s.forget n).2 = s := by
  unfold forget
  split
  · rename_i f hf
    exact .inl ⟨f, hf, rfl⟩
  · exact .inr rfl

inductive Change (s : Guards ρ) : Event ρ → Guards ρ → Prop
  | new (generation : Nat) : s.Change (.new generation) { s with
      families := s.families ++ [true], guards := s.guards ++ [⟨generation, s.families.length⟩] }
  | clone {g : Nat} {x : Guard} (hg : s.guards[g]? = some x) :
      s.Change (.clone g) { s with guards := s.guards ++ [x] }
  | invalidate {g : Nat} {x : Guard} (hg : s.guards[g]? = some x) :
      s.Change (.invalidate g) { s with families := s.families.set x.family false }
  | wrap {g : Nat} {x : Guard} {o : Option ρ} (hg : s.guards[g]? = some x) :
      s.Change (.wrap g o) { s with
        futures := s.futures ++ [some ⟨x.family, s.gates.length⟩]
        gates := s.gates ++ [.ofOutcome o] }
  | pass {n : Nat} {r : ρ} (hdone : (s.poll n).1 = .done r) :
      s.Change (.poll n) { s with futures := s.futures.set n none }
  | forget {n : Nat} {f : Wrapped} (hf : s.futures[n]? = some (some f)) :
      s.Change (.forget n) { s with
        futures := s.futures.set n none, gates := s.gates.desert f.gate }
  /-- What comes of a future changes its gate at most. -/
  | rest {e : Event ρ} {n : Nat} {gates : Gates ρ} (he : e.future? = some n)
      (hgates : s.gates.Onward gates 0)
      (hopen : ∀ (n : Nat) (o : Option ρ), s.gates[n]? = some (.ofOutcome o) →
        ∃ o', gates[n]? = some (.ofOutcome o')) : s.Change e { s with gates }

lemma step_change (hstep : s.step e = some (a, s')) : s.Change e s' := by
  cases e with
  | new generation =>
    cases hstep
    exact .new generation
  | clone g =>
    obtain ⟨x, hg, hx⟩ := Option.map_eq_some_iff.1 hstep
    cases hx
    exact .clone hg
  | invalidate g =>
    obtain ⟨x, hg, hx⟩ := Option.map_eq_some_iff.1 hstep
    cases hx
    exact .invalidate hg
  | wrap g o =>
    obtain ⟨x, hg, hx⟩ := Option.map_eq_some_iff.1 hstep
    cases hx
    exact .wrap hg
  | poll n =>
    obtain ⟨-, rfl⟩ := step_poll_iff.1 hstep
    rcases s.poll_cases n with ⟨f, r, -, -, -, hpoll⟩ | ⟨-, hpoll⟩
    · have hdone : (s.poll n).1 = .done r := by rw [hpoll]
      rw [hpoll]
      exact .pass hdone
    · rw [hpoll]
      exact .rest rfl (.refl s.gates) fun _ o ho => ⟨o, ho⟩
  | forget n =>
    obtain ⟨-, rfl⟩ := step_forget_iff.1 hstep
    rcases s.forget_cases n with ⟨f, hf, hforget⟩ | hforget
    · rw [hforget]
      exact .forget hf
    · rw [hforget]
      exact .rest rfl (.refl s.gates) fun _ o ho => ⟨o, ho⟩
  | settle n r =>
    cases hstep
    exact .rest rfl (Gates.onward_settle s.gates n r) fun _ _ ho => Gates.ofOutcome_settle ho n r
  | abandon n r =>
    cases hstep
    exact .rest rfl (Gates.onward_abandon s.gates n r) fun _ _ ho =>
      Gates.ofOutcome_abandon ho n r

/-! ### Guards and their lines -/

structure Lineage (es : List (Event ρ)) (s : Guards ρ) : Prop where
  lines : s.guards.map Guard.family = lines es
  news : s.families.length = (ancestry es).news
  lt_news : ∀ k ∈ Guards.lines es, k < (ancestry es).news
  /-- Only guards that are there are invalidated. -/
  named : ∀ g, .invalidate g ∈ es → g < (Guards.lines es).length
  valid_iff : ∀ k < (ancestry es).news,
    (s.isValid k = true ↔ ∀ g, .invalidate g ∈ es → (Guards.lines es)[g]? ≠ some k)

namespace Lineage

lemma init : Lineage [] ({} : Guards ρ) where
  lines := rfl
  news := rfl
  lt_news _ hk := absurd hk List.not_mem_nil
  named _ hg := absurd hg List.not_mem_nil
  valid_iff k hk := absurd hk (Nat.not_lt_zero k)

lemma getElem?_lines (h : Lineage es s) {x : Guard} (hg : s.guards[g]? = some x) :
    (Guards.lines es)[g]? = some x.family := by
  rw [← h.lines, List.getElem?_map, hg, Option.map_some]

lemma family_lt (h : Lineage es s) {x : Guard} (hg : s.guards[g]? = some x) :
    x.family < (ancestry es).news :=
  h.lt_news _ (List.mem_of_getElem? (h.getElem?_lines hg))

lemma grow (h : Lineage es s) (he : ∀ g, e ≠ .invalidate g) {x : Guard} {more : List Bool}
    (hlines : Guards.lines (es ++ [e]) = Guards.lines es ++ [x.family])
    (hnews : (ancestry (es ++ [e])).news = (ancestry es).news + more.length)
    (hx : x.family < (ancestry es).news + more.length) (hmore : ∀ b ∈ more, b = true) :
    Lineage (es ++ [e]) { s with families := s.families ++ more, guards := s.guards ++ [x] } := by
  have hmem : ∀ g, .invalidate g ∈ es ++ [e] ↔ .invalidate g ∈ es := fun g => by
    simp [(he g).symm]
  have hline : ∀ g, .invalidate g ∈ es →
      (Guards.lines (es ++ [e]))[g]? = (Guards.lines es)[g]? := fun g hg => by
    rw [hlines, List.getElem?_append_left (h.named g hg)]
  refine ⟨?_, ?_, fun k hk => ?_, fun g hg => ?_, fun k hk => ?_⟩
  · rw [hlines, List.map_append, h.lines, List.map_singleton]
  · rw [hnews, List.length_append, h.news]
  · rw [hlines, List.mem_append, List.mem_singleton] at hk
    rw [hnews]
    rcases hk with hk | rfl
    · exact Nat.lt_add_right _ (h.lt_news k hk)
    · exact hx
  · rw [hlines, List.length_append]
    exact Nat.lt_add_right _ (h.named g ((hmem g).1 hg))
  · simp only [hmem]
    rcases Nat.lt_or_ge k (ancestry es).news with hlt | hge
    · have hvalid : (s.families ++ more)[k]?.getD false = s.isValid k := by
        rw [List.getElem?_append_left (h.news ▸ hlt), isValid]
      rw [isValid, hvalid, h.valid_iff k hlt]
      exact forall_congr' fun g => forall_congr' fun hg => by rw [hline g hg]
    · -- nothing was invalidated in a line that has just begun
      refine ⟨fun _ g hg hk => ?_, fun _ => ?_⟩
      · rw [hline g hg] at hk
        exact Nat.not_lt.2 hge (h.lt_news _ (List.mem_of_getElem? hk))
      · rw [hnews, ← h.news, ← List.length_append] at hk
        rw [isValid, List.getElem?_eq_getElem hk, Option.getD_some,
          List.getElem_append_right (h.news ▸ hge)]
        exact hmore _ (List.getElem_mem _)

lemma new (h : Lineage es s) (generation : Nat) : Lineage (es ++ [.new generation]) { s with
    families := s.families ++ [true]
    guards := s.guards ++ [⟨generation, s.families.length⟩] } := by
  refine h.grow (by simp) ?_ ?_ ?_ (by simp)
  · rw [Guards.lines, ancestry_concat, h.news]
    rfl
  · rw [ancestry_concat]
    rfl
  · rw [h.news]
    exact Nat.lt_succ_self _

lemma clone (h : Lineage es s) {x : Guard} (hg : s.guards[g]? = some x) :
    Lineage (es ++ [.clone g]) { s with guards := s.guards ++ [x] } := by
  have hgrow : Lineage (es ++ [.clone g])
      { s with families := s.families ++ [], guards := s.guards ++ [x] } := by
    refine h.grow (by simp) ?_ ?_ (h.family_lt hg) (by simp)
    · rw [Guards.lines, ancestry_concat]
      show Guards.lines es ++ (Guards.lines es)[g]?.toList = _
      rw [h.getElem?_lines hg]
      rfl
    · rw [ancestry_concat]
      rfl
  rwa [List.append_nil] at hgrow

lemma keep (h : Lineage es s) (hafter : ∀ a : Ancestry, a.after e = a)
    (he : ∀ g, e ≠ .invalidate g) (futures : List (Option Wrapped)) (gates : Gates ρ) :
    Lineage (es ++ [e]) { s with futures, gates } := by
  have hancestry : ancestry (es ++ [e]) = ancestry es := by rw [ancestry_concat, hafter]
  have hlines : Guards.lines (es ++ [e]) = Guards.lines es := congrArg Ancestry.lines hancestry
  have hmem : ∀ g, .invalidate g ∈ es ++ [e] ↔ .invalidate g ∈ es := fun g => by
    simp [(he g).symm]
  refine ⟨?_, ?_, ?_, fun g hg => ?_, fun k hk => ?_⟩
  · rw [hlines]; exact h.lines
  · rw [hancestry]; exact h.news
  · rw [hlines, hancestry]; exact h.lt_news
  · rw [hlines]; exact h.named g ((hmem g).1 hg)
  · simp only [hmem, hlines]
    exact h.valid_iff k (hancestry ▸ hk)

lemma invalidate (h : Lineage es s) {x : Guard} (hg : s.guards[g]? = some x) :
    Lineage (es ++ [.invalidate g]) { s with families := s.families.set x.family false } := by
  have hancestry : ancestry (es ++ [.invalidate g]) = ancestry es := by
    rw [ancestry_concat]
    rfl
  have hlines : Guards.lines (es ++ [.invalidate g]) = Guards.lines es :=
    congrArg Ancestry.lines hancestry
  have hline := h.getElem?_lines hg
  refine ⟨?_, ?_, ?_, fun g' hg' => ?_, fun k hk => ?_⟩
  · rw [hlines]; exact h.lines
  · rw [hancestry, List.length_set]; exact h.news
  · rw [hlines, hancestry]; exact h.lt_news
  · rw [hlines]
    rcases List.mem_append.1 hg' with hg' | hg'
    · exact h.named g' hg'
    · obtain rfl : g' = g := by simpa using hg'
      exact (List.getElem?_eq_some_iff.1 hline).1
  · rw [hancestry] at hk
    rw [hlines]
    by_cases hfamily : x.family = k
    · -- the line of `g` itself is invalid now
      subst hfamily
      refine ⟨fun hv => ?_, fun hnone => absurd hline (hnone g (by simp))⟩
      simp [isValid, h.news ▸ hk] at hv
    · have hvalid : isValid { s with families := s.families.set x.family false } k =
          s.isValid k := by
        rw [isValid, isValid, List.getElem?_set_ne hfamily]
      rw [hvalid, h.valid_iff k hk]
      refine ⟨fun hnone g' hg' => ?_, fun hnone g' hg' => hnone g' (List.mem_append_left _ hg')⟩
      rcases List.mem_append.1 hg' with hg' | hg'
      · exact hnone g' hg'
      · obtain rfl : g' = g := by simpa using hg'
        rw [hline]
        exact fun heq => hfamily (Option.some.inj heq)

lemma isValid_iff (h : Lineage es s) (hg : (Guards.lines es)[g]? = some k) :
    s.isValid k = true ↔ ¬ Stale es g := by
  rw [h.valid_iff k (h.lt_news k (List.mem_of_getElem? hg))]
  constructor
  · rintro hnone ⟨g', hg', k', hk, hk'⟩
    obtain rfl : k = k' := Option.some.inj (hg.symm.trans hk)
    exact hnone g' hg' hk'
  · exact fun hfresh g' hg' hk => hfresh ⟨g', hg', k, hg, hk⟩

end Lineage

/-! ### Futures and their guards -/

structure Wrapping (es : List (Event ρ)) (s : Guards ρ) : Prop where
  length : s.futures.length = (wrappers es).length
  gates : s.gates.length = s.futures.length
  future : ∀ (n : Nat) (f : Wrapped), s.futures[n]? = some (some f) →
    f.gate = n ∧ ∃ g, (wrappers es)[n]? = some g ∧ (lines es)[g]? = some f.family
  /-- The gate of a future that is still there is not closed. -/
  waits : ∀ (n : Nat) (f : Wrapped), s.futures[n]? = some (some f) →
    ∃ o, s.gates[n]? = some (.ofOutcome o)

lemma getElem?_set_none {futures : List (Option Wrapped)} {m : Nat} {f : Wrapped} :
    (futures.set n none)[m]? = some (some f) ↔ n ≠ m ∧ futures[m]? = some (some f) := by
  by_cases hm : n = m
  · subst hm
    simp [List.getElem?_set_self']
  · simp [hm]

namespace Wrapping

lemma init : Wrapping [] ({} : Guards ρ) where
  length := rfl
  gates := rfl
  future _ _ hn := by cases hn
  waits _ _ hn := by cases hn

lemma keep (h : Wrapping es s) (he : e.wrapper? = none) (families : List Bool)
    (guards : List Guard) : Wrapping (es ++ [e]) { s with families, guards } := by
  have hwrappers : wrappers (es ++ [e]) = wrappers es := by
    rw [wrappers_append, wrappers, wrappers, List.filterMap_cons_none he, List.filterMap_nil,
      List.append_nil]
  refine ⟨hwrappers ▸ h.length, h.gates, fun n f hf => ?_, h.waits⟩
  obtain ⟨hn, g, hg, hline⟩ := h.future n f hf
  exact ⟨hn, g, hwrappers ▸ hg, getElem?_lines_append hline [e]⟩

lemma wrap (h : Wrapping es s) {x : Guard} (hg : (lines es)[g]? = some x.family)
    (o : Option ρ) : Wrapping (es ++ [.wrap g o]) { s with
      futures := s.futures ++ [some ⟨x.family, s.gates.length⟩]
      gates := s.gates ++ [.ofOutcome o] } := by
  have hwrappers : wrappers (es ++ [.wrap g o]) = wrappers es ++ [g] := wrappers_append es _
  refine ⟨?_, ?_, fun n f hf => ?_, fun n f hf => ?_⟩
  · rw [hwrappers, List.length_append, List.length_append, h.length]
    rfl
  · rw [List.length_append, List.length_append, h.gates]
    rfl
  · rcases Nat.lt_or_ge n s.futures.length with hlt | hge
    · rw [List.getElem?_append_left hlt] at hf
      obtain ⟨hn, g', hg', hline⟩ := h.future n f hf
      exact ⟨hn, g', getElem?_wrappers_append hg' _, getElem?_lines_append hline _⟩
    · -- the new future has the number of its gate
      rw [List.getElem?_append_right hge] at hf
      obtain ⟨hn, hf⟩ := List.getElem?_eq_some_iff.1 hf
      have hn : n = s.futures.length := by
        rw [List.length_singleton] at hn
        omega
      subst hn
      obtain rfl : _ = f := Option.some.inj (by simpa using hf)
      refine ⟨h.gates, g, ?_, getElem?_lines_append hg _⟩
      rw [hwrappers, h.length, List.getElem?_concat_length]
  · rcases Nat.lt_or_ge n s.futures.length with hlt | hge
    · rw [List.getElem?_append_left hlt] at hf
      obtain ⟨o', ho'⟩ := h.waits n f hf
      exact ⟨o', by rw [List.getElem?_append_left (h.gates ▸ hlt), ho']⟩
    · have hlen := (List.getElem?_eq_some_iff.1 hf).1
      have hn : n = s.gates.length := by
        rw [List.length_append, List.length_singleton] at hlen
        rw [h.gates]
        omega
      exact ⟨o, by rw [hn, List.getElem?_concat_length]⟩

lemma pass (h : Wrapping es s) (n : Nat) :
    Wrapping es { s with futures := s.futures.set n none } :=
  ⟨by rw [List.length_set]; exact h.length, by rw [List.length_set]; exact h.gates,
    fun m f hf => h.future m f (getElem?_set_none.1 hf).2,
    fun m f hf => h.waits m f (getElem?_set_none.1 hf).2⟩

lemma forget {f : Wrapped} (h : Wrapping es s) (hf : s.futures[n]? = some (some f)) :
    Wrapping es { s with futures := s.futures.set n none, gates := s.gates.desert f.gate } := by
  obtain ⟨rfl, -⟩ := h.future n f hf
  have hpass := h.pass f.gate
  refine { hpass with gates := by rw [Gates.length_desert]; exact hpass.gates, waits := ?_ }
  intro m f' hf'
  rw [Gates.getElem?_desert_ne (getElem?_set_none.1 hf').1]
  exact hpass.waits m f' hf'

lemma onward {gates : Gates ρ} (h : Wrapping es s) (hgates : s.gates.Onward gates 0)
    (hopen : ∀ (n : Nat) (o : Option ρ), s.gates[n]? = some (.ofOutcome o) →
      ∃ o', gates[n]? = some (.ofOutcome o')) : Wrapping es { s with gates } where
  length := h.length
  gates := hgates.length.trans h.gates
  future := h.future
  waits n f hf := by
    obtain ⟨o, ho⟩ := h.waits n f hf
    exact hopen n o ho

end Wrapping

/-! ### The invariant -/

structure Inv (es : List (Event ρ)) (s : Guards ρ) : Prop where
  lineage : Lineage es s
  wrapping : Wrapping es s

namespace Inv

lemma init : Inv [] ({} : Guards ρ) := ⟨.init, .init⟩

lemma after_of_future? (he : e.future? = some n) (a : Ancestry) : a.after e = a := by
  cases e <;> first | rfl | cases he

lemma wrapper?_of_future? (he : e.future? = some n) : e.wrapper? = none := by
  cases e <;> first | rfl | cases he

lemma ne_invalidate_of_future? (he : e.future? = some n) (g : Nat) : e ≠ .invalidate g := by
  rintro rfl
  cases he

lemma keep (h : Inv es s) (he : e.future? = some n) {futures : List (Option Wrapped)}
    {gates : Gates ρ} (hw : Wrapping es { s with futures, gates }) :
    Inv (es ++ [e]) { s with futures, gates } where
  lineage := h.lineage.keep (after_of_future? he) (ne_invalidate_of_future? he) futures gates
  wrapping := hw.keep (wrapper?_of_future? he) s.families s.guards

lemma change (h : Inv es s) (hc : s.Change e s') : Inv (es ++ [e]) s' := by
  cases hc with
  | new generation => exact ⟨h.lineage.new generation, h.wrapping.keep rfl _ _⟩
  | clone hg => exact ⟨h.lineage.clone hg, h.wrapping.keep rfl _ _⟩
  | invalidate hg => exact ⟨h.lineage.invalidate hg, h.wrapping.keep rfl _ _⟩
  | wrap hg =>
    exact ⟨h.lineage.keep (fun _ => rfl) (by simp) _ _,
      h.wrapping.wrap (h.lineage.getElem?_lines hg) _⟩
  | pass => exact h.keep rfl (h.wrapping.pass _)
  | forget hf => exact h.keep rfl (h.wrapping.forget hf)
  | rest he hgates hopen => exact h.keep he (h.wrapping.onward hgates hopen)

lemma run (h : Inv es s) (hrun : s.run es' = some s') : Inv (es ++ es') s' := by
  refine runBy_invariant (P := fun es' d => Inv (es ++ es') d) ?_ (fun hd hstep => ?_) hrun
  · rwa [List.append_nil]
  · rw [← List.append_assoc]
    exact hd.change (step_change hstep)

end Inv

/-! ### What stays -/

/-- A session that came of another: no guard is ever lost, no future comes back, and what comes
through a gate does not change. -/
structure Later (s s' : Guards ρ) : Prop where
  guard : ∀ (g : Nat) (x : Guard), s.guards[g]? = some x → s'.guards[g]? = some x
  gone : ∀ n : Nat, s.futures[n]? = some none → s'.futures[n]? = some none
  gates : ∃ more, s.gates.Onward s'.gates more

lemma Later.refl (s : Guards ρ) : s.Later s := ⟨fun _ _ => id, fun _ => id, 0, .refl _⟩

lemma Later.trans (h : s.Later s') (h' : s'.Later d) : s.Later d := by
  obtain ⟨more, hgates⟩ := h.gates
  obtain ⟨more', hgates'⟩ := h'.gates
  exact ⟨fun g x hg => h'.guard g x (h.guard g x hg), fun n hn => h'.gone n (h.gone n hn),
    _, hgates.trans hgates'⟩

lemma getElem?_append_of_some {β : Type} {l more : List β} {b : β} (h : l[n]? = some b) :
    (l ++ more)[n]? = some b := by
  rw [List.getElem?_append_left (List.getElem?_eq_some_iff.1 h).1, h]

lemma getElem?_set_none_of_none {futures : List (Option Wrapped)} {m : Nat}
    (h : futures[m]? = some none) : (futures.set n none)[m]? = some none := by
  by_cases hm : n = m
  · subst hm
    simp [List.getElem?_set_self', h]
  · rw [List.getElem?_set_ne hm, h]

lemma Change.later (hc : s.Change e s') : s.Later s' := by
  cases hc with
  | new => exact ⟨fun _ _ => getElem?_append_of_some, fun _ => id, 0, .refl _⟩
  | clone => exact ⟨fun _ _ => getElem?_append_of_some, fun _ => id, 0, .refl _⟩
  | invalidate => exact ⟨fun _ _ => id, fun _ => id, 0, .refl _⟩
  | wrap => exact ⟨fun _ _ => id, fun _ => getElem?_append_of_some, 1, Gates.onward_append _ _⟩
  | pass => exact ⟨fun _ _ => id, fun _ => getElem?_set_none_of_none, 0, .refl _⟩
  | forget =>
    exact ⟨fun _ _ => id, fun _ => getElem?_set_none_of_none, 0, Gates.onward_desert _ _⟩
  | rest _ hgates => exact ⟨fun _ _ => id, fun _ => id, 0, hgates⟩

lemma later_run (hrun : s.run es = some s') : s.Later s' :=
  runBy_related Later.refl .trans (fun hstep => (step_change hstep).later) hrun

lemma Change.future {f : Wrapped} (hc : s.Change e s') (hf : s.futures[n]? = some (some f)) :
    s'.futures[n]? = some (some f) ∨ e = .forget n ∨ ∃ r, e = .poll n ∧ (s.poll n).1 = .done r := by
  cases hc with
  | new => exact .inl hf
  | clone => exact .inl hf
  | invalidate => exact .inl hf
  | wrap => exact .inl (getElem?_append_of_some hf)
  | @pass m r hdone =>
    by_cases hm : m = n
    · subst hm
      exact .inr (.inr ⟨r, rfl, hdone⟩)
    · exact .inl (getElem?_set_none.2 ⟨hm, hf⟩)
  | @forget m =>
    by_cases hm : m = n
    · subst hm
      exact .inr (.inl rfl)
    · exact .inl (getElem?_set_none.2 ⟨hm, hf⟩)
  | rest => exact .inl hf

lemma future_run {f : Wrapped} (hrun : s.run es = some s') (hforget : .forget n ∉ es)
    (hf : s.futures[n]? = some (some f)) : s'.futures[n]? = some (some f) ∨
      ∃ before after d r, es = before ++ .poll n :: after ∧ s.run before = some d ∧
        (d.poll n).1 = .done r := by
  induction es generalizing s with
  | nil =>
    cases hrun
    exact .inl hf
  | cons e es ih =>
    obtain ⟨a, d, hstep, hrest⟩ := runBy_cons_eq_some_iff.1 hrun
    rw [List.mem_cons, not_or] at hforget
    rcases (step_change hstep).future hf with hf | rfl | ⟨r, rfl, hdone⟩
    · rcases ih hrest hforget.2 hf with hf | ⟨before, after, d', r, rfl, hd', hdone⟩
      · exact .inl hf
      · refine .inr ⟨e :: before, after, d', r, rfl, ?_, hdone⟩
        exact runBy_cons_eq_some_iff.2 ⟨a, d, hstep, hd'⟩
    · exact absurd rfl hforget.1
    · exact .inr ⟨[], es, s, r, rfl, rfl, hdone⟩

/-! ### What an invalidation leaves alone -/

/-- The future is around a guard of the line. -/
def InLine (es : List (Event ρ)) (k n : Nat) : Prop :=
  ∃ g, (wrappers es)[n]? = some g ∧ (lines es)[g]? = some k

/-- Two sessions that are alike but for the guards of one line and the futures inside them. -/
structure Apart (es : List (Event ρ)) (k : Nat) (s d : Guards ρ) : Prop where
  guards : d.guards = s.guards
  families : d.families.length = s.families.length
  family : ∀ j, j ≠ k → d.families[j]? = s.families[j]?
  futures : d.futures.length = s.futures.length
  gates : d.gates.length = s.gates.length
  future : ∀ n, ¬ InLine es k n → d.futures[n]? = s.futures[n]?
  gate : ∀ n, ¬ InLine es k n → d.gates[n]? = s.gates[n]?

lemma InLine.append (h : InLine es k n) (es' : List (Event ρ)) : InLine (es ++ es') k n := by
  obtain ⟨g, hg, hk⟩ := h
  exact ⟨g, getElem?_wrappers_append hg es', getElem?_lines_append hk es'⟩

lemma apart_invalidate {x : Guard} (s : Guards ρ) (es : List (Event ρ)) :
    Apart es x.family s { s with families := s.families.set x.family false } where
  guards := rfl
  families := List.length_set
  family _ hj := List.getElem?_set_ne hj.symm
  futures := rfl
  gates := rfl
  future _ _ := rfl
  gate _ _ := rfl

/-- A step that speaks of a future does nothing to others. -/
lemma step_of_future? (hw : Wrapping es s) (he : e.future? = some n) : ∃ a futures gates,
    s.step e = some (a, { s with futures, gates }) ∧ futures.length = s.futures.length ∧
    gates.length = s.gates.length ∧
    ∀ m, m ≠ n → futures[m]? = s.futures[m]? ∧ gates[m]? = s.gates[m]? := by
  cases e with
  | poll n' =>
    obtain rfl : n' = n := Option.some.inj he
    rcases s.poll_cases n' with ⟨f, r, -, -, -, hpoll⟩ | ⟨-, hpoll⟩
    · refine ⟨_, s.futures.set n' none, s.gates, step_poll_iff.2 ⟨rfl, by rw [hpoll]⟩,
        List.length_set, rfl, fun m hm => ⟨List.getElem?_set_ne hm.symm, rfl⟩⟩
    · exact ⟨_, s.futures, s.gates, step_poll_iff.2 ⟨rfl, hpoll.symm⟩, rfl, rfl,
        fun _ _ => ⟨rfl, rfl⟩⟩
  | forget n' =>
    obtain rfl : n' = n := Option.some.inj he
    rcases s.forget_cases n' with ⟨f, hf, hforget⟩ | hforget
    · obtain ⟨rfl, -⟩ := hw.future n' f hf
      exact ⟨_, s.futures.set f.gate none, s.gates.desert f.gate,
        step_forget_iff.2 ⟨rfl, by rw [hforget]⟩, List.length_set, Gates.length_desert _ _,
        fun m hm => ⟨List.getElem?_set_ne hm.symm, Gates.getElem?_desert_ne hm.symm⟩⟩
    · exact ⟨_, s.futures, s.gates, step_forget_iff.2 ⟨rfl, hforget.symm⟩, rfl, rfl,
        fun _ _ => ⟨rfl, rfl⟩⟩
  | settle n' r =>
    obtain rfl : n' = n := Option.some.inj he
    exact ⟨_, s.futures, _, rfl, rfl, Gates.length_settle _ _ _,
      fun m hm => ⟨rfl, Gates.getElem?_settle_ne hm.symm r⟩⟩
  | abandon n' r =>
    obtain rfl : n' = n := Option.some.inj he
    exact ⟨_, s.futures, _, rfl, rfl, Gates.length_abandon _ _ _,
      fun m hm => ⟨rfl, Gates.getElem?_abandon_ne hm.symm r⟩⟩
  | _ => cases he

/-- What it answers, and what it does, depends on that future alone. -/
lemma step_congr (hw : Wrapping es s) (he : e.future? = some n)
    (hfuture : d.futures[n]? = s.futures[n]?) (hgate : d.gates[n]? = s.gates[n]?)
    (hvalid : ∀ f, s.futures[n]? = some (some f) → d.isValid f.family = s.isValid f.family) :
    ∃ a s' d', s.step e = some (a, s') ∧ d.step e = some (a, d') ∧
      d'.futures[n]? = s'.futures[n]? ∧ d'.gates[n]? = s'.gates[n]? := by
  cases e with
  | poll n' =>
    obtain rfl : n' = n := Option.some.inj he
    refine ⟨_, _, _, step_poll_iff.2 ⟨rfl, rfl⟩, step_poll_iff.2 ⟨?_, rfl⟩, ?_⟩
    -- the answer first, and then the future and its gate after it
    all_goals
      rcases hf : s.futures[n']? with _ | _ | f
      · simp [poll, hfuture, hf, hgate]
      · simp [poll, hfuture, hf, hgate]
      · obtain ⟨rfl, -⟩ := hw.future n' f hf
        have houtcome := Gates.outcome?_congr hgate
        rcases ho : s.gates.outcome? f.gate with _ | r
        · simp [poll, hfuture, hf, houtcome, ho, hgate]
        · cases hv : s.isValid f.family <;>
            simp [poll, hfuture, hf, houtcome, ho, hgate, hvalid f hf, hv,
              List.getElem?_set_self']
  | forget n' =>
    obtain rfl : n' = n := Option.some.inj he
    refine ⟨_, _, _, step_forget_iff.2 ⟨rfl, rfl⟩, step_forget_iff.2 ⟨?_, rfl⟩, ?_⟩
    all_goals
      rcases hf : s.futures[n']? with _ | _ | f
      · simp [forget, hfuture, hf, hgate]
      · simp [forget, hfuture, hf, hgate]
      · obtain ⟨rfl, -⟩ := hw.future n' f hf
        simp [forget, hfuture, hf, Gates.desert_congr hgate, List.getElem?_set_self']
  | settle n' r =>
    obtain rfl : n' = n := Option.some.inj he
    obtain ⟨hflag, hsettled⟩ := Gates.settle_congr hgate r
    exact ⟨.flag (s.gates.settle n' r).1, { s with gates := (s.gates.settle n' r).2 },
      { d with gates := (d.gates.settle n' r).2 }, rfl, by rw [← hflag]; rfl, hfuture, hsettled⟩
  | abandon n' r =>
    obtain rfl : n' = n := Option.some.inj he
    obtain ⟨hflag, habandoned⟩ := Gates.abandon_congr hgate r
    exact ⟨.flag (s.gates.abandon n' r).1, { s with gates := (s.gates.abandon n' r).2 },
      { d with gates := (d.gates.abandon n' r).2 }, rfl, by rw [← hflag]; rfl, hfuture, habandoned⟩
  | _ => cases he

section Apart

variable {es₁ es₂ : List (Event ρ)}

lemma Apart.valid_of_future (h : Apart es k s d) (hw : Wrapping es s) (hn : ¬ InLine es k n)
    (f : Wrapped) (hf : s.futures[n]? = some (some f)) :
    d.isValid f.family = s.isValid f.family := by
  rw [isValid, isValid, h.family]
  rintro rfl
  exact hn (hw.future n f hf).2

lemma Apart.answer (h : Apart es k s d) (hw : Wrapping es s) (hn : ¬ InLine es k n)
    (he : e.future? = some n) : (d.step e).map Prod.fst = (s.step e).map Prod.fst := by
  obtain ⟨a, s', d', hs, hd, -⟩ :=
    step_congr hw he (h.future n hn) (h.gate n hn) (h.valid_of_future hw hn)
  rw [hs, hd]
  rfl

lemma Apart.append (h : Apart es k s d) (es' : List (Event ρ)) : Apart (es ++ es') k s d :=
  { h with
    future := fun n hn => h.future n fun hin => hn (hin.append es')
    gate := fun n hn => h.gate n fun hin => hn (hin.append es') }

lemma Apart.step_future (h : Apart es k s d) (hs : Wrapping es s) (hd : Wrapping es₂ d)
    (he : e.future? = some n) (hstep : s.step e = some (a, s')) :
    ∃ a' d', d.step e = some (a', d') ∧ Apart es k s' d' := by
  obtain ⟨a₁, futures, gates, hstep', hfutures, hgates, hothers⟩ := step_of_future? hs he
  obtain ⟨rfl, rfl⟩ := Prod.mk.inj (Option.some.inj (hstep'.symm.trans hstep))
  obtain ⟨a₂, futures', gates', hstep₂, hfutures', hgates', hothers'⟩ := step_of_future? hd he
  refine ⟨a₂, _, hstep₂, h.guards, h.families, h.family, ?_, ?_, fun m hm => ?_, fun m hm => ?_⟩
  · exact hfutures'.trans (h.futures.trans hfutures.symm)
  · exact hgates'.trans (h.gates.trans hgates.symm)
  · by_cases hmn : m = n
    · subst hmn
      obtain ⟨_, _, _, hs', hd', hfuture, -⟩ :=
        step_congr hs he (h.future m hm) (h.gate m hm) (h.valid_of_future hs hm)
      cases hstep'.symm.trans hs'
      cases hstep₂.symm.trans hd'
      exact hfuture
    · exact (hothers' m hmn).1.trans ((h.future m hm).trans (hothers m hmn).1.symm)
  · by_cases hmn : m = n
    · subst hmn
      obtain ⟨_, _, _, hs', hd', -, hgate⟩ :=
        step_congr hs he (h.future m hm) (h.gate m hm) (h.valid_of_future hs hm)
      cases hstep'.symm.trans hs'
      cases hstep₂.symm.trans hd'
      exact hgate
    · exact (hothers' m hmn).2.trans ((h.gate m hm).trans (hothers m hmn).2.symm)

lemma getElem?_append_congr {β : Type} {l l' : List β} (hlen : l'.length = l.length)
    (h : l'[n]? = l[n]?) (more : List β) : (l' ++ more)[n]? = (l ++ more)[n]? := by
  rcases Nat.lt_or_ge n l.length with hlt | hge
  · rw [List.getElem?_append_left hlt, List.getElem?_append_left (hlen ▸ hlt), h]
  · rw [List.getElem?_append_right hge, List.getElem?_append_right (hlen ▸ hge), hlen]

lemma getElem?_set_congr {β : Type} {l l' : List β} (h : l'[n]? = l[n]?) (j : Nat) (b : β) :
    (l'.set j b)[n]? = (l.set j b)[n]? := by
  by_cases hj : j = n
  · subst hj
    rw [List.getElem?_set_self', List.getElem?_set_self', h]
  · rw [List.getElem?_set_ne hj, List.getElem?_set_ne hj, h]

/-- Two such sessions go on side by side. -/
lemma Apart.step (h : Apart es k s d) (hs : Wrapping es s) (hd : Wrapping es₂ d)
    (hstep : s.step e = some (a, s')) :
    ∃ a' d', d.step e = some (a', d') ∧ Apart (es ++ [e]) k s' d' := by
  have h' := h.append [e]
  rcases hfuture : e.future? with _ | n
  · -- guards are the same in both sessions, and families are but for the line `k`
    cases e with
    | new generation =>
      cases hstep
      refine ⟨_, _, rfl, { h' with guards := ?_, families := ?_, family := fun j hj => ?_ }⟩
      · simp only [h.guards, h.families]
      · simp only [List.length_append, h.families]
      · exact getElem?_append_congr h.families (h.family j hj) [true]
    | clone g =>
      obtain ⟨x, hg, hx⟩ := Option.map_eq_some_iff.1 hstep
      cases hx
      refine ⟨.nothing, { d with guards := d.guards ++ [x] }, ?_, { h' with guards := ?_ }⟩
      · simp only [Guards.step, h.guards, hg, Option.map_some]
      · simp only [h.guards]
    | invalidate g =>
      obtain ⟨x, hg, hx⟩ := Option.map_eq_some_iff.1 hstep
      cases hx
      refine ⟨.nothing, { d with families := d.families.set x.family false }, ?_,
        { h' with families := ?_, family := fun j hj => ?_ }⟩
      · simp only [Guards.step, h.guards, hg, Option.map_some]
      · simp only [List.length_set, h.families]
      · exact getElem?_set_congr (h.family j hj) x.family false
    | wrap g o =>
      obtain ⟨x, hg, hx⟩ := Option.map_eq_some_iff.1 hstep
      cases hx
      refine ⟨.number d.futures.length, { d with
          futures := d.futures ++ [some ⟨x.family, d.gates.length⟩]
          gates := d.gates ++ [.ofOutcome o] }, ?_,
        { h' with
          futures := ?_, gates := ?_, future := fun n hn => ?_, gate := fun n hn => ?_ }⟩
      · simp only [Guards.step, h.guards, hg, Option.map_some]
      · simp only [List.length_append, h.futures, List.length_singleton]
      · simp only [List.length_append, h.gates, List.length_singleton]
      · simp only [h.gates]
        exact getElem?_append_congr h.futures (h'.future n hn) _
      · exact getElem?_append_congr h.gates (h'.gate n hn) _
    | _ => cases hfuture
  · -- a future answers by itself alone
    obtain ⟨a', d', hstep', happart⟩ := h.step_future hs hd hfuture hstep
    exact ⟨a', d', hstep', happart.append [e]⟩

lemma Apart.run (h : Apart es₁ k s d) (hs : Inv es₁ s) (hd : Inv es₂ d)
    (hrun : s.run es = some s') : ∃ d', d.run es = some d' ∧ Apart (es₁ ++ es) k s' d' := by
  induction es generalizing s d es₁ es₂ with
  | nil =>
    cases hrun
    exact ⟨d, rfl, h.append []⟩
  | cons e es ih =>
    obtain ⟨a, t, hstep, hrest⟩ := runBy_cons_eq_some_iff.1 hrun
    obtain ⟨a', t', hstep', happart⟩ := h.step hs.wrapping hd.wrapping hstep
    obtain ⟨d', hrest', happart'⟩ := ih happart (hs.change (step_change hstep))
      (hd.change (step_change hstep')) hrest
    refine ⟨d', runBy_cons_eq_some_iff.2 ⟨a', t', hstep', hrest'⟩, ?_⟩
    rwa [List.append_cons]

end Apart

/-! ### What guards let through -/

lemma getElem?_shown_iff {generation : Nat} {valid : Bool} :
    s.shown[g]? = some (generation, valid) ↔
      ∃ x, s.guards[g]? = some x ∧ x.generation = generation ∧ s.isValid x.family = valid := by
  rw [shown, List.getElem?_map, Option.map_eq_some_iff]
  simp only [Prod.mk.injEq]

lemma Inv.valid_iff (h : Inv es s) {generation : Nat} {valid : Bool}
    (hg : s.shown[g]? = some (generation, valid)) : valid = true ↔ ¬ Stale es g := by
  obtain ⟨x, hx, -, rfl⟩ := getElem?_shown_iff.1 hg
  exact h.lineage.isValid_iff (h.lineage.getElem?_lines hx)

lemma inner?_eq_some_iff : s.inner? n = some r ↔
    ∃ f, s.futures[n]? = some (some f) ∧ s.gates.outcome? f.gate = some r := by
  unfold inner?
  split
  · rename_i f hf
    simp [hf]
  · rename_i hnone
    exact ⟨fun h => absurd h (by simp), fun ⟨f, hf, _⟩ => absurd hf (hnone f)⟩

lemma Inv.poll_eq_done_iff (h : Inv es s) (hn : (wrappers es)[n]? = some g) :
    (s.poll n).1 = .done r ↔ s.inner? n = some r ∧ ¬ Stale es g := by
  rw [Guards.poll_eq_done_iff, inner?_eq_some_iff]
  have hvalid : ∀ f, s.futures[n]? = some (some f) →
      (s.isValid f.family = true ↔ ¬ Stale es g) := fun f hf => by
    obtain ⟨-, g', hg', hline⟩ := h.wrapping.future n f hf
    obtain rfl : g = g' := Option.some.inj (hn.symm.trans hg')
    exact h.lineage.isValid_iff hline
  constructor
  · rintro ⟨f, hf, hr, hv⟩
    exact ⟨⟨f, hf, hr⟩, (hvalid f hf).1 hv⟩
  · rintro ⟨⟨f, hf, hr⟩, hfresh⟩
    exact ⟨f, hf, hr, (hvalid f hf).2 hfresh⟩

lemma Inv.inner?_same {f : Wrapped} (h : Inv es s) (h' : Inv (es ++ es') s')
    (hlater : s.Later s') (hr : s.inner? n = some r) (hf' : s'.futures[n]? = some (some f)) :
    s'.inner? n = some r := by
  obtain ⟨f₀, hf, hr⟩ := inner?_eq_some_iff.1 hr
  obtain ⟨more, hgates⟩ := hlater.gates
  obtain ⟨o, ho⟩ := h'.wrapping.waits n f hf'
  rw [(h.wrapping.future n f₀ hf).1, Gates.outcome?_eq_some_iff] at hr
  obtain ⟨y, hy, honward⟩ := hgates.gate n _ hr
  obtain rfl : .ofOutcome o = y := Option.some.inj (ho.symm.trans hy)
  refine inner?_eq_some_iff.2 ⟨f, hf', ?_⟩
  rw [(h'.wrapping.future n f hf').1, Gates.outcome?_eq_some_iff, hy]
  -- a gate with a future is not closed, so it keeps the outcome that it has
  cases o with
  | none => simp [Gate.Onward, Gate.ofOutcome] at honward
  | some r' => simpa [Gate.Onward, Gate.ofOutcome] using honward

lemma Inv.inner?_wrap (h : Inv es s) {o : Option ρ} {m : Nat}
    (hstep : s.step (.wrap g o) = some (.number m, d)) :
    m = (wrappers es).length ∧ d.inner? m = o := by
  obtain ⟨x, hg, hx⟩ := Option.map_eq_some_iff.1 hstep
  obtain ⟨hm, rfl⟩ := Prod.mk.inj hx
  obtain rfl : s.futures.length = m := by injection hm
  refine ⟨h.wrapping.length, ?_⟩
  simp only [inner?, List.getElem?_concat_length]
  exact Gates.outcome?_append_ofOutcome s.gates o

lemma Inv.inner?_settle {f : Wrapped} (h : Inv es s) (hf : s.futures[n]? = some (some f))
    (hnone : s.inner? n = none) (r : ρ) :
    (∃ d, s.step (.settle n r) = some (.flag true, d) ∧ d.inner? n = some r) ∧
      ∃ d, s.step (.abandon n r) = some (.flag true, d) ∧ d.inner? n = some r := by
  have hgate := (h.wrapping.future n f hf).1
  have hlen : n < s.gates.length := h.wrapping.gates ▸ (List.getElem?_eq_some_iff.1 hf).1
  have hawaited : s.gates[n]? = some .awaited := by
    obtain ⟨o, ho⟩ := h.wrapping.waits n f hf
    cases o with
    | none => exact ho
    | some r' =>
      have hr' : s.inner? n = some r' :=
        inner?_eq_some_iff.2 ⟨f, hf, by rw [hgate, Gates.outcome?_eq_some_iff]; exact ho⟩
      rw [hnone] at hr'
      cases hr'
  have hinner : ({ s with gates := s.gates.set n (.settled r) } : Guards ρ).inner? n = some r := by
    refine inner?_eq_some_iff.2 ⟨f, hf, ?_⟩
    rw [hgate, Gates.outcome?_eq_some_iff, List.getElem?_set_self hlen]
  refine ⟨⟨_, ?_, hinner⟩, ⟨_, ?_, hinner⟩⟩
  · simp only [step, Gates.settle, hawaited]
  · simp only [step, Gates.abandon, hawaited]

/-- What an invalidation of the guard `g` makes of `s'` if it comes before all that led there. -/
structure Invalidated (es : List (Event ρ)) (g : Nat) (s' d' : Guards ρ) : Prop where
  /-- It reaches the kin of the guard, -/
  shown : ∀ g', Kin es g g' → ∃ generation, d'.shown[g']? = some (generation, false)
  /-- and what is inside them, -/
  parked : ∀ n g', (wrappers es)[n]? = some g' → Kin es g g' → ∀ r, (d'.poll n).1 ≠ .done r
  /-- but no other guard, -/
  shown_eq : ∀ g', ¬ Kin es g g' → d'.shown[g']? = s'.shown[g']?
  /-- and nothing inside another. -/
  answer : ∀ n g', (wrappers es)[n]? = some g' → ¬ Kin es g g' → ∀ e : Event ρ,
    e.future? = some n → (d'.step e).map Prod.fst = (s'.step e).map Prod.fst

lemma Inv.invalidated (h : Inv es s) (hstep : s.step (.invalidate g) = some (a, d))
    (hrun : s.run es' = some s') : ∃ d', d.run es' = some d' ∧ Invalidated (es ++ es') g s' d' := by
  have hd := h.change (step_change hstep)
  obtain ⟨x, hg, hx⟩ := Option.map_eq_some_iff.1 hstep
  cases hx
  obtain ⟨d', hrun', hapart⟩ := (apart_invalidate (x := x) s es).run h hd hrun
  have hs' := h.run hrun
  have hd' := hd.run hrun'
  have hline := getElem?_lines_append (h.lineage.getElem?_lines hg) es'
  have hlines : lines (es ++ [.invalidate g] ++ es') = lines (es ++ es') := by
    rw [← hd'.lineage.lines, ← hs'.lineage.lines, hapart.guards]
  have hwrappers : wrappers (es ++ [.invalidate g] ++ es') = wrappers (es ++ es') := by
    rw [wrappers_append, wrappers_append, wrappers_append]
    exact congrArg (· ++ wrappers es') (List.append_nil _)
  have hstale : ∀ g', Kin (es ++ es') g g' → Stale (es ++ [.invalidate g] ++ es') g' := by
    rintro g' ⟨k, hk, hk'⟩
    exact ⟨g, by simp, k, hlines ▸ hk', hlines ▸ hk⟩
  refine ⟨d', hrun', fun g' hkin => ?_, fun n g' hn hkin r hdone => ?_, fun g' hkin => ?_,
    fun n g' hn hkin e he => hapart.answer hs'.wrapping ?_ he⟩
  · -- the kin are stale from the invalidation on
    have hstale' := hstale g' hkin
    obtain ⟨k, -, hk'⟩ := hkin
    rw [← hlines, ← hd'.lineage.lines, List.getElem?_map, Option.map_eq_some_iff] at hk'
    obtain ⟨x', hx', rfl⟩ := hk'
    have hvalid := hd'.lineage.isValid_iff (hd'.lineage.getElem?_lines hx')
    refine ⟨_, getElem?_shown_iff.2 ⟨x', hx', rfl, Bool.eq_false_iff.2 fun hv => ?_⟩⟩
    exact hvalid.1 hv hstale'
  · exact ((hd'.poll_eq_done_iff (hwrappers ▸ hn)).1 hdone).2 (hstale g' hkin)
  · -- the other guards are of families that the two sessions agree about
    rw [shown, shown, List.getElem?_map, List.getElem?_map, hapart.guards]
    rcases hx' : s'.guards[g']? with _ | x'
    · rfl
    · have hne : x'.family ≠ x.family := fun heq =>
        hkin ⟨x.family, hline, heq ▸ hs'.lineage.getElem?_lines hx'⟩
      simp only [Option.map_some, isValid, hapart.family _ hne]
  · rintro ⟨g'', hg'', hk⟩
    obtain rfl : g' = g'' := Option.some.inj (hn.symm.trans hg'')
    exact hkin ⟨x.family, hline, hk⟩

/-- What holds of guards after the history `es` that goes on by `es'`. -/
structure Screened (es : List (Event ρ)) (s : Guards ρ) (es' : List (Event ρ)) (s' : Guards ρ) :
    Prop where
  /-- The guards are those of the history, -/
  length : s.shown.length = (lines es).length
  /-- and each is valid as long as none of its kin was invalidated; -/
  valid_iff : ∀ (g generation : Nat) valid, s.shown[g]? = some (generation, valid) →
    (valid = true ↔ ¬ Stale es g)
  /-- validity never comes back. -/
  stale : ∀ g generation : Nat, s.shown[g]? = some (generation, false) →
    s'.shown[g]? = some (generation, false)
  /-- A future has come to something when it is wrapped, -/
  wrapped : ∀ g o n d, s.step (.wrap g o) = some (.number n, d) →
    n = (wrappers es).length ∧ d.inner? n = o
  /-- or when its gate is settled or given up, -/
  settled : ∀ (n : Nat) f, s.futures[n]? = some (some f) → s.inner? n = none → ∀ r,
    (∃ d, s.step (.settle n r) = some (.flag true, d) ∧ d.inner? n = some r) ∧
      ∃ d, s.step (.abandon n r) = some (.flag true, d) ∧ d.inner? n = some r
  /-- and that does not change as long as the future is there. -/
  same : ∀ n r, s.inner? n = some r → ∀ f, s'.futures[n]? = some (some f) → s'.inner? n = some r
  /-- A poll passes on just what the future has come to, if none of the kin of the guard around it
  was invalidated before. -/
  polled : ∀ n g : Nat, (wrappers es)[n]? = some g →
    ∀ r, (s.poll n).1 = .done r ↔ s.inner? n = some r ∧ ¬ Stale es g
  /-- A future that is not dropped is there until then, -/
  stays : ∀ (n : Nat) f, s.futures[n]? = some (some f) → .forget n ∉ es' →
    s'.futures[n]? = some (some f) ∨ ∃ before after d r, es' = before ++ .poll n :: after ∧
      s.run before = some d ∧ (d.poll n).1 = .done r
  /-- and gone for good after that. -/
  once : ∀ n, (∃ r, (s.poll n).1 = .done r) → (s.poll n).2.futures[n]? = some none
  gone : ∀ n : Nat, s.futures[n]? = some none → (s'.poll n).1 = .gone
  /-- A poll that passes nothing on changes nothing, -/
  idle : ∀ n, (∀ r, (s.poll n).1 ≠ .done r) → (s.poll n).2 = s
  /-- and no poll passes anything on once the guard is stale. -/
  parked : ∀ n g : Nat, (wrappers es)[n]? = some g → Stale es g → ∀ r, (s'.poll n).1 ≠ .done r
  /-- An invalidation makes a difference to the kin of the guard and what is inside them only. -/
  invalidated : ∀ g a d, s.step (.invalidate g) = some (a, d) →
    ∃ d', d.run es' = some d' ∧ Invalidated (es ++ es') g s' d'

/-- **Guards let through what comes before they are stale**, and nothing after. -/
theorem passes_unless_stale (hrun : run {} es = some s) (hrun' : s.run es' = some s') :
    Screened es s es' s' := by
  have h : Inv es s := Inv.init.run hrun
  have h' : Inv (es ++ es') s' := h.run hrun'
  have hlater := later_run hrun'
  refine
    { length := by rw [← h.lineage.lines, shown, List.length_map, List.length_map]
      valid_iff := fun g generation valid => h.valid_iff
      stale := fun g generation hg => ?_
      wrapped := fun g o n d => h.inner?_wrap
      settled := fun n f => h.inner?_settle
      same := fun n r hr f => h.inner?_same h' hlater hr
      polled := fun n g hn r => h.poll_eq_done_iff hn
      stays := fun n f hf hforget => future_run hrun' hforget hf
      once := fun n ⟨r, hdone⟩ => ?_
      gone := fun n hn => poll_of_none (hlater.gone n hn)
      idle := fun n hne => ?_
      parked := fun n g hn hstale r hdone => ?_
      invalidated := fun g a d hstep => h.invalidated hstep hrun' }
  · -- a guard is never valid again, since what made it stale stays in the history
    obtain ⟨x, hx, hgeneration, hv⟩ := getElem?_shown_iff.1 hg
    have hstale : Stale es g := by
      by_contra hfresh
      exact Bool.false_ne_true ((h.valid_iff hg).2 hfresh)
    have hx' := hlater.guard g x hx
    have hvalid := h'.lineage.isValid_iff (h'.lineage.getElem?_lines hx')
    refine getElem?_shown_iff.2 ⟨x, hx', hgeneration, Bool.eq_false_iff.2 fun hv' => ?_⟩
    exact hvalid.1 hv' (hstale.append es')
  · rcases s.poll_cases n with ⟨f, r', hf, -, -, hpoll⟩ | ⟨hne, -⟩
    · rw [hpoll]
      simp [List.getElem?_set_self', hf]
    · exact absurd hdone (hne r)
  · rcases s.poll_cases n with ⟨f, r, -, -, -, hpoll⟩ | ⟨-, hpoll⟩
    · exact absurd (by rw [hpoll]) (hne r)
    · exact hpoll
  · exact ((h'.poll_eq_done_iff (getElem?_wrappers_append hn es')).1 hdone).2 (hstale.append es')

/-- Guards of one generation, two clones of the first among them, around futures that have come to
something and ones that have not. -/
def issued : List (Event (Except String Nat)) :=
  [.new 7, .clone 0, .new 7, .wrap 0 none, .wrap 1 (some (.ok 1)), .wrap 2 (some (.error "no")),
    .clone 1, .wrap 3 none, .poll 1, .invalidate 1]

def belated : List (Event (Except String Nat)) :=
  [.clone 0, .settle 0 (.ok 2), .abandon 3 (.error "lost"), .poll 0, .poll 3,
    .wrap 4 (some (.ok 5)), .poll 2]

/-- What comes before the invalidation and what is around the other new guard passes, and nothing
else does. -/
theorem passes_unless_stale_issued : ∃ s s', run {} issued = some s ∧ s.run belated = some s' ∧
    Screened issued s belated s' ∧
    s.shown = [(7, false), (7, false), (7, true), (7, false)] ∧ (s.poll 1).1 = .gone ∧
    (s.poll 2).1 = .done (.error "no") ∧ s'.inner? 0 = some (.ok 2) ∧ (s'.poll 0).1 = .pending ∧
    (s'.poll 2).1 = .gone ∧ (s'.poll 3).1 = .pending ∧ (s'.poll 4).1 = .pending :=
  ⟨_, _, rfl, rfl, passes_unless_stale rfl rfl, rfl, rfl, rfl, rfl, rfl, rfl, rfl, rfl⟩

end ViewLayers.Guards
