import Mathlib.Data.List.Basic
import ViewLayers.Operation.Gate

/-!
What may become of gates. An outcome comes to a gate at most once, and only while somebody waits
there.
-/

namespace ViewLayers

variable {ρ : Type} {gs gs' gs'' : Gates ρ} {x y z : Gate ρ} {n m more more' : Nat} {r r' : ρ}

/-- What may become of a gate: an outcome comes to an awaited gate only, and never changes. -/
def Gate.Onward (x y : Gate ρ) : Prop := x = .awaited ∨ y = x ∨ y = .closed

lemma Gate.Onward.trans (h : x.Onward y) (h' : y.Onward z) : x.Onward z := by
  rcases h with h | rfl | rfl
  · exact .inl h
  · exact h'
  · rcases h' with h' | rfl | rfl
    · cases h'
    · exact .inr (.inr rfl)
    · exact .inr (.inr rfl)

structure Gates.Onward (gs gs' : Gates ρ) (more : Nat) : Prop where
  gate : ∀ (n : Nat) (x : Gate ρ), gs[n]? = some x → ∃ y, gs'[n]? = some y ∧ x.Onward y
  length : gs'.length = gs.length + more

namespace Gates

lemma Onward.refl (gs : Gates ρ) : gs.Onward gs 0 :=
  ⟨fun _ x hx => ⟨x, hx, .inr (.inl rfl)⟩, rfl⟩

lemma Onward.trans (h : gs.Onward gs' more) (h' : gs'.Onward gs'' more') :
    gs.Onward gs'' (more + more') := by
  refine ⟨fun n x hx => ?_, by rw [h'.length, h.length, Nat.add_assoc]⟩
  obtain ⟨y, hy, hxy⟩ := h.gate n x hx
  obtain ⟨z, hz, hyz⟩ := h'.gate n y hy
  exact ⟨z, hz, hxy.trans hyz⟩

lemma onward_append (gs : Gates ρ) (x : Gate ρ) : gs.Onward (gs ++ [x]) 1 := by
  refine ⟨fun n y hy => ⟨y, ?_, .inr (.inl rfl)⟩, by simp⟩
  rw [List.getElem?_append_left (List.getElem?_eq_some_iff.1 hy).1, hy]

lemma onward_set (hx : gs[n]? = some x) (hxy : x.Onward y) : gs.Onward (gs.set n y) 0 := by
  refine ⟨fun m x' hx' => ?_, by simp⟩
  by_cases hm : n = m
  · subst hm
    obtain rfl : x = x' := by simpa [hx] using hx'
    exact ⟨y, by simp [(List.getElem?_eq_some_iff.1 hx).1], hxy⟩
  · exact ⟨x', by rw [List.getElem?_set_ne hm, hx'], .inr (.inl rfl)⟩

lemma onward_settle (gs : Gates ρ) (n : Nat) (r : ρ) : gs.Onward (gs.settle n r).2 0 := by
  unfold settle
  split
  · rename_i hn
    exact onward_set hn (.inl rfl)
  · rename_i hn
    exact onward_set hn (.inr (.inr rfl))
  · exact .refl gs

lemma onward_abandon (gs : Gates ρ) (n : Nat) (lost : ρ) : gs.Onward (gs.abandon n lost).2 0 := by
  unfold abandon
  split
  · rename_i hn
    exact onward_set hn (.inl rfl)
  · rename_i hn
    exact onward_set hn (.inr (.inr rfl))
  · exact .refl gs

lemma onward_desert (gs : Gates ρ) (n : Nat) : gs.Onward (gs.desert n) 0 := by
  unfold desert
  split
  · rename_i hn
    exact onward_set hn (.inl rfl)
  · rename_i hn
    exact onward_set hn (.inr (.inr rfl))
  · exact .refl gs

lemma outcome?_eq_some_iff : gs.outcome? n = some r ↔ gs[n]? = some (.settled r) := by
  unfold outcome?
  split
  · rename_i hn
    simp [hn]
  · rename_i hn
    simpa using hn r

lemma Onward.outcome?_eq (h : gs.Onward gs' more) (hr : gs.outcome? n = some r)
    (hr' : gs'.outcome? n = some r') : r' = r := by
  obtain ⟨y, hy, hry⟩ := h.gate n _ (outcome?_eq_some_iff.1 hr)
  obtain rfl : y = .settled r' := by simpa [hy] using outcome?_eq_some_iff.1 hr'
  simpa [Gate.Onward] using hry

lemma outcome?_append_ofOutcome (gs : Gates ρ) (o : Option ρ) :
    outcome? (gs ++ [.ofOutcome o]) gs.length = o := by
  cases o <;> simp [outcome?, Gate.ofOutcome]

@[simp] lemma length_settle (gs : Gates ρ) (n : Nat) (r : ρ) :
    (gs.settle n r).2.length = gs.length := by
  unfold settle
  split <;> simp

@[simp] lemma length_abandon (gs : Gates ρ) (n : Nat) (lost : ρ) :
    (gs.abandon n lost).2.length = gs.length := by
  unfold abandon
  split <;> simp

@[simp] lemma length_desert (gs : Gates ρ) (n : Nat) : (gs.desert n).length = gs.length := by
  unfold desert
  split <;> simp

lemma outcome?_settle (h : (gs.settle n r).1 = true) : (gs.settle n r).2.outcome? n = some r := by
  unfold settle at h ⊢
  split at h
  · rename_i hn
    simp [outcome?, (List.getElem?_eq_some_iff.1 hn).1]
  · cases h
  · cases h

/-! ### One gate at a time

What is done at a gate is decided by that gate, and changes no other. -/

lemma getElem?_settle_ne (h : n ≠ m) (r : ρ) : (gs.settle n r).2[m]? = gs[m]? := by
  unfold settle
  split <;> simp [h]

lemma getElem?_abandon_ne (h : n ≠ m) (lost : ρ) : (gs.abandon n lost).2[m]? = gs[m]? := by
  unfold abandon
  split <;> simp [h]

lemma getElem?_desert_ne (h : n ≠ m) : (gs.desert n)[m]? = gs[m]? := by
  unfold desert
  split <;> simp [h]

lemma settle_congr (h : gs[n]? = gs'[n]?) (r : ρ) : (gs.settle n r).1 = (gs'.settle n r).1 ∧
    (gs.settle n r).2[n]? = (gs'.settle n r).2[n]? := by
  unfold settle
  rw [h]
  split <;> simp [List.getElem?_set_self', h]

lemma abandon_congr (h : gs[n]? = gs'[n]?) (lost : ρ) :
    (gs.abandon n lost).1 = (gs'.abandon n lost).1 ∧
      (gs.abandon n lost).2[n]? = (gs'.abandon n lost).2[n]? := by
  unfold abandon
  rw [h]
  split <;> simp [List.getElem?_set_self', h]

lemma desert_congr (h : gs[n]? = gs'[n]?) : (gs.desert n)[n]? = (gs'.desert n)[n]? := by
  unfold desert
  rw [h]
  split <;> simp [List.getElem?_set_self', h]

lemma ofOutcome_settle {o : Option ρ} (h : gs[m]? = some (.ofOutcome o)) (n : Nat) (r : ρ) :
    ∃ o', (gs.settle n r).2[m]? = some (.ofOutcome o') := by
  by_cases hm : n = m
  · subst hm
    cases o with
    | none => exact ⟨some r, by simp [settle, h, Gate.ofOutcome, List.getElem?_set_self']⟩
    | some r' => exact ⟨some r', by simp [settle, h, Gate.ofOutcome]⟩
  · exact ⟨o, by rw [getElem?_settle_ne hm, h]⟩

lemma ofOutcome_abandon {o : Option ρ} (h : gs[m]? = some (.ofOutcome o)) (n : Nat) (lost : ρ) :
    ∃ o', (gs.abandon n lost).2[m]? = some (.ofOutcome o') := by
  by_cases hm : n = m
  · subst hm
    cases o with
    | none => exact ⟨some lost, by simp [abandon, h, Gate.ofOutcome, List.getElem?_set_self']⟩
    | some r' => exact ⟨some r', by simp [abandon, h, Gate.ofOutcome]⟩
  · exact ⟨o, by rw [getElem?_abandon_ne hm, h]⟩

lemma outcome?_congr (h : gs[n]? = gs'[n]?) : gs.outcome? n = gs'.outcome? n := by
  unfold outcome?
  rw [h]

end Gates

end ViewLayers
