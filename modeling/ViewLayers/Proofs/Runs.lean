import Mathlib.Data.List.Induction

/-!
Runs. A system answers an event and goes on from another state, or refuses it. A list of events
leads from one state to another if none of them is refused on the way, and what each step does to a
property of the state, or of the state and the events so far, all of them do.
-/

namespace ViewLayers

variable {σ ε α : Type} {step : σ → ε → Option (α × σ)} {s s' : σ} {e : ε} {es es' : List ε}

/-- Where a list of events leads to. -/
def runBy (step : σ → ε → Option (α × σ)) (s : σ) : List ε → Option σ
  | [] => some s
  | e :: es => (step s e).bind fun x => runBy step x.2 es

lemma runBy_cons_eq_some_iff : runBy step s (e :: es) = some s' ↔
    ∃ a d, step s e = some (a, d) ∧ runBy step d es = some s' := by
  rw [runBy, Option.bind_eq_some_iff, Prod.exists]

lemma runBy_append (step : σ → ε → Option (α × σ)) (s : σ) (es es' : List ε) :
    runBy step s (es ++ es') = (runBy step s es).bind fun d => runBy step d es' := by
  induction es generalizing s with
  | nil => rfl
  | cons e es ih =>
    rw [List.cons_append, runBy, runBy, Option.bind_assoc]
    exact Option.bind_congr fun x _ => ih x.2

lemma runBy_append_eq_some_iff : runBy step s (es ++ es') = some s' ↔
    ∃ d, runBy step s es = some d ∧ runBy step d es' = some s' := by
  rw [runBy_append, Option.bind_eq_some_iff]

lemma runBy_concat_eq_some_iff : runBy step s (es ++ [e]) = some s' ↔
    ∃ d a, runBy step s es = some d ∧ step d e = some (a, s') := by
  rw [runBy_append_eq_some_iff]
  refine exists_congr fun d => ?_
  simp [runBy, Option.bind_eq_some_iff]

/-- **What every step carries on, a run carries on.** -/
theorem runBy_invariant {P : List ε → σ → Prop} (h : P [] s)
    (hstep : ∀ {es d e a d'}, P es d → step d e = some (a, d') → P (es ++ [e]) d')
    (hrun : runBy step s es = some s') : P es s' := by
  induction es using List.reverseRecOn generalizing s' with
  | nil =>
    cases hrun
    exact h
  | append_singleton es e ih =>
    obtain ⟨d, a, hd, hlast⟩ := runBy_concat_eq_some_iff.1 hrun
    exact hstep (ih hd) hlast

/-- The states before and after a run are related as those of its steps are. -/
theorem runBy_related {R : σ → σ → Prop} (hrefl : ∀ s, R s s)
    (htrans : ∀ {s d s'}, R s d → R d s' → R s s')
    (hstep : ∀ {s e a s'}, step s e = some (a, s') → R s s') (hrun : runBy step s es = some s') :
    R s s' :=
  runBy_invariant (P := fun _ d => R s d) (hrefl s) (fun h hs => htrans h (hstep hs)) hrun

end ViewLayers
