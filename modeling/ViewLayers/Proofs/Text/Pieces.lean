import Mathlib.Data.List.TakeWhile
import ViewLayers.Text.Split

/-!
Pieces between separators. They hold all but the separators, and pieces without one are found again
in what they are joined to. The first piece is what stands before the first separator.
-/

namespace ViewLayers.Text

variable {f : Char → Bool} {cs w : List Char}

lemma flatten_splitBy (f : Char → Bool) (cs : List Char) :
    (splitBy f cs).flatten = cs.filter fun c => !f c := by
  induction cs with
  | nil => rfl
  | cons c cs ih =>
    rw [splitBy]
    split
    · rename_i hc
      rw [List.flatten_cons, List.nil_append, ih, List.filter_cons_of_neg (by simp [hc])]
    · rename_i hc
      obtain ⟨piece, pieces, h⟩ := List.exists_cons_of_ne_nil (splitBy_ne_nil f cs)
      rw [h] at ih
      rw [h, List.filter_cons_of_pos (by simpa using hc), ← ih]
      rfl

lemma not_of_mem_splitBy {piece : List Char} {c : Char} (hp : piece ∈ splitBy f cs)
    (hc : c ∈ piece) : f c = false := by
  have hmem : c ∈ (splitBy f cs).flatten := List.mem_flatten_of_mem hp hc
  rw [flatten_splitBy, List.mem_filter] at hmem
  simpa using hmem.2

lemma forall_beq_eq_false_iff {sep : Char} : (∀ c ∈ cs, (c == sep) = false) ↔ sep ∉ cs := by
  simp only [beq_eq_false_iff_ne]
  exact ⟨fun h hc => h sep hc rfl, fun h c hc heq => h (heq ▸ hc)⟩

lemma splitBy_eq_singleton (h : ∀ c ∈ cs, f c = false) :
    splitBy f cs = [cs] := by
  induction cs with
  | nil => rfl
  | cons c cs ih =>
    rw [List.forall_mem_cons] at h
    rw [splitBy, ih h.2, if_neg (by simp [h.1])]

lemma splitBy_joinWith {sep : String} {c : Char} (hsep : sep.toList = [c]) (hc : f c = true)
    {ss : List String} (hne : ss ≠ []) (h : ∀ s ∈ ss, ∀ c ∈ s.toList, f c = false) :
    splitBy f (joinWith sep ss).toList = ss.map String.toList := by
  induction ss with
  | nil => exact absurd rfl hne
  | cons s ss ih =>
    rw [List.forall_mem_cons] at h
    cases ss with
    | nil => exact splitBy_eq_singleton h.1
    | cons s' ss =>
      have hjoin : (joinWith sep (s :: s' :: ss)).toList =
          s.toList ++ c :: (joinWith sep (s' :: ss)).toList := by
        simp [joinWith, hsep]
      rw [hjoin, splitBy_append_sep f _ _ hc, splitBy_eq_singleton h.1, ih (by simp) h.2]
      rfl

lemma splitBy_append_of_forall {piece : List Char} {pieces : List (List Char)}
    (hw : ∀ c ∈ w, f c = false) (h : splitBy f cs = piece :: pieces) :
    splitBy f (w ++ cs) = (w ++ piece) :: pieces := by
  induction w with
  | nil => exact h
  | cons c w ih =>
    rw [List.forall_mem_cons] at hw
    rw [List.cons_append, splitBy, ih hw.2, if_neg (by simp [hw.1])]
    rfl

lemma splitBy_flatMap {g : Char → List Char} (hsep : ∀ c, f c = true → g c = [c])
    (hother : ∀ c, f c = false → ∀ d ∈ g c, f d = false) (cs : List Char) :
    splitBy f (cs.flatMap g) = (splitBy f cs).map fun piece => piece.flatMap g := by
  induction cs with
  | nil => rfl
  | cons c cs ih =>
    rw [List.flatMap_cons, splitBy]
    split
    · rename_i hc
      rw [hsep c hc, List.singleton_append, splitBy, if_pos hc, ih]
      rfl
    · rename_i hc
      obtain ⟨piece, pieces, h⟩ := List.exists_cons_of_ne_nil (splitBy_ne_nil f cs)
      rw [h, List.map_cons] at ih
      rw [h, splitBy_append_of_forall (hother c (by simpa using hc)) ih]
      rfl

/-! ### The first piece -/

lemma takeWhile_not_eq_iff : (cs.takeWhile fun c => !f c) = w ↔
    (∀ c ∈ w, f c = false) ∧ (cs = w ∨ ∃ c rest, f c = true ∧ cs = w ++ c :: rest) := by
  constructor
  · rintro rfl
    refine ⟨fun c hc => by simpa using List.mem_takeWhile_imp hc, ?_⟩
    have hsplit : cs = (cs.takeWhile fun c => !f c) ++ cs.dropWhile fun c => !f c :=
      List.takeWhile_append_dropWhile.symm
    cases hrest : cs.dropWhile fun c => !f c with
    | nil =>
      rw [hrest, List.append_nil] at hsplit
      exact .inl hsplit
    | cons c rest =>
      rw [hrest] at hsplit
      have hc := List.head?_dropWhile_not (fun c => !f c) cs
      rw [hrest] at hc
      exact .inr ⟨c, rest, by simpa using hc, hsplit⟩
  · rintro ⟨hw, rfl | ⟨c, rest, hc, rfl⟩⟩
    · exact List.takeWhile_eq_self_iff.2 fun c hc => by simp [hw c hc]
    · rw [List.takeWhile_append_of_pos fun c hc => by simp [hw c hc],
        List.takeWhile_cons_of_neg (by simp [hc]), List.append_nil]

lemma head?_splitBy (f : Char → Bool) (cs : List Char) :
    (splitBy f cs).head? = some (cs.takeWhile fun c => !f c) := by
  induction cs with
  | nil => rfl
  | cons c cs ih =>
    rw [splitBy]
    split
    · rename_i hc
      simp [hc]
    · rename_i hc
      obtain ⟨piece, pieces, h⟩ := List.exists_cons_of_ne_nil (splitBy_ne_nil f cs)
      rw [h, List.head?_cons, Option.some.injEq] at ih
      simp [h, hc, ih]

lemma head?_splitBy_eq_some_iff : (splitBy f cs).head? = some w ↔
    (∀ c ∈ w, f c = false) ∧ (cs = w ∨ ∃ c rest, f c = true ∧ cs = w ++ c :: rest) := by
  rw [head?_splitBy, Option.some.injEq, takeWhile_not_eq_iff]

end ViewLayers.Text
