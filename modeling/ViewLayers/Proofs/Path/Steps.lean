import Mathlib.Data.List.Basic
import ViewLayers.Proofs.FileTree.WellFormed

/-!
The steps of a path. They are told by its pieces and by whether it is absolute; those of a joined
path are those of its parts, one after the other; and a path that is written from names gives the
names back.
-/

namespace ViewLayers

open Text FileTree

namespace Step

lemma ofPiece_eq_name {w : List Char} (hnil : w ≠ []) (hdot : w ≠ ['.']) (hdots : w ≠ ['.', '.']) :
    ofPiece w = some (.name (String.ofList w)) := by
  unfold ofPiece
  split <;> first | rfl | contradiction

lemma ofPiece_toList {n : String} (hn : ProperName n) : ofPiece n.toList = some (.name n) := by
  have hne : ∀ cs, String.ofList cs ≠ n → n.toList ≠ cs := fun cs h he => h (by simp [← he])
  rw [ofPiece_eq_name (hne [] hn.1.symm) (hne ['.'] hn.2.1.symm) (hne ['.', '.'] hn.2.2.1.symm),
    String.ofList_toList]

end Step

namespace Path

variable {p q : Path} {n : String} {ns : List String}

/-! ### What stands first, and what follows -/

/-- The steps up and the names of a path. -/
def moves (p : Path) : List Step := p.pieces.filterMap Step.ofPiece

lemma eq_up_or_name_of_mem_moves {s : Step} (h : s ∈ p.moves) :
    s = .up ∨ ∃ n, s = .name n ∧ ProperName n := by
  obtain ⟨piece, hp, hs⟩ := List.mem_filterMap.1 h
  cases s with
  | up => exact .inl rfl
  | name n => exact .inr ⟨n, rfl, properName_of_mem_pieces hp hs⟩
  | root => unfold Step.ofPiece at hs; split at hs <;> simp at hs
  | here => unfold Step.ofPiece at hs; split at hs <;> simp at hs

lemma foldl_moves {β γ : Type} {R : β → γ → Prop} {f : β → Step → β} {g : γ → Step → γ} {b : β}
    {c : γ} (h : R b c) (hup : ∀ b c, R b c → R (f b .up) (g c .up))
    (hname : ∀ n b c, ProperName n → R b c → R (f b (.name n)) (g c (.name n))) :
    R (p.moves.foldl f b) (p.moves.foldl g c) := by
  have hall : ∀ (ss : List Step) (b : β) (c : γ), (∀ s ∈ ss, s ∈ p.moves) → R b c →
      R (ss.foldl f b) (ss.foldl g c) := by
    intro ss
    induction ss with
    | nil => exact fun _ _ _ h => h
    | cons s ss ih =>
      intro b c hs h
      rw [List.forall_mem_cons] at hs
      refine ih _ _ hs.2 ?_
      rcases eq_up_or_name_of_mem_moves hs.1 with rfl | ⟨n, rfl, hn⟩
      · exact hup b c h
      · exact hname n b c hn h
  exact hall p.moves b c (fun _ hs => hs) h

/-- A way to go through the steps of paths: `.` stays where it is, and `/` starts anew. -/
structure Walk (β : Type) where
  go : β → Step → β
  here : ∀ b, go b .here = b
  root : ∀ b b', go b .root = go b' .root

variable {β : Type} (w : Walk β) (b : β)

/-- Where a path leads in a walk that stands at `b`. -/
def Walk.along (p : Path) : β := p.steps.foldl w.go b

lemma Walk.along_eq (p : Path) :
    w.along b p = p.moves.foldl w.go (if p.isAbsolute then w.go b .root else b) := by
  unfold along steps moves
  dsimp only
  split
  · rename_i rest hpieces
    have hrel : p.isAbsolute = false := by
      unfold pieces at hpieces
      unfold isAbsolute
      cases h : p.text.toList with
      | nil => rfl
      | cons c cs =>
        rw [h, splitBy] at hpieces
        split at hpieces
        · simp at hpieces
        · rename_i hc
          simpa [isSlash] using hc
    simp [hrel, w.here]
  · split <;> simp_all

/-! ### Joined paths -/

lemma moves_join (h : q.isAbsolute = false) :
    (p.join q).isAbsolute = p.isAbsolute ∧ (p.join q).moves = p.moves ++ q.moves := by
  unfold join
  rw [if_neg (by simp [h])]
  by_cases he : p.text = ""
  · have hp : p = ⟨""⟩ := by cases p; simpa using he
    subst hp
    simp [moves, pieces, splitBy, Step.ofPiece, isAbsolute] at h ⊢
    simpa using h
  · obtain ⟨c, cs, hc⟩ : ∃ c cs, p.text.toList = c :: cs := by
      cases h : p.text.toList with
      | nil => exact absurd (String.toList_inj.1 h) he
      | cons c cs => exact ⟨c, cs, rfl⟩
    have hempty : p.text.isEmpty = false := by simpa using he
    rw [hempty, Bool.false_or]
    split
    · rename_i hlast
      have hlast : p.text.toList.getLast? = some '/' := by simpa using hlast
      obtain ⟨us, hu⟩ := List.getLast?_eq_some_iff.1 hlast
      refine ⟨by simp [isAbsolute, hc], ?_⟩
      rw [moves, moves, moves, pieces, pieces, pieces, String.toList_append, hu, List.append_assoc,
        List.singleton_append, splitBy_append_sep _ _ _ rfl, splitBy_append_sep _ _ _ rfl,
        List.filterMap_append, List.filterMap_append]
      simp [splitBy, Step.ofPiece]
    · refine ⟨by simp [isAbsolute, hc], ?_⟩
      rw [moves, moves, moves, pieces, String.toList_append, String.toList_append,
        List.append_assoc, ← List.filterMap_append]
      exact congrArg _ (splitBy_append_sep isSlash p.text.toList q.text.toList (c := '/') rfl)

/-- **A joined path leads where its second part leads** from the end of the first. -/
theorem Walk.along_join (p q : Path) : w.along b (p.join q) = w.along (w.along b p) q := by
  cases hq : q.isAbsolute with
  | false =>
    obtain ⟨habs, hmoves⟩ := moves_join (p := p) hq
    rw [w.along_eq, w.along_eq, w.along_eq, habs, hmoves, List.foldl_append, hq]
    rfl
  | true =>
    rw [join, if_pos hq, w.along_eq, w.along_eq, hq, if_pos rfl, if_pos rfl, w.root]

/-! ### Paths written from names -/

/-- The path of names, from the root or from anywhere. -/
def ofNames (absolute : Bool) (ns : List String) : Path :=
  ofSteps ((if absolute then [.root] else []) ++ ns.map .name)

lemma filterMap_ofPiece_names (h : ∀ n ∈ ns, ProperName n) :
    (ns.map String.toList).filterMap Step.ofPiece = ns.map .name := by
  rw [List.filterMap_map, ← List.filterMap_eq_map]
  exact List.filterMap_congr fun n hn => Step.ofPiece_toList (h n hn)

lemma splitBy_names (h : ∀ n ∈ ns, ProperName n) (hne : ns ≠ []) :
    splitBy isSlash (joinWith "/" ns).toList = ns.map String.toList := by
  refine splitBy_joinWith rfl rfl hne fun n hn c hc => ?_
  simpa [isSlash] using ne_of_mem_of_not_mem hc (h n hn).2.2.2

lemma text_ofNames (absolute : Bool) (ns : List String) :
    (ofNames absolute ns).text = (if absolute then "/" else "") ++ joinWith "/" ns := by
  have htexts : (ns.map Step.name).map Step.text = ns := by
    rw [List.map_map]
    exact List.map_id ns
  cases absolute with
  | true => exact congrArg ("/" ++ joinWith "/" ·) htexts
  | false =>
    rw [if_neg Bool.false_ne_true, String.empty_append]
    cases ns with
    | nil => rfl
    | cons n ns => exact congrArg (joinWith "/") htexts

lemma isAbsolute_ofNames (absolute : Bool) (h : ∀ n ∈ ns, ProperName n) :
    (ofNames absolute ns).isAbsolute = absolute := by
  rw [isAbsolute, text_ofNames]
  cases absolute with
  | true => simp
  | false =>
    rw [if_neg Bool.false_ne_true, String.empty_append]
    cases ns with
    | nil => rfl
    | cons n ns =>
      by_contra habs
      rw [Bool.not_eq_false, beq_iff_eq] at habs
      obtain ⟨cs, hcs⟩ := List.head?_eq_some_iff.1 habs
      have hsplit := splitBy_names h (List.cons_ne_nil n ns)
      have hhead : splitBy isSlash ('/' :: cs) = [] :: splitBy isSlash cs := rfl
      rw [hcs, hhead, List.map_cons] at hsplit
      exact (h n List.mem_cons_self).1 (String.toList_inj.1 (List.cons.inj hsplit).1.symm)

/-- **Names are read back from the path that is written from them.** -/
theorem steps_ofNames (absolute : Bool) (h : ∀ n ∈ ns, ProperName n) :
    (ofNames absolute ns).steps = (if absolute then [.root] else []) ++ ns.map .name := by
  have hpieces : ns ≠ [] → splitBy isSlash (joinWith "/" ns).toList = ns.map String.toList :=
    splitBy_names h
  rw [steps, isAbsolute_ofNames absolute h, pieces, text_ofNames]
  cases absolute with
  | true =>
    have hhead : splitBy isSlash ("/" ++ joinWith "/" ns).toList =
        [] :: splitBy isSlash (joinWith "/" ns).toList := by
      rw [String.toList_append]
      rfl
    rw [if_pos rfl, if_pos rfl, hhead, List.filterMap_cons]
    by_cases hne : ns = []
    · subst hne
      rfl
    · rw [hpieces hne, filterMap_ofPiece_names h]
      rfl
  | false =>
    rw [if_neg Bool.false_ne_true, if_neg Bool.false_ne_true, String.empty_append]
    cases ns with
    | nil => rfl
    | cons n ns =>
      have hdot : n.toList ≠ ['.'] := fun he =>
        (h n List.mem_cons_self).2.1 (String.toList_inj.1 he)
      rw [hpieces (List.cons_ne_nil _ _), filterMap_ofPiece_names h]
      simp [hdot]

end Path

end ViewLayers
