import ViewLayers.Proofs.Path.Steps

/-!
What lies below a path. The steps of a path are its moves, with `/` or `.` before them perhaps; what
is below another path goes on from the steps of that one, by moves alone unless the other path is
empty.
-/

namespace ViewLayers

/-- The name that a step goes along. -/
def Step.name? : Step → Option String
  | .name n => some n
  | _ => none

namespace Path

open Text FileTree

variable {p q root file : Path} {ss : List Step}

/-! ### What stands before the moves -/

/-- The step before the moves of a path, if any. -/
def lead (p : Path) : List Step :=
  if p.pieces.head? = some ['.'] then [.here] else if p.isAbsolute then [.root] else []

lemma steps_eq (p : Path) : p.steps = p.lead ++ p.moves := by
  unfold steps lead moves
  dsimp only
  split
  · rename_i rest h
    rw [h]
    rfl
  · rename_i h
    have hhead : p.pieces.head? ≠ some ['.'] := fun hhead =>
      have ⟨rest, hrest⟩ := List.head?_eq_some_iff.1 hhead
      h rest hrest
    rw [if_neg hhead]

lemma mem_lead {s : Step} (h : s ∈ p.lead) : s = .here ∨ s = .root ∧ p.isAbsolute = true := by
  unfold lead at h
  split at h
  · exact .inl (List.mem_singleton.1 h)
  · split at h
    · exact .inr ⟨List.mem_singleton.1 h, ‹_›⟩
    · exact absurd h List.not_mem_nil

lemma length_lead_le (p : Path) : p.lead.length ≤ 1 := by
  unfold lead
  split
  · exact Nat.le_refl 1
  · split <;> decide

lemma root_not_mem_moves : Step.root ∉ p.moves := fun h => by
  rcases eq_up_or_name_of_mem_moves h with hs | ⟨n, hs, -⟩ <;> exact Step.noConfusion hs

/-! ### Below a path -/

lemma below?_eq_some_iff : root.below? file = some ss ↔ file.steps = root.steps ++ ss := by
  unfold below?
  split
  · rename_i h
    obtain ⟨rest, hrest⟩ := List.isPrefixOf_iff_prefix.1 h
    rw [← hrest, List.drop_left, Option.some.injEq, List.append_cancel_left_eq]
  · rename_i h
    refine ⟨nofun, fun (he : file.steps = root.steps ++ ss) => absurd ?_ h⟩
    exact List.isPrefixOf_iff_prefix.2 ⟨ss, he.symm⟩

lemma mem_moves_of_below (h : file.steps = root.steps ++ ss) (hroot : root.steps ≠ []) :
    ∀ s ∈ ss, s ∈ file.moves := by
  have hbelow : ss <:+ file.steps := ⟨root.steps, h.symm⟩
  have hmoves : file.moves <:+ file.steps := ⟨file.lead, (steps_eq file).symm⟩
  have hlength : ss.length ≤ file.moves.length := by
    have hboth := congrArg List.length h
    rw [steps_eq, List.length_append, List.length_append] at hboth
    have hlead := length_lead_le file
    have hpos := List.length_pos_iff.2 hroot
    omega
  have hsuffix := List.suffix_of_suffix_length_le hbelow hmoves hlength
  exact fun s hs => hsuffix.subset hs

lemma head?_pieces_join (hp : p.text ≠ "") (hq : q.isAbsolute = false) :
    (p.join q).pieces.head? = p.pieces.head? := by
  have hne : ∀ cs, splitBy isSlash cs ≠ [] := fun cs => splitBy_ne_nil isSlash cs
  have hempty : p.text.isEmpty = false := by simpa using hp
  unfold join
  rw [if_neg (by simp [hq]), hempty, Bool.false_or]
  split
  · rename_i hlast
    have hlast : p.text.toList.getLast? = some '/' := by simpa using hlast
    obtain ⟨us, hu⟩ := List.getLast?_eq_some_iff.1 hlast
    rw [pieces, pieces, String.toList_append, hu, List.append_assoc, List.singleton_append,
      splitBy_append_sep _ _ _ rfl, splitBy_append_sep _ _ _ rfl,
      List.head?_append_of_ne_nil _ (hne _), List.head?_append_of_ne_nil _ (hne _)]
  · rw [pieces, pieces, String.toList_append, String.toList_append, List.append_assoc]
    have hsplit := splitBy_append_sep isSlash p.text.toList q.text.toList (c := '/') rfl
    exact (congrArg List.head? hsplit).trans (List.head?_append_of_ne_nil _ (hne _))

lemma steps_join (hp : p.text ≠ "") (hq : q.isAbsolute = false) :
    (p.join q).steps = p.steps ++ q.moves := by
  obtain ⟨habs, hmoves⟩ := moves_join (p := p) hq
  rw [steps_eq, steps_eq, hmoves, lead, lead, head?_pieces_join hp hq, habs, List.append_assoc]

lemma steps_join_name {n : String} (hp : p.text ≠ "") (hn : ProperName n) :
    (p.join ⟨n⟩).steps = p.steps ++ [.name n] := by
  have hslash : ∀ c ∈ n.toList, isSlash c = false := fun c hc => by
    simpa [isSlash] using ne_of_mem_of_not_mem hc hn.2.2.2
  have hrelative : (⟨n⟩ : Path).isAbsolute = false := by
    rw [isAbsolute, beq_eq_false_iff_ne]
    exact fun h => hn.2.2.2 (List.mem_of_head? h)
  have hmoves : (⟨n⟩ : Path).moves = [.name n] := by
    rw [moves, pieces, splitBy_eq_singleton hslash, List.filterMap_cons, Step.ofPiece_toList hn,
      List.filterMap_nil]
  rw [steps_join hp hrelative, hmoves]

lemma empty_join (q : Path) : (⟨""⟩ : Path).join q = q := by
  unfold join
  split
  · rfl
  · exact congrArg Path.mk (String.empty_append ..)

/-- What stands between a path and one that is joined to it. -/
def gap (p : Path) : String := if p.text.toList.getLast?.all (· == '/') then "" else "/"

lemma join_of_relative (hq : q.isAbsolute = false) : p.join q = ⟨p.text ++ p.gap ++ q.text⟩ := by
  have hend : (p.text.isEmpty || p.text.toList.getLast? == some '/') =
      p.text.toList.getLast?.all (· == '/') := by
    cases h : p.text.toList.getLast? with
    | none =>
      have hempty : p.text = "" := String.toList_inj.1 (List.getLast?_eq_none_iff.1 h)
      rw [hempty]
      rfl
    | some c =>
      have hne : p.text ≠ "" := fun he => by simp [he] at h
      simp [hne]
  rw [join, if_neg (by simp [hq]), hend, gap]
  split
  · rw [String.append_empty]
  · rfl

lemma gap_join (hq : q.isAbsolute = false) : (p.join q).gap = q.gap := by
  rw [join_of_relative hq]
  cases hlast : q.text.toList.getLast? with
  | some c => simp [gap, hlast]
  | none =>
    have hempty : q.text.toList = [] := List.getLast?_eq_none_iff.1 hlast
    cases hp : p.text.toList.getLast?.all (· == '/') <;>
      simp [gap, hempty, hp]

lemma join_assoc (p q r : Path) : (p.join q).join r = p.join (q.join r) := by
  cases hr : r.isAbsolute with
  | true => rw [join, if_pos hr, join.eq_1 q, if_pos hr, join, if_pos hr]
  | false =>
    cases hq : q.isAbsolute with
    | true =>
      have habs : (q.join r).isAbsolute = true := (moves_join hr).1.trans hq
      rw [join.eq_1 p q, if_pos hq, join.eq_1 p, if_pos habs]
    | false =>
      have hrel : (q.join r).isAbsolute = false := (moves_join hr).1.trans hq
      rw [join_of_relative hr, gap_join hq, join_of_relative hrel, join_of_relative hq,
        join_of_relative hr]
      simp only [String.append_assoc]

lemma filterMap_name?_steps (p : Path) :
    p.steps.filterMap Step.name? = p.moves.filterMap Step.name? := by
  have hlead : p.lead.filterMap Step.name? = [] := by
    rw [List.filterMap_eq_nil_iff]
    intro s hs
    rcases mem_lead hs with rfl | ⟨rfl, -⟩ <;> rfl
  rw [steps_eq, List.filterMap_append, hlead, List.nil_append]

/-- **A relative path lies below every path that it is joined to**, and the names on the way there
are its own. -/
theorem below?_join (root : Path) (hq : q.isAbsolute = false) :
    ∃ ss, root.below? (root.join q) = some ss ∧
      ss.filterMap Step.name? = q.moves.filterMap Step.name? := by
  by_cases hroot : root.text = ""
  · obtain ⟨text⟩ := root
    subst hroot
    refine ⟨q.steps, below?_eq_some_iff.2 ?_, filterMap_name?_steps q⟩
    rw [empty_join]
    rfl
  · exact ⟨q.moves, below?_eq_some_iff.2 (steps_join hroot hq), rfl⟩

/-- **A file name is kept where its path is joined to another.** -/
theorem fileName?_join {n : String} (root : Path) (hq : q.isAbsolute = false)
    (hn : q.fileName? = some n) : (root.join q).fileName? = some n := by
  by_cases hroot : root.text = ""
  · obtain ⟨text⟩ := root
    subst hroot
    rwa [empty_join]
  · have hlast : q.steps.getLast? = some (.name n) := by
      unfold fileName? at hn
      split at hn
      · rename_i s hs
        rw [hs, Option.some.inj hn]
      · exact absurd hn nofun
    have hmoves : q.moves.getLast? = some (.name n) := by
      rw [steps_eq, List.getLast?_append] at hlast
      cases hm : q.moves.getLast? with
      | some s => rwa [hm, Option.some_or] at hlast
      | none =>
        rw [hm, Option.none_or] at hlast
        rcases mem_lead (List.mem_of_getLast? hlast) with hs | ⟨hs, -⟩ <;> exact Step.noConfusion hs
    rw [fileName?, steps_join hroot hq, List.getLast?_append, hmoves]
    rfl

end Path

end ViewLayers
