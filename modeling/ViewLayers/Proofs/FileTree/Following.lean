import ViewLayers.FileTree.Resolve
import ViewLayers.Proofs.FileTree.WellFormed

/-!
Following paths one name further. Where a path leads to, and how many links it may still lead
through, decides where it leads with one more name: into the directory below, or through one link
more.
-/

namespace ViewLayers

open Text

namespace Path

lemma pieces_join {p : Path} {n : String} (hp : p.text ≠ "") (hn : FileTree.ProperName n) :
    (p.join ⟨n⟩).isAbsolute = p.isAbsolute ∧ ∃ ps, ps ≠ [] ∧
      (p.pieces = ps ∨ p.pieces = ps ++ [[]]) ∧ (p.join ⟨n⟩).pieces = ps ++ [n.toList] := by
  obtain ⟨c, cs, hc⟩ : ∃ c cs, p.text.toList = c :: cs := by
    cases h : p.text.toList with
    | nil => exact absurd (String.toList_inj.1 h) hp
    | cons c cs => exact ⟨c, cs, rfl⟩
  have hslash : ∀ d ∈ n.toList, isSlash d = false := fun d hd => by
    simpa [isSlash] using ne_of_mem_of_not_mem hd hn.2.2.2
  have hsingle := splitBy_eq_singleton hslash
  have hrelative : (⟨n⟩ : Path).isAbsolute = false := by
    cases hl : n.toList with
    | nil => simp [isAbsolute, hl]
    | cons d ds =>
      have := hslash d (by simp [hl])
      simpa [isAbsolute, hl, isSlash] using this
  have hempty : p.text.isEmpty = false := by simpa using hp
  unfold join
  rw [hrelative, if_neg Bool.false_ne_true, hempty, Bool.false_or]
  split
  · rename_i hlast
    have hlast : p.text.toList.getLast? = some '/' := by simpa using hlast
    obtain ⟨us, hu⟩ := List.getLast?_eq_some_iff.1 hlast
    refine ⟨by simp [isAbsolute, hc], splitBy isSlash us, splitBy_ne_nil _ _, .inr ?_, ?_⟩
    · rw [pieces, hu, splitBy_append_sep _ _ _ rfl, splitBy]
    · rw [pieces, String.toList_append, hu, List.append_assoc, List.singleton_append,
        splitBy_append_sep _ _ _ rfl, hsingle]
  · refine ⟨by simp [isAbsolute, hc], splitBy isSlash p.text.toList, splitBy_ne_nil _ _, .inl rfl,
      ?_⟩
    rw [pieces, String.toList_append, String.toList_append, List.append_assoc]
    exact (splitBy_append_sep isSlash p.text.toList n.toList (c := '/') rfl).trans (by rw [hsingle])

lemma text_join_ne (p : Path) {n : String} (hn : n ≠ "") : (p.join ⟨n⟩).text ≠ "" := by
  unfold join
  split
  · exact hn
  · split
    · exact fun h => hn (String.append_eq_empty_iff.1 h).2
    · exact fun h => hn (String.append_eq_empty_iff.1 h).2

end Path

namespace FileTree

variable {t : FileTree} {p : Path} {n : String} {k : Nat} {place : Place}

/-- Where the pieces of a path lead to, and how many links may be followed from there. -/
def trace (t : FileTree) (links : Nat) (place : Place) : List String → Option (Nat × Place)
  | [] => some (links, place)
  | piece :: pieces =>
    if !t.isDirPlace place then none
    else if piece == "" || piece == "." then t.trace links place pieces
    else if piece == ".." then t.trace links place.dropLast pieces
    else match t.node? (place ++ [piece]) with
      | none => none
      | some (.link target) =>
        match links with
        | 0 => none
        | n + 1 => t.trace n (if target.isAbsolute then [] else place) (piecesOf target ++ pieces)
      | some _ => t.trace links (place ++ [piece]) pieces
termination_by pieces => (links, pieces.length)

lemma follow_nil (t : FileTree) (k : Nat) (place : Place) : t.follow k place [] = some place := by
  cases k <;> rfl

lemma follow_cons (t : FileTree) (k : Nat) (place : Place) (piece : String) (ps : List String) :
    t.follow k place (piece :: ps) =
      if !t.isDirPlace place then none
      else if piece == "" || piece == "." then t.follow k place ps
      else if piece == ".." then t.follow k place.dropLast ps
      else match t.node? (place ++ [piece]) with
        | none => none
        | some (.link target) =>
          match k with
          | 0 => none
          | n + 1 => t.follow n (if target.isAbsolute then [] else place) (piecesOf target ++ ps)
        | some _ => t.follow k (place ++ [piece]) ps := by
  cases k <;> rfl

lemma follow_eq_trace (t : FileTree) (k : Nat) (place : Place) (ps : List String) :
    t.follow k place ps = (t.trace k place ps).map Prod.snd := by
  fun_induction t.trace k place ps with
  | case1 => exact follow_nil ..
  | case8 _ _ _ _ _ _ _ d =>
    rw [follow_cons]
    cases d <;> simp_all
  | _ =>
    rw [follow_cons]
    simp_all

lemma trace_append (t : FileTree) (k : Nat) (place : Place) (ps qs : List String) :
    t.trace k place (ps ++ qs) = (t.trace k place ps).bind fun x => t.trace x.1 x.2 qs := by
  fun_induction t.trace k place ps with
  | case1 => rfl
  | case8 _ _ _ _ _ _ _ d =>
    rw [List.cons_append, trace.eq_def]
    cases d <;> simp_all
  | _ =>
    rw [List.cons_append, trace.eq_def]
    simp_all

/-- Where a path leads to, and how many links may be followed from there. -/
def reach (t : FileTree) (p : Path) : Option (Nat × Place) :=
  if p.text.isEmpty then none
  else t.trace maxLinks (t.startOf p) (piecesOf p)

lemma resolve?_eq_reach (t : FileTree) (p : Path) : t.resolve? p = (t.reach p).map Prod.snd := by
  unfold resolve? reach
  split
  · rfl
  · rw [follow_eq_trace]

lemma text_ne_of_reach {x : Nat × Place} (h : t.reach p = some x) : p.text ≠ "" := by
  rintro he
  rw [reach, he] at h
  simp at h

lemma reach_join (hp : p.text ≠ "") (hn : ProperName n) :
    t.reach (p.join ⟨n⟩) = (t.reach p).bind fun x => t.trace x.1 x.2 [n] := by
  obtain ⟨habs, ps, -, hpieces, hjoin⟩ := Path.pieces_join hp hn
  have hempty : p.text.isEmpty = false := by simpa using hp
  have hjoined : (p.join ⟨n⟩).text.isEmpty = false := by simpa using Path.text_join_ne p hn.1
  have hname : piecesOf (p.join ⟨n⟩) = ps.map String.ofList ++ [n] := by
    simp [piecesOf, hjoin]
  rw [reach, reach, hempty, hjoined, startOf, startOf, habs, hname, if_neg Bool.false_ne_true,
    if_neg Bool.false_ne_true, trace_append]
  rcases hpieces with hpieces | hpieces
  · rw [piecesOf, hpieces]
  · -- the empty last piece asks for a directory, and so does the name
    rw [piecesOf, hpieces, List.map_append, trace_append, Option.bind_assoc]
    refine Option.bind_congr fun x _ => ?_
    have hblank : [([] : List Char)].map String.ofList = [""] := rfl
    rw [hblank, trace.eq_def t x.1 x.2 [""], trace.eq_def t x.1 x.2 [n]]
    by_cases hdir : t.isDirPlace x.2 = true
    · simp [hdir, trace.eq_def t x.1 x.2 [n], trace.eq_def t x.1 x.2 []]
    · simp [hdir]

/-- A name leads to what the directory holds under it; a link uses up at least one of the links. -/
lemma trace_name (hdir : t.isDirPlace place = true) (hn : ProperName n) :
    t.trace k place [n] = match t.node? (place ++ [n]) with
      | none => none
      | some (.link target) =>
        match k with
        | 0 => none
        | k + 1 => t.trace k (if target.isAbsolute then [] else place) (piecesOf target)
      | some _ => some (k, place ++ [n]) := by
  rw [trace.eq_def]
  simp [hdir, hn.1, hn.2.1, hn.2.2.1, trace.eq_def _ _ _ []]

lemma trace_links_le {ps : List String} {x : Nat × Place} (h : t.trace k place ps = some x) :
    x.1 ≤ k := by
  fun_induction t.trace k place ps with
  | case1 =>
    cases h
    exact Nat.le_refl _
  | _ => grind

/-! ### From a directory to what it holds -/

/-- What stands under a name in the directory that a path leads to. -/
def nodeAt? (t : FileTree) (dir : Path) (n : String) : Option Node :=
  (t.resolve? dir).bind fun place => t.node? (place ++ [n])

lemma isDir_iff : t.isDir p = true ↔ ∃ q, t.resolve? p = some q ∧ t.isDirPlace q = true := by
  rw [isDir, Option.any_eq_true]

lemma isDirPlace_iff :
    t.isDirPlace place = true ↔ ∃ cs, t.node? place = some (.directory cs) := by
  rw [isDirPlace]
  rcases t.node? place with _ | _ | _ | cs <;> simp

lemma exists_reach (h : t.resolve? p = some place) : ∃ k, t.reach p = some (k, place) := by
  rw [resolve?_eq_reach, Option.map_eq_some_iff] at h
  obtain ⟨⟨k, q⟩, h, rfl⟩ := h
  exact ⟨k, h⟩

lemma reach_join_of_not_link (h : t.reach p = some (k, place))
    (hdir : t.isDirPlace place = true) (hn : ProperName n) {c : Node}
    (hc : t.node? (place ++ [n]) = some c) (hlink : ∀ target, c ≠ .link target) :
    t.reach (p.join ⟨n⟩) = some (k, place ++ [n]) := by
  rw [reach_join (text_ne_of_reach h) hn, h, Option.bind_some, trace_name hdir hn, hc]
  cases c with
  | link target => exact absurd rfl (hlink target)
  | _ => rfl

/-- One name more uses up one of the links at least, or leads down where the name says. -/
lemma reach_join_cases (h : t.reach p = some (k, place))
    (hdir : t.isDirPlace place = true) (hn : ProperName n) {c : Node}
    (hc : t.node? (place ++ [n]) = some c) {x : Nat × Place} (hx : t.reach (p.join ⟨n⟩) = some x) :
    (∃ target, c = .link target) ∧ x.1 < k ∨ x = (k, place ++ [n]) := by
  by_cases hlink : ∃ target, c = .link target
  · refine .inl ⟨hlink, ?_⟩
    obtain ⟨target, rfl⟩ := hlink
    rw [reach_join (text_ne_of_reach h) hn, h, Option.bind_some, trace_name hdir hn, hc] at hx
    cases k with
    | zero => cases hx
    | succ k => exact Nat.lt_succ_of_le (trace_links_le hx)
  · rw [reach_join_of_not_link h hdir hn hc fun target ht => hlink ⟨target, ht⟩] at hx
    exact .inr (Option.some.inj hx).symm

end FileTree

end ViewLayers
