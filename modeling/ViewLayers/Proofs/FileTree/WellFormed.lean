import Mathlib.Data.List.Pairwise
import ViewLayers.FileTree
import ViewLayers.Proofs.Text.Pieces

/-!
Well-formed trees. The names in a directory are names of files, each stands there once, and they
stand in order. Every tree that is built from paths is well-formed, and in such a tree the entries
of a directory are exactly what its names lead to.
-/

namespace ViewLayers

namespace FileTree

/-- A name that a directory can hold. -/
def ProperName (n : String) : Prop := n ≠ "" ∧ n ≠ "." ∧ n ≠ ".." ∧ '/' ∉ n.toList

instance (n : String) : Decidable (ProperName n) := inferInstanceAs (Decidable (_ ∧ _))

end FileTree

namespace Node

open FileTree

mutual

def WellFormed : Node → Prop
  | .file _ | .link _ => True
  | .directory cs => WellFormedChildren cs

def WellFormedChildren : List (String × Node) → Prop
  | [] => True
  | (n, t) :: cs => ProperName n ∧ t.WellFormed ∧ (∀ c ∈ cs, n < c.1) ∧ WellFormedChildren cs

end

variable {t c : Node} {cs : List (String × Node)} {n : String} {names : List String}

lemma WellFormedChildren.pairwise (h : WellFormedChildren cs) : cs.Pairwise (·.1 < ·.1) := by
  induction cs with
  | nil => exact .nil
  | cons c cs ih => exact .cons h.2.2.1 (ih h.2.2.2)

lemma WellFormedChildren.of_mem (h : WellFormedChildren cs) (hc : (n, c) ∈ cs) :
    ProperName n ∧ c.WellFormed := by
  induction cs with
  | nil => simp at hc
  | cons d cs ih =>
    rcases List.mem_cons.1 hc with rfl | hc
    · exact ⟨h.1, h.2.1⟩
    · exact ih h.2.2.2 hc

lemma WellFormed.child?_eq_some_iff (h : t.WellFormed) :
    t.child? n = some c ↔ (n, c) ∈ t.children := by
  unfold child?
  cases t with
  | file | link => simp [children]
  | directory cs =>
    rw [children]
    rw [WellFormed] at h
    induction cs with
    | nil => simp
    | cons d cs ih =>
      obtain ⟨m, d⟩ := d
      obtain ⟨-, -, hlt, hcs⟩ := h
      by_cases hm : m = n
      · subst hm
        have hnot : (m, c) ∉ cs := fun hc => absurd (hlt _ hc) (String.lt_irrefl m)
        simp [hnot, eq_comm]
      · have hne : ¬ n = m := fun he => hm he.symm
        simpa [hm, hne] using ih hcs

lemma WellFormed.of_child? (h : t.WellFormed) (hc : t.child? n = some c) :
    ProperName n ∧ c.WellFormed := by
  have hmem := h.child?_eq_some_iff.1 hc
  cases t with
  | file | link => simp [children] at hmem
  | directory cs => exact WellFormedChildren.of_mem h hmem

@[simp] lemma node?_nil (t : Node) : t.node? [] = some t := rfl

lemma node?_cons (t : Node) (n : String) (names : List String) :
    t.node? (n :: names) = (t.child? n).bind (·.node? names) := rfl

lemma node?_append (t : Node) (ns ms : List String) :
    t.node? (ns ++ ms) = (t.node? ns).bind (·.node? ms) := by
  induction ns generalizing t with
  | nil => rfl
  | cons n ns ih =>
    rw [List.cons_append, node?_cons, node?_cons, Option.bind_assoc]
    exact Option.bind_congr fun d _ => ih d

lemma node?_concat (t : Node) (ns : List String) (n : String) :
    t.node? (ns ++ [n]) = (t.node? ns).bind (·.child? n) := by
  rw [node?_append]
  exact Option.bind_congr fun d _ => Option.bind_fun_some (d.child? n)

lemma WellFormed.node? (h : t.WellFormed) (hn : t.node? names = some c) : c.WellFormed := by
  induction names generalizing t with
  | nil =>
    cases hn
    exact h
  | cons n names ih =>
    obtain ⟨d, hd, hn⟩ := Option.bind_eq_some_iff.1 hn
    exact ih (h.of_child? hd).2 hn

/-! ### How many nodes there are -/

mutual

/-- The chains of names that lead to nodes. -/
def chains : Node → List (List String)
  | .file _ | .link _ => [[]]
  | .directory cs => [] :: chainsOfChildren cs

def chainsOfChildren : List (String × Node) → List (List String)
  | [] => []
  | (n, t) :: cs => t.chains.map (n :: ·) ++ chainsOfChildren cs

end

mutual

theorem length_chains : (t : Node) → t.chains.length = t.size
  | .file _ | .link _ => rfl
  | .directory cs => by
    rw [chains, size, List.length_cons, length_chainsOfChildren cs, Nat.add_comm]

theorem length_chainsOfChildren : (cs : List (String × Node)) →
    (chainsOfChildren cs).length = sizeOfChildren cs
  | [] => rfl
  | (n, t) :: cs => by
    rw [chainsOfChildren, sizeOfChildren, List.length_append, List.length_map, length_chains t,
      length_chainsOfChildren cs]

end

lemma size_pos (t : Node) : 0 < t.size := by
  cases t <;> simp only [size] <;> omega

lemma size_le_of_mem (h : (n, c) ∈ cs) : c.size ≤ sizeOfChildren cs := by
  induction cs with
  | nil => simp at h
  | cons d cs ih =>
    obtain ⟨m, d⟩ := d
    rw [sizeOfChildren]
    rcases List.mem_cons.1 h with heq | h
    · cases heq
      omega
    · have := ih h
      omega

lemma mem_chainsOfChildren (h : (n, c) ∈ cs) (hn : names ∈ c.chains) :
    n :: names ∈ chainsOfChildren cs := by
  induction cs with
  | nil => simp at h
  | cons d cs ih =>
    rw [chainsOfChildren, List.mem_append]
    rcases List.mem_cons.1 h with rfl | h
    · exact .inl (List.mem_map_of_mem hn)
    · exact .inr (ih h)

lemma mem_of_child? (h : t.child? n = some c) : (n, c) ∈ t.children := by
  obtain ⟨⟨m, d⟩, hm, rfl⟩ := Option.map_eq_some_iff.1 h
  obtain rfl : m = n := by simpa using List.find?_some hm
  exact List.mem_of_find?_eq_some hm

/-- Names go down: there are fewer of them than nodes. -/
lemma length_lt_of_node? (h : t.node? names = some c) : names.length < t.size := by
  induction names generalizing t with
  | nil => exact size_pos t
  | cons n names ih =>
    obtain ⟨d, hd, hn⟩ := Option.bind_eq_some_iff.1 h
    have hlt := ih hn
    have hmem := mem_of_child? hd
    cases t with
    | file | link => simp [children] at hmem
    | directory cs =>
      rw [children] at hmem
      have hle := size_le_of_mem hmem
      rw [size, List.length_cons]
      omega

lemma mem_chains_of_node? (h : t.node? names = some c) : names ∈ t.chains := by
  induction names generalizing t with
  | nil => cases t <;> simp [chains]
  | cons n names ih =>
    obtain ⟨d, hd, hn⟩ := Option.bind_eq_some_iff.1 h
    have hmem := mem_of_child? hd
    cases t with
    | file | link => simp [children] at hmem
    | directory cs =>
      rw [chains, List.mem_cons]
      exact .inr (mem_chainsOfChildren hmem (ih hn))

/-! ### Trees that are built -/

lemma lt_of_mem_putChild {m : String} {node : Node} (hn : n < m) (h : ∀ d ∈ cs, n < d.1) :
    ∀ d ∈ putChild m node cs, n < d.1 := by
  induction cs with
  | nil => simpa [putChild] using hn
  | cons d cs ih =>
    obtain ⟨m', d⟩ := d
    rw [List.forall_mem_cons] at h
    rw [putChild]
    split
    · exact List.forall_mem_cons.2 ⟨hn, List.forall_mem_cons.2 h⟩
    · split
      · exact List.forall_mem_cons.2 ⟨hn, h.2⟩
      · exact List.forall_mem_cons.2 ⟨h.1, ih h.2⟩

lemma WellFormedChildren.putChild {node : Node} (h : WellFormedChildren cs)
    (hn : ProperName n) (hnode : node.WellFormed) : WellFormedChildren (putChild n node cs) := by
  induction cs with
  | nil => exact ⟨hn, hnode, by simp, trivial⟩
  | cons d cs ih =>
    obtain ⟨m, d⟩ := d
    obtain ⟨hm, hd, hlt, hcs⟩ := h
    rw [Node.putChild]
    split
    · rename_i hnm
      refine ⟨hn, hnode, List.forall_mem_cons.2 ⟨hnm, fun c hc => ?_⟩, hm, hd, hlt, hcs⟩
      exact String.lt_trans hnm (hlt c hc)
    · rename_i hnm
      split
      · rename_i heq
        obtain rfl : n = m := by simpa using heq
        exact ⟨hn, hnode, hlt, hcs⟩
      · rename_i hne
        have hmn : m < n := Std.lt_of_le_of_ne (String.not_lt.1 hnm) fun he => hne (by simp [he])
        exact ⟨hm, hd, lt_of_mem_putChild hmn hlt, ih hcs⟩

lemma WellFormed.children (h : t.WellFormed) : WellFormedChildren t.children := by
  cases t with
  | directory cs => exact h
  | _ => trivial

lemma wellFormed_empty : empty.WellFormed := trivial

lemma WellFormed.put {node : Node} (h : t.WellFormed) (hnode : node.WellFormed)
    (hn : ∀ n ∈ names, ProperName n) : (t.put node names).WellFormed := by
  induction names generalizing t with
  | nil =>
    unfold Node.put
    split
    · exact h
    · exact hnode
  | cons n names ih =>
    rw [List.forall_mem_cons] at hn
    rw [Node.put]
    refine h.children.putChild hn.1 (ih ?_ hn.2)
    cases hc : t.child? n with
    | none => exact wellFormed_empty
    | some c => exact (h.of_child? hc).2

end Node

namespace FileTree

variable {t : FileTree} {c : Node} {n : String} {ns ms : List String}

def WellFormed (t : FileTree) : Prop := t.top.WellFormed

@[simp] lemma node?_nil (t : FileTree) : t.node? [] = some t.top := rfl

lemma node?_append (t : FileTree) (ns ms : List String) :
    t.node? (ns ++ ms) = (t.node? ns).bind (·.node? ms) := t.top.node?_append ns ms

lemma node?_concat (t : FileTree) (ns : List String) (n : String) :
    t.node? (ns ++ [n]) = (t.node? ns).bind (·.child? n) := t.top.node?_concat ns n

lemma WellFormed.node? (h : t.WellFormed) (hn : t.node? ns = some c) : c.WellFormed :=
  Node.WellFormed.node? h hn

lemma properName_of_node? (h : t.WellFormed) (hn : t.node? (ns ++ [n]) = some c) :
    ProperName n := by
  rw [node?_concat] at hn
  obtain ⟨d, hd, hn⟩ := Option.bind_eq_some_iff.1 hn
  exact ((h.node? hd).of_child? hn).1

lemma properName_of_mem_pieces {p : Path} {piece : List Char} (hp : piece ∈ p.pieces)
    (h : Step.ofPiece piece = some (.name n)) : ProperName n := by
  have hslash : '/' ∉ piece := fun hm => by
    have := Text.not_of_mem_splitBy hp hm
    simp [Path.isSlash] at this
  unfold Step.ofPiece at h
  split at h
  · cases h
  · cases h
  · cases h
  · rename_i hnil hdot hdots
    obtain rfl : String.ofList piece = n := by simpa using h
    refine ⟨fun h => hnil ?_, fun h => hdot ?_, fun h => hdots ?_, ?_⟩
    · simpa using congrArg String.toList h
    · simpa using congrArg String.toList h
    · simpa using congrArg String.toList h
    · rwa [String.toList_ofList]

lemma properName_of_mem_namesOf {p : Path} (h : n ∈ namesOf p) : ProperName n := by
  obtain ⟨s, hs, hn⟩ := List.mem_filterMap.1 h
  obtain rfl : s = .name n := by
    cases s <;> simp_all
  rw [Path.steps, List.mem_append] at hs
  rcases hs with hs | hs
  · split at hs
    · simp at hs
    · split at hs <;> simp at hs
  · obtain ⟨piece, hpiece, hstep⟩ := List.mem_filterMap.1 hs
    exact properName_of_mem_pieces hpiece hstep

/-- In a tree that is being built the directory that paths start from has proper names as well. -/
def Sound (t : FileTree) : Prop := t.WellFormed ∧ ∀ n ∈ t.start, ProperName n

lemma Sound.put {node : Node} {p : Path} (h : t.Sound) (hnode : node.WellFormed) :
    (t.put node p).Sound := by
  refine ⟨Node.WellFormed.put h.1 hnode fun n hn => ?_, h.2⟩
  rw [startOf, List.mem_append] at hn
  rcases hn with hn | hn
  · split at hn
    · cases hn
    · exact h.2 n hn
  · exact properName_of_mem_namesOf hn

/-- **Every tree that is built is well-formed.** -/
theorem wellFormed_build (dirs : List Path) (files : List (Path × Option String))
    (links : List (Path × Path)) : (build dirs files links).WellFormed := by
  have hfold : ∀ {α : Type} (path : α → Path) (node : α → Node) (as : List α)
      (t : FileTree), t.Sound → (∀ a ∈ as, (node a).WellFormed) →
      (as.foldl (fun t a => t.put (node a) (path a)) t).Sound := by
    intro α path node as
    induction as with
    | nil => exact fun t ht _ => ht
    | cons a as ih =>
      intro t ht hnode
      rw [List.forall_mem_cons] at hnode
      exact ih _ (ht.put hnode.1) hnode.2
  have hstart : ∀ n ∈ [startName], ProperName n := by decide
  have hempty : (⟨Node.empty.put .empty [startName], [startName]⟩ : FileTree).Sound :=
    ⟨Node.wellFormed_empty.put Node.wellFormed_empty hstart, hstart⟩
  have hdirs := hfold id (fun _ => .empty) dirs _ hempty fun _ _ => Node.wellFormed_empty
  have hfiles := hfold Prod.fst (fun x => .file x.2) files _ hdirs fun _ _ => trivial
  exact (hfold Prod.fst (fun x => .link x.2) links _ hfiles fun _ _ => trivial).1

end FileTree

end ViewLayers
