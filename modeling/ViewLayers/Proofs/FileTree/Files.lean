import ViewLayers.Proofs.FileTree.Walking

/-!
Files. A path leads to a directory or to a file, never to a link; so the files that are listed in a
directory are those that its path leads to with a name put after it.
-/

namespace ViewLayers

/-! ### Nodes without links -/

namespace Node

mutual

/-- Whether there is a link in what a node holds. -/
def hasLink : Node → Bool
  | .file _ => false
  | .link _ => true
  | .directory cs => anyHasLink cs

def anyHasLink : List (String × Node) → Bool
  | [] => false
  | (_, t) :: cs => t.hasLink || anyHasLink cs

end

variable {t c : Node} {cs : List (String × Node)} {n : String} {names : List String}

lemma hasLink_eq_false_of_mem (h : anyHasLink cs = false) (hc : (n, c) ∈ cs) :
    c.hasLink = false := by
  induction cs with
  | nil => cases hc
  | cons x cs ih =>
    rw [anyHasLink, Bool.or_eq_false_iff] at h
    rcases List.mem_cons.1 hc with rfl | hc
    · exact h.1
    · exact ih h.2 hc

lemma hasLink_eq_false_of_node? (h : t.hasLink = false) (hc : t.node? names = some c) :
    c.hasLink = false := by
  induction names generalizing t with
  | nil => exact Option.some.inj hc ▸ h
  | cons n names ih =>
    rw [node?_cons] at hc
    obtain ⟨d, hd, hc⟩ := Option.bind_eq_some_iff.1 hc
    refine ih ?_ hc
    have hmem := mem_of_child? hd
    cases t with
    | file | link => simp [children] at hmem
    | directory cs => exact hasLink_eq_false_of_mem h hmem

end Node

namespace FileTree

variable {t : FileTree} {c : Node} {dir p : Path} {n : String} {k : Nat} {place q : Place}

/-! ### What a path leads to -/

/-- A place where there is a directory or a file. -/
def IsFound (t : FileTree) (place : Place) : Prop :=
  t.isDirPlace place = true ∨ (t.fileAt? place).isSome = true

lemma isFound_of_node? (hc : t.node? place = some c) (hlink : ∀ target, c ≠ .link target) :
    t.IsFound place := by
  cases c with
  | file text => exact .inr (by simp [fileAt?, hc])
  | link target => exact absurd rfl (hlink target)
  | directory cs => exact .inl (isDirPlace_iff.2 ⟨cs, hc⟩)

lemma isDirPlace_of_node?_append {names : List String}
    (hc : t.node? (place ++ n :: names) = some c) : t.isDirPlace place = true := by
  rw [node?_append] at hc
  obtain ⟨d, hd, hchild⟩ := Option.bind_eq_some_iff.1 hc
  obtain ⟨e, he, -⟩ := Option.bind_eq_some_iff.1 hchild
  have hmem := Node.mem_of_child? he
  cases d with
  | file | link => simp [Node.children] at hmem
  | directory cs => exact isDirPlace_iff.2 ⟨cs, hd⟩

lemma isDirPlace_of_longer (h : t.isDirPlace place = true) (hq : q <+: place) :
    t.isDirPlace q = true := by
  obtain ⟨names, rfl⟩ := hq
  cases names with
  | nil => rwa [List.append_nil] at h
  | cons n names =>
    obtain ⟨cs, hcs⟩ := isDirPlace_iff.1 h
    exact isDirPlace_of_node?_append hcs

lemma isFound_of_trace {ps : List String} {x : Nat × Place} (hplace : t.IsFound place)
    (h : t.trace k place ps = some x) : t.IsFound x.2 := by
  fun_induction t.trace k place ps with
  | case1 =>
    cases h
    exact hplace
  | case2 | case5 | case6 => cases h
  | case3 _ _ _ _ _ _ ih => exact ih hplace h
  | case4 _ _ _ _ hdir _ _ ih =>
    exact ih (.inl (isDirPlace_of_longer (by simpa using hdir) (List.dropLast_prefix _))) h
  | case7 _ _ _ hdir _ _ _ _ _ ih =>
    refine ih ?_ (by simpa using h)
    split
    · exact .inl (isDirPlace_of_longer (by simpa using hdir) List.nil_prefix)
    · exact hplace
  | case8 _ _ _ _ _ _ _ _ hlink hnode ih => exact ih (isFound_of_node? hnode hlink) h

lemma isDirPlace_of_trace_cons {ps : List String} {x : Nat × Place}
    (h : t.trace k place (n :: ps) = some x) : t.isDirPlace place = true := by
  rw [trace.eq_def] at h
  by_contra hdir
  simp [hdir] at h

/-- **A path leads to a directory or a file**, if it leads anywhere. -/
lemma isFound_of_resolve? (h : t.resolve? p = some place) : t.IsFound place := by
  obtain ⟨k, hk⟩ := exists_reach h
  have hne := text_ne_of_reach hk
  obtain ⟨piece, pieces, hpieces⟩ := List.exists_cons_of_ne_nil
    (l := piecesOf p) (by simp [piecesOf, Path.pieces, Text.splitBy_ne_nil])
  rw [reach, if_neg (by simpa using hne), hpieces] at hk
  exact isFound_of_trace (.inl (isDirPlace_of_trace_cons hk)) hk

lemma fileAt?_eq_none_of_isDirPlace (h : t.isDirPlace place = true) : t.fileAt? place = none := by
  obtain ⟨cs, hcs⟩ := isDirPlace_iff.1 h
  rw [fileAt?, hcs]

lemma isFile_iff :
    t.isFile p = true ↔ ∃ place, t.resolve? p = some place ∧ t.isDirPlace place = false := by
  rw [isFile]
  cases h : t.resolve? p with
  | none => simp
  | some place =>
    simp only [Option.bind_some, Option.some.injEq, exists_eq_left']
    constructor
    · intro hfile
      by_contra hdir
      rw [Bool.not_eq_false] at hdir
      rw [fileAt?_eq_none_of_isDirPlace hdir] at hfile
      cases hfile
    · intro hdir
      exact (isFound_of_resolve? h).resolve_left (by simp [hdir])

/-! ### Names in a directory -/

lemma isDir_of_resolve?_join (hp : dir.text ≠ "") (hn : ProperName n)
    (h : t.resolve? (dir.join ⟨n⟩) = some q) : t.isDir dir = true := by
  obtain ⟨k, hk⟩ := exists_reach h
  rw [reach_join hp hn] at hk
  obtain ⟨⟨j, place⟩, hj, htrace⟩ := Option.bind_eq_some_iff.1 hk
  exact isDir_iff.2 ⟨place, by rw [resolve?_eq_reach, hj]; rfl, isDirPlace_of_trace_cons htrace⟩

lemma isDir_of_isFile_join (hp : dir.text ≠ "") (hn : ProperName n)
    (h : t.isFile (dir.join ⟨n⟩) = true) : t.isDir dir = true := by
  obtain ⟨q, hq, -⟩ := isFile_iff.1 h
  exact isDir_of_resolve?_join hp hn hq

lemma exists_node_of_resolve?_join (hdir : t.resolve? dir = some place)
    (hplace : t.isDirPlace place = true) (hn : ProperName n)
    (h : t.resolve? (dir.join ⟨n⟩) = some q) :
    ∃ c, t.node? (place ++ [n]) = some c := by
  obtain ⟨k, hk⟩ := exists_reach hdir
  obtain ⟨j, hj⟩ := exists_reach h
  rw [reach_join (text_ne_of_reach hk) hn, hk, Option.bind_some] at hj
  rw [trace_name hplace hn] at hj
  cases hc : t.node? (place ++ [n]) with
  | none =>
    rw [hc] at hj
    cases hj
  | some c => exact ⟨c, rfl⟩

lemma exists_entry_file_iff (above : List Place) (hr : t.resolve? dir = some place)
    (hdir : t.isDirPlace place = true) (hn : ProperName n)
    (hc : t.node? (place ++ [n]) = some c) :
    (∃ e, t.entry? above dir place (n, c) = some e ∧ e.dir? = none) ↔
      t.isFile (dir.join ⟨n⟩) = true := by
  obtain ⟨k, hk⟩ := exists_reach hr
  have hplain : (∀ target, c ≠ .link target) →
      t.resolve? (dir.join ⟨n⟩) = some (place ++ [n]) := fun hlink => by
    rw [resolve?_eq_reach, reach_join_of_not_link hk hdir hn hc hlink, Option.map_some]
  rw [isFile_iff]
  unfold entry?
  cases c with
  | file text =>
    rw [hplain fun target ht => by cases ht]
    simp [isDirPlace, hc]
  | directory cs =>
    rw [hplain fun target ht => by cases ht]
    simp [isDirPlace, hc]
  | link target =>
    dsimp only
    cases t.resolve? (dir.join ⟨n⟩) with
    | none => simp
    | some q => cases hq : t.isDirPlace q <;> simp [hq]

lemma listing_eq (hres : t.resolve? dir = some place) (hplace : t.isDirPlace place = true) :
    t.listing dir = t.entries [place] dir place := by
  rw [listing, hres]
  exact if_pos hplace

lemma isDir_of_mem_listing {e : Entry} (h : e ∈ t.listing dir) : t.isDir dir = true := by
  unfold listing at h
  split at h
  · rename_i hres
    split at h
    · rename_i hplace
      exact isDir_iff.2 ⟨_, hres, hplace⟩
    · cases h
  · cases h

/-- **The files that are listed in a directory** are those that its path leads to with their names
put after it. -/
theorem exists_mem_listing_file_iff (hw : t.WellFormed) (hp : dir.text ≠ "") :
    (∃ e ∈ t.listing dir, e.isDir = false ∧ e.name = n) ↔
      ProperName n ∧ t.isFile (dir.join ⟨n⟩) = true := by
  have hfile : ∀ e : Entry, e.isDir = false ↔ e.dir? = none := fun e => by
    rw [Entry.isDir, Option.isSome_eq_false_iff, Option.isNone_iff_eq_none]
  constructor
  · rintro ⟨e, he, hnone, rfl⟩
    obtain ⟨place, hres, hplace⟩ := isDir_iff.1 (isDir_of_mem_listing he)
    rw [listing_eq hres hplace] at he
    obtain ⟨c, hn, hc, he⟩ := (mem_entries_iff hw hplace).1 he
    exact ⟨hn, (exists_entry_file_iff _ hres hplace hn hc).1 ⟨e, he, (hfile e).1 hnone⟩⟩
  · rintro ⟨hn, h⟩
    obtain ⟨place, hres, hplace⟩ := isDir_iff.1 (isDir_of_isFile_join hp hn h)
    obtain ⟨q, hq, -⟩ := isFile_iff.1 h
    obtain ⟨c, hc⟩ := exists_node_of_resolve?_join hres hplace hn hq
    obtain ⟨e, he, hnone⟩ := (exists_entry_file_iff [place] hres hplace hn hc).2 h
    have hname := name_of_entry_eq he
    refine ⟨e, ?_, (hfile e).2 hnone, hname⟩
    rw [listing_eq hres hplace]
    exact (mem_entries_iff hw hplace).2 ⟨c, hname ▸ hn, hname ▸ hc, hname ▸ he⟩

/-! ### Trees without links -/

/-- Whether there is a link in a tree. -/
def hasLink (t : FileTree) : Bool := t.top.hasLink

variable (hw : t.WellFormed) (hfree : t.hasLink = false) (hdir : t.resolve? dir = some place)

include hw hfree hdir

lemma resolve?_join (hc : t.node? (place ++ [n]) = some c) :
    t.resolve? (dir.join ⟨n⟩) = some (place ++ [n]) := by
  have hlink : ∀ target, c ≠ .link target := fun target ht => by
    have hc' := Node.hasLink_eq_false_of_node? hfree hc
    rw [ht] at hc'
    cases hc'
  obtain ⟨k, hk⟩ := exists_reach hdir
  have hn := properName_of_node? hw hc
  rw [resolve?_eq_reach,
    reach_join_of_not_link hk (isDirPlace_of_node?_append hc) hn hc hlink, Option.map_some]

/-- **In a tree without links a path is one of a file iff there is one under its names.** -/
lemma isFile_join (hn : ProperName n) :
    t.isFile (dir.join ⟨n⟩) = (t.fileAt? (place ++ [n])).isSome := by
  cases hc : t.node? (place ++ [n]) with
  | some c => rw [isFile, resolve?_join hw hfree hdir hc, Option.bind_some]
  | none =>
    have hnone : t.isFile (dir.join ⟨n⟩) = false := by
      rw [Bool.eq_false_iff]
      intro h
      obtain ⟨k, hk⟩ := exists_reach hdir
      obtain ⟨place', hplace, hisDir⟩ := isDir_iff.1
        (isDir_of_isFile_join (text_ne_of_reach hk) hn h)
      obtain rfl : place = place' := by rw [hdir] at hplace; exact Option.some.inj hplace
      obtain ⟨q, hq, -⟩ := isFile_iff.1 h
      obtain ⟨c, hc'⟩ := exists_node_of_resolve?_join hdir hisDir hn hq
      rw [hc] at hc'
      cases hc'
    rw [hnone, fileAt?, hc]
    rfl

end FileTree

end ViewLayers
