import Mathlib.Data.List.Sort
import ViewLayers.FileTree.Walk
import ViewLayers.Proofs.FileTree.Following

/-!
What a walk visits. It goes along every chain of names on which no name is refused and no link
leads back to a directory before it, along each once and in the order of the chains; and there are
so few of them that the bound on its depth is never met.
-/

namespace ViewLayers.FileTree

variable {t : FileTree} {enters : String → Bool} {root path : Path} {n : String}
  {pre names : List String} {above : List Place} {place p : Place} {d : Nat}

/-! ### Chains -/

/-- The path of a chain of names below a root. -/
def chainPath (root : Path) (names : List String) : Path := names.foldl (fun p n => p.join ⟨n⟩) root

lemma chainPath_cons (root : Path) (n : String) (names : List String) :
    chainPath root (n :: names) = chainPath (root.join ⟨n⟩) names := rfl

lemma chainPath_concat (root : Path) (names : List String) (n : String) :
    chainPath root (names ++ [n]) = (chainPath root names).join ⟨n⟩ := by
  simp [chainPath]

/-- From the end of a chain the walk goes on to a directory under the name `n`. -/
structure Enters (t : FileTree) (enters : String → Bool) (root : Path) (pre : List String)
    (n : String) : Prop where
  admitted : enters n = true
  isDir : t.isDir (chainPath root (pre ++ [n])) = true
  /-- No link leads back to a directory of the chain. -/
  node : ∃ c, t.nodeAt? (chainPath root pre) n = some c ∧ ∀ target, c = .link target →
    ∀ r, r <+: pre → t.resolve? (chainPath root r) ≠ t.resolve? (chainPath root (pre ++ [n]))

/-- A chain of names that the walk goes along. -/
def IsChain (t : FileTree) (enters : String → Bool) (root : Path) (names : List String) : Prop :=
  t.isDir root = true ∧ ∀ pre n, pre ++ [n] <+: names → t.Enters enters root pre n

/-- The walk goes along `names` after `pre`. -/
def Onward (t : FileTree) (enters : String → Bool) (root : Path) (pre names : List String) :
    Prop :=
  ∀ mid n, mid ++ [n] <+: names → t.Enters enters root (pre ++ mid) n

lemma onward_nil : t.Onward enters root pre [] := by
  intro mid n h
  rw [List.prefix_nil] at h
  exact absurd h (by simp)

lemma onward_cons_iff : t.Onward enters root pre (n :: names) ↔
    t.Enters enters root pre n ∧ t.Onward enters root (pre ++ [n]) names := by
  constructor
  · intro h
    refine ⟨by simpa using h [] n (by simp), fun mid m hm => ?_⟩
    simpa using h (n :: mid) m (by simpa using hm)
  · rintro ⟨hn, hrest⟩ mid m hm
    cases mid with
    | nil =>
      obtain rfl : m = n := by simpa using hm
      simpa using hn
    | cons k mid =>
      rw [List.cons_append, List.cons_prefix_cons] at hm
      obtain ⟨rfl, hm⟩ := hm
      simpa using hrest mid m hm

/-! ### Directories to go on to -/

/-- The names of the directories below one that a walk enters, with their places. -/
def subdirs (t : FileTree) (enters : String → Bool) (above : List Place) (path : Path)
    (place : Place) : List (String × Place) :=
  (t.entries above path place).filterMap fun e =>
    if enters e.name then e.dir?.map (e.name, ·) else none

/-- The chains of names along which a walk goes, each before those that go further. -/
def chainsBelow (t : FileTree) (enters : String → Bool) :
    Nat → List Place → Path → Place → List (List String)
  | 0, _, _, _ => []
  | depth + 1, above, path, place =>
    (t.subdirs enters (place :: above) path place).flatMap fun x =>
      [x.1] :: (t.chainsBelow enters depth (place :: above) (path.join ⟨x.1⟩) x.2).map (x.1 :: ·)

lemma path_of_mem_entries {e : Entry} (h : e ∈ t.entries above path place) :
    e.path = path.join ⟨e.name⟩ := by
  obtain ⟨c, -, hc⟩ := List.mem_filterMap.1 h
  unfold entry? at hc
  grind

lemma dirsBelow_eq (t : FileTree) (enters : String → Bool) (depth : Nat) (above : List Place)
    (path : Path) (place : Place) : t.dirsBelow enters depth above path place =
      (t.chainsBelow enters depth above path place).map (chainPath path) := by
  induction depth generalizing above path place with
  | zero => rfl
  | succ depth ih =>
    rw [dirsBelow, chainsBelow, subdirs, List.map_flatMap, List.filterMap_eq_flatMap_toList,
      List.flatMap_assoc]
    refine List.flatMap_congr fun e he => ?_
    rw [path_of_mem_entries he]
    cases hd : e.dir? with
    | none => cases enters e.name <;> rfl
    | some q =>
      cases enters e.name with
      | false => rfl
      | true =>
        have hchain : chainPath path ∘ (e.name :: ·) = chainPath (path.join ⟨e.name⟩) :=
          funext fun names => chainPath_cons path e.name names
        simp [ih, hchain, chainPath]

lemma name_of_entry_eq {c : Node} {e : Entry}
    (h : t.entry? above path place (n, c) = some e) : e.name = n := by
  unfold entry? at h
  grind

lemma exists_entry_link_iff (target : Path) :
    (∃ e, t.entry? above path place (n, .link target) = some e ∧ e.dir? = some p) ↔
      t.resolve? (path.join ⟨n⟩) = some p ∧ t.isDirPlace p = true ∧ p ∉ above := by
  unfold entry?
  dsimp only
  cases t.resolve? (path.join ⟨n⟩) with
  | none => simp
  | some q =>
    by_cases hq : t.isDirPlace q = true
    · by_cases hb : q ∈ above
      · simp only [hq, if_true, List.contains_iff_mem.2 hb]
        constructor
        · rintro ⟨e, he, -⟩
          cases he
        · rintro ⟨h, -, hnot⟩
          cases h
          exact absurd hb hnot
      · have hcontains : above.contains q = false := by simpa using hb
        simp only [hq, if_true, hcontains, Bool.false_eq_true, if_false, Option.some.injEq,
          exists_eq_left']
        constructor
        · rintro rfl
          exact ⟨rfl, hq, hb⟩
        · exact fun h => h.1
    · simp only [hq, Bool.false_eq_true, if_false, Option.some.injEq, exists_eq_left']
      constructor
      · intro h
        cases h
      · rintro ⟨rfl, hp, -⟩
        exact absurd hp hq

lemma exists_entry_iff {c : Node} (hr : t.resolve? path = some place)
    (hdir : t.isDirPlace place = true) (hn : ProperName n) (hc : t.node? (place ++ [n]) = some c) :
    (∃ e, t.entry? above path place (n, c) = some e ∧ e.dir? = some p) ↔
      t.resolve? (path.join ⟨n⟩) = some p ∧ t.isDirPlace p = true ∧
        ∀ target, c = .link target → p ∉ above := by
  obtain ⟨k, hk⟩ := exists_reach hr
  have hplain : (∀ target, c ≠ .link target) →
      t.resolve? (path.join ⟨n⟩) = some (place ++ [n]) := fun hlink => by
    rw [resolve?_eq_reach, reach_join_of_not_link hk hdir hn hc hlink, Option.map_some]
  cases c with
  | file text =>
    rw [hplain (by simp)]
    unfold entry?
    simp only [Option.some.injEq, exists_eq_left']
    constructor
    · intro h
      cases h
    · rintro ⟨rfl, hp, -⟩
      obtain ⟨cs, hcs⟩ := isDirPlace_iff.1 hp
      rw [hc] at hcs
      cases hcs
  | directory cs =>
    rw [hplain (by simp)]
    unfold entry?
    simp only [Option.some.injEq, exists_eq_left']
    constructor
    · rintro rfl
      exact ⟨rfl, isDirPlace_iff.2 ⟨cs, hc⟩, by simp⟩
    · exact fun h => h.1
  | link target =>
    rw [exists_entry_link_iff]
    simp

lemma mem_entries_iff (hw : t.WellFormed) (hdir : t.isDirPlace place = true) {e : Entry} :
    e ∈ t.entries above path place ↔ ∃ c, ProperName e.name ∧
      t.node? (place ++ [e.name]) = some c ∧
      t.entry? above path place (e.name, c) = some e := by
  obtain ⟨cs, hcs⟩ := isDirPlace_iff.1 hdir
  have hwf := hw.node? hcs
  have hchild : ∀ m c, t.node? (place ++ [m]) = some c ↔ (m, c) ∈ cs := fun m c => by
    rw [node?_concat, hcs, Option.bind_some, hwf.child?_eq_some_iff, Node.children]
  have hentries : t.entries above path place =
      cs.filterMap (t.entry? above path place) := by
    rw [entries, hcs]
    rfl
  rw [hentries, List.mem_filterMap]
  constructor
  · rintro ⟨⟨m, c⟩, hm, he⟩
    obtain rfl := name_of_entry_eq he
    exact ⟨c, (Node.WellFormedChildren.of_mem hwf hm).1, (hchild _ c).2 hm, he⟩
  · rintro ⟨c, -, hc, he⟩
    exact ⟨(e.name, c), (hchild _ c).1 hc, he⟩

lemma mem_subdirs_iff (hw : t.WellFormed) (hr : t.resolve? path = some place)
    (hdir : t.isDirPlace place = true) :
    (n, p) ∈ t.subdirs enters above path place ↔ enters n = true ∧
      t.resolve? (path.join ⟨n⟩) = some p ∧ t.isDirPlace p = true ∧
      ∃ c, t.nodeAt? path n = some c ∧ ∀ target, c = .link target → p ∉ above := by
  have hnode : t.nodeAt? path n = t.node? (place ++ [n]) := by
    rw [nodeAt?, hr, Option.bind_some]
  rw [subdirs, List.mem_filterMap, hnode]
  constructor
  · rintro ⟨e, he, h⟩
    obtain ⟨c, hn, hc, he⟩ := (mem_entries_iff hw hdir).1 he
    split at h
    · rename_i hadm
      obtain ⟨q, hq, heq⟩ := Option.map_eq_some_iff.1 h
      cases heq
      obtain ⟨hres, hp, hback⟩ := (exists_entry_iff hr hdir hn hc).1 ⟨e, he, hq⟩
      exact ⟨hadm, hres, hp, c, hc, hback⟩
    · cases h
  · rintro ⟨hadm, hres, hp, c, hc, hback⟩
    have hn := properName_of_node? hw hc
    obtain ⟨e, he, hq⟩ := (exists_entry_iff hr hdir hn hc).2 ⟨hres, hp, hback⟩
    have hname := name_of_entry_eq he
    refine ⟨e, (mem_entries_iff hw hdir).2 ⟨c, ?_⟩, ?_⟩
    · rw [hname]
      exact ⟨hn, hc, he⟩
    · rw [hname, if_pos hadm, hq, Option.map_some]

lemma pairwise_entries (hw : t.WellFormed) :
    (t.entries above path place).Pairwise (·.name < ·.name) := by
  have hname : ∀ c c' : String × Node, c.1 < c'.1 →
      ∀ e, t.entry? above path place c = some e →
      ∀ e', t.entry? above path place c' = some e' → e.name < e'.name := by
    rintro ⟨m, c⟩ ⟨m', c'⟩ hlt e he e' he'
    rw [name_of_entry_eq he, name_of_entry_eq he']
    exact hlt
  unfold entries
  refine List.Pairwise.filterMap _ hname ?_
  cases hc : t.node? place with
  | none => exact .nil
  | some c => exact (hw.node? hc).children.pairwise

lemma pairwise_subdirs (hw : t.WellFormed) :
    (t.subdirs enters above path place).Pairwise (·.1 < ·.1) := by
  refine List.Pairwise.filterMap _ (fun e e' hlt x hx x' hx' => ?_) (pairwise_entries hw)
  split at hx <;> split at hx'
  · obtain ⟨_, -, rfl⟩ := Option.map_eq_some_iff.1 hx
    obtain ⟨_, -, rfl⟩ := Option.map_eq_some_iff.1 hx'
    exact hlt
  · cases hx'
  · cases hx
  · cases hx

/-! ### What is visited -/

/-- The walk has come along `pre` to `place`, and `above` are the directories before it. -/
structure Visit (t : FileTree) (root : Path) (pre : List String) (above : List Place)
    (place : Place) : Prop where
  resolve : t.resolve? (chainPath root pre) = some place
  isDir : t.isDirPlace place = true
  mem_iff : ∀ q, q ∈ place :: above ↔ ∃ r, r <+: pre ∧ t.resolve? (chainPath root r) = some q

lemma visit_root (hr : t.resolve? root = some place) (hdir : t.isDirPlace place = true) :
    Visit t root [] [] place := by
  refine ⟨hr, hdir, fun q => ?_⟩
  simp only [List.mem_singleton, List.prefix_nil, exists_eq_left]
  rw [chainPath, List.foldl_nil, hr, Option.some.injEq, eq_comm]

lemma Visit.concat (h : Visit t root pre above place)
    (hr : t.resolve? (chainPath root (pre ++ [n])) = some p) (hdir : t.isDirPlace p = true) :
    Visit t root (pre ++ [n]) (place :: above) p := by
  refine ⟨hr, hdir, fun q => ?_⟩
  rw [List.mem_cons, h.mem_iff]
  simp only [List.prefix_concat_iff, or_and_right, exists_or, exists_eq_left]
  rw [hr, Option.some.injEq, eq_comm]

lemma Visit.mem_subdirs_iff (hw : t.WellFormed) (h : Visit t root pre above place) :
    (n, p) ∈ t.subdirs enters (place :: above) (chainPath root pre) place ↔
      t.Enters enters root pre n ∧ t.resolve? (chainPath root (pre ++ [n])) = some p := by
  have hback : ∀ q, q ∉ place :: above ↔
      ∀ r, r <+: pre → t.resolve? (chainPath root r) ≠ some q := fun q => by
    rw [h.mem_iff]
    simp only [not_exists, not_and, ne_eq]
  rw [FileTree.mem_subdirs_iff hw h.resolve h.isDir, ← chainPath_concat]
  simp only [hback]
  constructor
  · rintro ⟨hadm, hres, hp, hnode⟩
    refine ⟨⟨hadm, isDir_iff.2 ⟨p, hres, hp⟩, ?_⟩, hres⟩
    rwa [hres]
  · rintro ⟨⟨hadm, hdir, hnode⟩, hres⟩
    obtain ⟨q, hq, hp⟩ := isDir_iff.1 hdir
    obtain rfl : p = q := by simpa [hres] using hq
    rw [hres] at hnode
    exact ⟨hadm, hres, hp, hnode⟩

lemma ne_nil_of_mem_chainsBelow (h : names ∈ t.chainsBelow enters d above path place) :
    names ≠ [] := by
  cases d with
  | zero => simp [chainsBelow] at h
  | succ d =>
    obtain ⟨x, -, hx⟩ := List.mem_flatMap.1 h
    rintro rfl
    simp at hx

/-- **A walk goes along all chains** that are no longer than it may go deep. -/
theorem mem_chainsBelow_iff (hw : t.WellFormed) (h : Visit t root pre above place) :
    names ∈ t.chainsBelow enters d above (chainPath root pre) place ↔
      names ≠ [] ∧ names.length ≤ d ∧ t.Onward enters root pre names := by
  induction d generalizing pre above place names with
  | zero =>
    rw [chainsBelow, Nat.le_zero, List.length_eq_zero_iff]
    exact ⟨fun hmem => by simp at hmem, fun hne => absurd hne.2.1 hne.1⟩
  | succ d ih =>
    cases names with
    | nil =>
      exact ⟨fun hmem => absurd rfl (ne_nil_of_mem_chainsBelow hmem), fun hne => absurd rfl hne.1⟩
    | cons n names =>
      have hsplit : n :: names ∈ t.chainsBelow enters (d + 1) above (chainPath root pre) place ↔
          ∃ p, (n, p) ∈ t.subdirs enters (place :: above) (chainPath root pre) place ∧
            (names = [] ∨ names ∈ t.chainsBelow enters d (place :: above)
              (chainPath root (pre ++ [n])) p) := by
        rw [chainsBelow, List.mem_flatMap, chainPath_concat]
        constructor
        · rintro ⟨⟨m, p⟩, hm, hmem⟩
          rcases List.mem_cons.1 hmem with heq | hmem
          · cases heq
            exact ⟨p, hm, .inl rfl⟩
          · obtain ⟨rest, hrest, heq⟩ := List.mem_map.1 hmem
            cases heq
            exact ⟨p, hm, .inr hrest⟩
        · rintro ⟨p, hm, hrest⟩
          refine ⟨(n, p), hm, ?_⟩
          rcases hrest with rfl | hrest
          · exact List.mem_cons_self
          · exact List.mem_cons_of_mem _ (List.mem_map_of_mem hrest)
      have hlength : (n :: names).length ≤ d + 1 ↔ names.length ≤ d := by
        rw [List.length_cons, Nat.add_le_add_iff_right]
      rw [hsplit, hlength, onward_cons_iff]
      constructor
      · -- the first name is entered, and the rest goes on from where it leads
        rintro ⟨p, hp, hrest⟩
        obtain ⟨henters, hres⟩ := (h.mem_subdirs_iff hw).1 hp
        have hdir := (isDir_iff.1 henters.isDir)
        obtain ⟨q, hq, hqdir⟩ := hdir
        obtain rfl : p = q := by simpa [hres] using hq
        refine ⟨List.cons_ne_nil _ _, ?_⟩
        rcases hrest with rfl | hrest
        · exact ⟨Nat.zero_le _, henters, onward_nil⟩
        · obtain ⟨-, hlen, honward⟩ := (ih (h.concat hres hqdir)).1 hrest
          exact ⟨hlen, henters, honward⟩
      · rintro ⟨-, hlen, henters, honward⟩
        obtain ⟨p, hres, hp⟩ := isDir_iff.1 henters.isDir
        refine ⟨p, (h.mem_subdirs_iff hw).2 ⟨henters, hres⟩, ?_⟩
        by_cases hnil : names = []
        · exact .inl hnil
        · exact .inr ((ih (h.concat hres hp)).2 ⟨hnil, hlen, honward⟩)

/-- Chains that are put together from their first names, each name alone first, are in order if the
first names and the chains after each of them are. -/
lemma pairwise_flatMap_cons {α : Type} {xs : List α} {head : α → String}
    {rest : α → List (List String)} (hne : ∀ x ∈ xs, ∀ names ∈ rest x, names ≠ [])
    (hrest : ∀ x ∈ xs, (rest x).Pairwise (· < ·)) (hxs : xs.Pairwise (head · < head ·)) :
    (xs.flatMap fun x => [head x] :: (rest x).map (head x :: ·)).Pairwise (· < ·) := by
  have hhead : ∀ {x names}, names ∈ [head x] :: (rest x).map (head x :: ·) →
      ∃ names', names = head x :: names' := by
    intro x names hmem
    rcases List.mem_cons.1 hmem with rfl | hmem
    · exact ⟨[], rfl⟩
    · obtain ⟨names', -, rfl⟩ := List.mem_map.1 hmem
      exact ⟨names', rfl⟩
  rw [List.pairwise_flatMap]
  constructor
  · intro x hx
    refine List.pairwise_cons.2 ⟨fun names hnames => ?_, ?_⟩
    · obtain ⟨names', hnames', rfl⟩ := List.mem_map.1 hnames
      obtain ⟨m, names', rfl⟩ := List.exists_cons_of_ne_nil (hne x hx names' hnames')
      exact List.cons_lt_cons_iff.2 (.inr ⟨rfl, List.nil_lt_cons m names'⟩)
    · exact (hrest x hx).map _ fun _ _ hlt => List.cons_lt_cons_iff.2 (.inr ⟨rfl, hlt⟩)
  · refine hxs.imp fun {x y} hlt names hnames names' hnames' => ?_
    obtain ⟨_, rfl⟩ := hhead hnames
    obtain ⟨_, rfl⟩ := hhead hnames'
    exact List.cons_lt_cons_iff.2 (.inl hlt)

/-- **A walk goes along its chains in order**, and along none twice. -/
theorem pairwise_chainsBelow (hw : t.WellFormed) :
    (t.chainsBelow enters d above path place).Pairwise (· < ·) := by
  induction d generalizing above path place with
  | zero => exact .nil
  | succ d ih =>
    rw [chainsBelow]
    exact pairwise_flatMap_cons (fun _ _ _ => ne_nil_of_mem_chainsBelow) (fun _ _ => ih)
      (pairwise_subdirs hw)

/-! ### How far a walk can go -/

/-- The places that a link can still lead to. -/
def unvisited (t : FileTree) (visited : List Place) : List Place :=
  t.top.chains.filter fun q => !visited.contains q

/-- How far down the tree names can still go from a place. -/
def depthLeft (t : FileTree) (place : Place) : Nat := t.size - place.length

lemma depthLeft_le (t : FileTree) (p : Place) : t.depthLeft p ≤ t.size := Nat.sub_le ..

lemma depthLeft_concat_lt {c : Node} (hc : t.node? (place ++ [n]) = some c) :
    t.depthLeft (place ++ [n]) < t.depthLeft place := by
  have hlt : (place ++ [n]).length < t.size := Node.length_lt_of_node? hc
  simp only [depthLeft, List.length_append, List.length_singleton] at hlt ⊢
  omega

/-- A bound on steps that each take one of what is left, or go down the tree. -/
def stepsLeft (t : FileTree) (left : Nat) (place : Place) : Nat :=
  left * (t.size + 1) + t.depthLeft place

lemma stepsLeft_lt_mul {left left' : Nat} (h : left' < left) (p : Place) :
    t.stepsLeft left' p < left * (t.size + 1) := by
  have hmul := Nat.mul_le_mul_right (t.size + 1) (Nat.succ_le_of_lt h)
  have hdepth := t.depthLeft_le p
  rw [Nat.succ_mul] at hmul
  unfold stepsLeft
  omega

lemma stepsLeft_lt_of_lt {left left' : Nat} (h : left' < left) (place p : Place) :
    t.stepsLeft left' p < t.stepsLeft left place :=
  Nat.lt_of_lt_of_le (stepsLeft_lt_mul h p) (Nat.le_add_right ..)

lemma stepsLeft_concat_lt {left left' : Nat} (h : left' ≤ left) {c : Node}
    (hc : t.node? (place ++ [n]) = some c) :
    t.stepsLeft left' (place ++ [n]) < t.stepsLeft left place :=
  Nat.add_lt_add_of_le_of_lt (Nat.mul_le_mul_right _ h) (depthLeft_concat_lt hc)

/-- A bound on what is left of a chain: every link takes one of the places that are left, and from
one link to the next names go down the tree. -/
def potential (t : FileTree) (visited : List Place) (place : Place) : Nat :=
  t.stepsLeft (t.unvisited visited).length place

lemma mem_chains_of_isDirPlace (h : t.isDirPlace p = true) : p ∈ t.top.chains := by
  obtain ⟨cs, hcs⟩ := isDirPlace_iff.1 h
  exact Node.mem_chains_of_node? hcs

lemma length_unvisited_le (t : FileTree) (p : Place) (visited : List Place) :
    (t.unvisited (p :: visited)).length ≤ (t.unvisited visited).length := by
  refine (List.monotone_filter_right _ fun q hq => ?_).length_le
  simp only [List.contains_cons, Bool.not_or, Bool.and_eq_true] at hq
  exact hq.2

lemma length_unvisited_lt {visited : List Place} (hp : p ∈ t.top.chains) (hv : p ∉ visited) :
    (t.unvisited (p :: visited)).length < (t.unvisited visited).length := by
  have hsplit : t.unvisited (p :: visited) = (t.unvisited visited).filter fun q => !(q == p) := by
    rw [unvisited, unvisited, List.filter_filter]
    refine List.filter_congr fun q _ => ?_
    rw [List.contains_cons, Bool.not_or]
  rw [hsplit, List.length_filter_lt_length_iff_exists]
  exact ⟨p, List.mem_filter.2 ⟨hp, by simpa using hv⟩, by simp⟩

/-- **Every step of a walk uses up some of the bound.** -/
lemma Visit.potential_lt (hw : t.WellFormed) (h : Visit t root pre above place)
    (he : t.Enters enters root pre n) (hr : t.resolve? (chainPath root (pre ++ [n])) = some p)
    (hdir : t.isDirPlace p = true) :
    t.potential (p :: place :: above) p < t.potential (place :: above) place := by
  obtain ⟨c, hc, hlink⟩ := he.node
  rw [nodeAt?, h.resolve, Option.bind_some] at hc
  obtain ⟨k, hk⟩ := exists_reach h.resolve
  rw [chainPath_concat] at hr
  obtain ⟨k', hk'⟩ := exists_reach hr
  rcases reach_join_cases hk h.isDir (properName_of_node? hw hc) hc hk' with ⟨hl, -⟩ | heq
  · -- a link leads to a directory that the walk has not come through
    have hnew : p ∉ place :: above := by
      rw [h.mem_iff]
      rintro ⟨r, hpre, hres⟩
      obtain ⟨target, ht⟩ := hl
      exact hlink target ht r hpre (hres.trans (by rw [chainPath_concat, hr]))
    exact stepsLeft_lt_of_lt (length_unvisited_lt (mem_chains_of_isDirPlace hdir) hnew) _ _
  · -- anything else is further down the tree
    obtain rfl : p = place ++ [n] := congrArg Prod.snd heq
    exact stepsLeft_concat_lt (length_unvisited_le t _ _) hc

lemma length_le_potential (hw : t.WellFormed) (h : Visit t root pre above place)
    (ho : t.Onward enters root pre names) : names.length ≤ t.potential (place :: above) place := by
  induction names generalizing pre above place with
  | nil => exact Nat.zero_le _
  | cons n names ih =>
    obtain ⟨henters, hrest⟩ := onward_cons_iff.1 ho
    obtain ⟨p, hres, hp⟩ := isDir_iff.1 henters.isDir
    have hlt := h.potential_lt hw henters hres hp
    have hle := ih (h.concat hres hp) hrest
    rw [List.length_cons]
    omega

lemma potential_root_lt (hdir : t.isDirPlace place = true) :
    t.potential [place] place < t.walkDepth := by
  have hlt : (t.unvisited [place]).length < (t.unvisited []).length :=
    length_unvisited_lt (mem_chains_of_isDirPlace hdir) (by simp)
  have hall : (t.unvisited []).length ≤ t.size :=
    (List.length_filter_le _ _).trans (Nat.le_of_eq (Node.length_chains t.top))
  exact stepsLeft_lt_mul (Nat.lt_succ_of_lt (Nat.lt_of_lt_of_le hlt hall)) place

/-! ### The whole walk -/

lemma isChain_iff (hr : t.isDir root = true) :
    t.IsChain enters root names ↔ t.Onward enters root [] names := by
  rw [IsChain, and_iff_right hr]
  rfl

lemma mem_chains_root_iff (hw : t.WellFormed) (hr : t.resolve? root = some place)
    (hdir : t.isDirPlace place = true) (hd : t.walkDepth ≤ d) :
    names ∈ t.chainsBelow enters d [] root place ↔
      names ≠ [] ∧ t.IsChain enters root names := by
  have hvisit := visit_root hr hdir
  rw [isChain_iff (isDir_iff.2 ⟨place, hr, hdir⟩)]
  refine (mem_chainsBelow_iff hw hvisit).trans
    ⟨fun ⟨hne, _, ho⟩ => ⟨hne, ho⟩, fun ⟨hne, ho⟩ => ⟨hne, ?_, ho⟩⟩
  have hle := length_le_potential hw hvisit ho
  have hlt := potential_root_lt hdir
  omega

/-- **The bound on the depth of a walk is never met.** -/
theorem dirsBelow_eq_of_le (hw : t.WellFormed) (hr : t.resolve? root = some place)
    (hdir : t.isDirPlace place = true) (hd : t.walkDepth ≤ d) :
    t.dirsBelow enters d [] root place = t.dirsBelow enters t.walkDepth [] root place := by
  rw [dirsBelow_eq, dirsBelow_eq]
  refine congrArg _ <|
    (pairwise_chainsBelow hw).eq_of_mem_iff (pairwise_chainsBelow hw) fun names => ?_
  rw [mem_chains_root_iff hw hr hdir hd, mem_chains_root_iff hw hr hdir (Nat.le_refl _)]

/-- **A walk visits all directories that chains lead to**, each chain's once and in their order. -/
theorem exists_chains_walk (hw : t.WellFormed) (enters : String → Bool) (root : Path) :
    ∃ chains : List (List String), chains.Pairwise (· < ·) ∧
      (∀ names, names ∈ chains ↔ names ≠ [] ∧ t.IsChain enters root names) ∧
      t.walk enters root = chains.map (chainPath root) := by
  by_cases hr : t.isDir root = true
  · obtain ⟨place, hres, hdir⟩ := isDir_iff.1 hr
    refine ⟨t.chainsBelow enters t.walkDepth [] root place, pairwise_chainsBelow hw,
      fun names => mem_chains_root_iff hw hres hdir (Nat.le_refl _), ?_⟩
    rw [walk, hres, ← dirsBelow_eq]
    exact if_pos hdir
  · refine ⟨[], .nil, fun names => ⟨fun h => by simp at h, fun h => absurd h.2.1 hr⟩, ?_⟩
    rw [walk, List.map_nil]
    split
    · rename_i place hres
      exact if_neg fun hdir => hr (isDir_iff.2 ⟨place, hres, hdir⟩)
    · rfl

end ViewLayers.FileTree
