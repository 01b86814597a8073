import ViewLayers.Component.Discovery
import ViewLayers.Proofs.FileTree.Walking
import ViewLayers.Proofs.Path.Below
import ViewLayers.Proofs.Text.Bytes

/-!
What a scan finds. Every chain of names outside brackets leads to one directory, and the component
there is found under the names of the chain; none is lost, none is found twice, and each comes
before those below it.
-/

namespace ViewLayers

open Text

/-- The names that a component's name is put together from. -/
def Component.parts (c : Component) : List String :=
  (splitBy Path.isSlash c.name.toList).map String.ofList

namespace FileTree

open Convention

variable {t : FileTree} {enters : String → Bool} {root dir : Path} {n : String}
  {pre names : List String} {d : Nat}

/-! ### Names of components -/

lemma Enters.properName (hw : t.WellFormed) (h : t.Enters enters root pre n) : ProperName n := by
  obtain ⟨c, hc, -⟩ := h.node
  obtain ⟨place, -, hc⟩ := Option.bind_eq_some_iff.1 hc
  exact properName_of_node? hw hc

lemma IsChain.properName (hw : t.WellFormed) (h : t.IsChain enters root names) (hn : n ∈ names) :
    ProperName n := by
  obtain ⟨pre, rest, rfl⟩ := List.append_of_mem hn
  exact (h.2 pre n ⟨rest, by simp⟩).properName hw

lemma steps_chainPath (hr : root.text ≠ "") (hn : ∀ n ∈ names, ProperName n) :
    (chainPath root names).steps = root.steps ++ names.map .name := by
  induction names generalizing root with
  | nil => simp [chainPath]
  | cons n names ih =>
    rw [List.forall_mem_cons] at hn
    rw [chainPath_cons, ih (Path.text_join_ne root hn.1.1) hn.2, Path.steps_join_name hr hn.1]
    simp

lemma componentName_chainPath (hr : root.text ≠ "") (hn : ∀ n ∈ names, ProperName n) :
    componentName root (chainPath root names) = joinWith "/" names := by
  have hbelow : root.below? (chainPath root names) = some (names.map .name) := by
    rw [Path.below?, steps_chainPath hr hn, if_pos (by simp), List.drop_left]
  rw [componentName, hbelow, Option.getD_some, List.map_map]
  exact congrArg _ (List.map_id names)

lemma name_of_describe {c : Component} (h : t.describe root dir = some c) :
    c.name = componentName root dir := by
  unfold describe at h
  split at h
  · cases h
  · dsimp only at h
    split at h
    · cases h
      rfl
    · cases h

lemma parts_of_describe {c : Component} (hr : root.text ≠ "") (hn : ∀ n ∈ names, ProperName n)
    (hne : names ≠ []) (h : t.describe root (chainPath root names) = some c) :
    c.parts = names := by
  have hslash : ∀ s ∈ names, ∀ c ∈ s.toList, Path.isSlash c = false := fun s hs c hc => by
    simpa [Path.isSlash] using ne_of_mem_of_not_mem hc (hn s hs).2.2.2
  rw [Component.parts, name_of_describe h, componentName_chainPath hr hn,
    splitBy_joinWith rfl rfl hne hslash, List.map_map]
  exact (List.map_congr_left fun s _ => String.ofList_toList).trans (List.map_id names)

/-! ### How deep routes can lie -/

/-- A bound on what is left of nested routes: no path leads through more links than it may, and
from one link to the next names go down the tree. -/
def linkPotential (t : FileTree) (dir : Path) : Nat :=
  ((t.reach dir).map fun x => t.stepsLeft x.1 x.2).getD 0

/-- **Every directory that is listed uses up some of the bound.** -/
lemma linkPotential_lt (hw : t.WellFormed) {e : Entry} (he : e ∈ t.listing dir)
    (hd : e.isDir = true) : t.linkPotential e.path < t.linkPotential dir := by
  unfold listing at he
  split at he
  · rename_i place hres
    split at he
    · rename_i hdir
      rw [path_of_mem_entries he]
      obtain ⟨c, hn, hc, he⟩ := (mem_entries_iff hw hdir).1 he
      obtain ⟨p, hp⟩ := Option.isSome_iff_exists.1 hd
      obtain ⟨hchild, -⟩ := (exists_entry_iff hres hdir hn hc).1 ⟨e, he, hp⟩
      obtain ⟨k, hk⟩ := exists_reach hres
      obtain ⟨k', hk'⟩ := exists_reach hchild
      rw [linkPotential, linkPotential, hk, hk', Option.map_some, Option.map_some,
        Option.getD_some, Option.getD_some]
      rcases reach_join_cases hk hdir hn hc hk' with ⟨-, hlt⟩ | heq
      · exact stepsLeft_lt_of_lt hlt _ _
      · cases heq
        exact stepsLeft_concat_lt (Nat.le_refl k) hc
    · simp at he
  · simp at he

lemma linkPotential_lt_routeDepth (t : FileTree) (dir : Path) :
    t.linkPotential dir < t.routeDepth := by
  have hle : ∀ x, t.reach dir = some x → x.1 ≤ maxLinks := fun x hx => by
    unfold reach at hx
    split at hx
    · cases hx
    · exact trace_links_le hx
  unfold linkPotential
  cases hx : t.reach dir with
  | none =>
    rw [Option.map_none, Option.getD_none, routeDepth]
    exact Nat.mul_pos (by decide) (Nat.succ_pos _)
  | some x =>
    rw [Option.map_some, Option.getD_some, routeDepth]
    exact stepsLeft_lt_mul (Nat.lt_succ_of_le (Nat.le_succ_of_le (hle x hx))) x.2

lemma routesIn_eq (hw : t.WellFormed) {d' : Nat} (hd : t.linkPotential dir < d)
    (hd' : t.linkPotential dir < d') : t.routesIn d dir = t.routesIn d' dir := by
  induction d generalizing d' dir with
  | zero => exact absurd hd (Nat.not_lt_zero _)
  | succ d ih =>
    cases d' with
    | zero => exact absurd hd' (Nat.not_lt_zero _)
    | succ d' =>
      rw [routesIn, routesIn]
      refine List.filterMap_congr fun e he => ?_
      cases hdir : e.isDir with
      | false => rfl
      | true =>
        have hlt := linkPotential_lt hw he hdir
        have hrec : t.routesIn d e.path = t.routesIn d' e.path := ih (by omega) (by omega)
        rw [hrec]

/-- **The bound on the depth of routes is never met.** -/
theorem routesIn_eq_of_le (hw : t.WellFormed) (hd : t.routeDepth ≤ d) (dir : Path) :
    t.routesIn d dir = t.routesIn t.routeDepth dir := by
  have hlt := linkPotential_lt_routeDepth t dir
  exact routesIn_eq hw (by omega) hlt

/-! ### The scan -/

/-- The chains of names on which no directory is in brackets. -/
def IsOpenChain (t : FileTree) (root : Path) (names : List String) : Prop :=
  names ≠ [] ∧ t.IsChain (fun n => !isBracketed n) root names

structure Scanned (t : FileTree) (root : Path) (found : List Component) : Prop where
  /-- The component of every chain, once, and nothing else. -/
  chains : ∃ chains : List (List String), chains.Pairwise (· < ·) ∧
    (∀ names, names ∈ chains ↔ t.IsOpenChain root names) ∧
    found = chains.filterMap (fun names => t.describe root (chainPath root names)) ∧
    ∀ names ∈ chains, ∀ c, t.describe root (chainPath root names) = some c → c.parts = names
  /-- In the order of the names by the bytes of their parts, each before those below it. -/
  increasing : found.Pairwise fun c c' =>
    c.parts.map bytesOf < c'.parts.map bytesOf ∧ c.name ≠ c'.name ∧ ¬ c'.parts <+: c.parts
  missing : t.isDir root = false → found = []
  /-- Neither the walk nor the routes go as deep as they are let. -/
  walk_ends : ∀ d place, t.resolve? root = some place → t.isDirPlace place = true →
    t.walkDepth ≤ d → t.dirsBelow (fun n => !isBracketed n) d [] root place =
      t.dirsBelow (fun n => !isBracketed n) t.walkDepth [] root place
  routes_end : ∀ d dir, t.routeDepth ≤ d → t.routesIn d dir = t.routesIn t.routeDepth dir

lemma text_ne_of_isDir (h : t.isDir root = true) : root.text ≠ "" := by
  obtain ⟨place, hres, -⟩ := isDir_iff.1 h
  obtain ⟨k, hk⟩ := exists_reach hres
  exact text_ne_of_reach hk

/-- **A scan finds every component once, in the order of the names**, and ends. -/
theorem scanned_components (hw : t.WellFormed) (root : Path) :
    t.Scanned root (t.components root) := by
  obtain ⟨chains, hpair, hmem, hwalk⟩ := exists_chains_walk hw (fun n => !isBracketed n) root
  have hfound : t.components root =
      chains.filterMap fun names => t.describe root (chainPath root names) := by
    rw [components, hwalk, List.filterMap_map]
    rfl
  have hparts : ∀ names ∈ chains, ∀ c, t.describe root (chainPath root names) = some c →
      c.parts = names := by
    intro names hnames c hc
    obtain ⟨hne, hchain⟩ := (hmem names).1 hnames
    exact parts_of_describe (text_ne_of_isDir hchain.1) (fun n hn => hchain.properName hw hn) hne hc
  refine
    { chains := ⟨chains, hpair, hmem, hfound, hparts⟩
      increasing := ?_
      missing := fun hmissing => ?_
      walk_ends := fun d place hres hdir hd => dirsBelow_eq_of_le hw hres hdir hd
      routes_end := fun d dir hd => routesIn_eq_of_le hw hd dir }
  · rw [hfound]
    have hlt : chains.Pairwise fun names names' =>
        names < names' ∧ names ∈ chains ∧ names' ∈ chains :=
      hpair.imp_of_mem fun hm hm' hlt => ⟨hlt, hm, hm'⟩
    refine hlt.filterMap _ fun names names' ⟨hlt, hm, hm'⟩ c hc c' hc' => ?_
    have hc := hparts names hm c hc
    have hc' := hparts names' hm' c' hc'
    refine ⟨?_, fun he => ?_, fun hpre => ?_⟩
    · rw [hc, hc']
      exact List.map_lt (fun _ _ => bytesOf_lt) hlt
    · have hsame : names = names' := by rw [← hc, ← hc', Component.parts, Component.parts, he]
      exact List.lt_irrefl _ (hsame ▸ hlt)
    · rw [hc, hc'] at hpre
      exact hpre.le hlt
  · obtain rfl : chains = [] := by
      refine List.eq_nil_iff_forall_not_mem.2 fun names hnames => ?_
      have hroot := ((hmem names).1 hnames).2.1
      rw [hmissing] at hroot
      cases hroot
    rw [hfound]
    rfl

/-- The root can be an absolute path, and a link can lead to one. -/
example : ((build [] [(⟨"/tmp/feed/index.tsx"⟩, some ""), (⟨"/tmp/feed/async.ts"⟩, some "")]
    [(⟨"/tmp/next"⟩, ⟨"/tmp/feed"⟩)]).components ⟨"/tmp"⟩).map Component.name =
      ["feed", "next"] := by decide +kernel

/-- A tree with a component inside another, one in brackets, and links to it and back. -/
def looped : FileTree :=
  build [] [(⟨"feed/index.tsx"⟩, some ""), (⟨"feed/async.ts"⟩, some ""),
    (⟨"feed/post/index.tsx"⟩, some ""), (⟨"feed/post/error.ts"⟩, some ""),
    (⟨"[old]/index.tsx"⟩, some ""), (⟨"[old]/async.ts"⟩, some "")]
    [(⟨"feed/back"⟩, ⟨".."⟩), (⟨"next"⟩, ⟨"[old]"⟩)]

/-- What is in brackets is found through the link alone, and nothing through the one that leads
back. -/
theorem scanned_components_looped : looped.WellFormed ∧
    looped.Scanned ⟨"."⟩ (looped.components ⟨"."⟩) ∧
    (looped.components ⟨"."⟩).map Component.name = ["feed", "feed/post", "next"] := by
  have hw : looped.WellFormed := wellFormed_build _ _ _
  exact ⟨hw, scanned_components hw ⟨"."⟩, by decide +kernel⟩

end FileTree

end ViewLayers
