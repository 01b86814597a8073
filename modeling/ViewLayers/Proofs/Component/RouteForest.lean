import Mathlib.Data.List.Find
import ViewLayers.Proofs.Component.RouteLinks

/-!
Routes where there are no links. They are the directories in brackets: one route for each chain of
them below the root, under the route of the chain before it, in the order of the names.
-/

namespace ViewLayers.FileTree

open Convention Route Text

variable {t : FileTree} {root dir : Path} {n : String} {names : List String} {place : Place}
  {d : Nat}

/-! ### Chains of directories in brackets -/

lemma isBracketed_iff : isBracketed n = true ↔ ∃ segment, n = "[" ++ segment ++ "]" := by
  constructor
  · intro h
    obtain ⟨segment, hsegment⟩ := Option.isSome_iff_exists.1 h
    exact ⟨segment, (entryName_of_bracketed? hsegment).symm⟩
  · rintro ⟨segment, rfl⟩
    have hname : ("[" ++ segment ++ "]").toList = '[' :: (segment.toList ++ [']']) := by simp
    rw [isBracketed, bracketed?, hname]
    simp

/-- A chain of names of directories below a place, all of them in brackets. -/
def IsBracketedChain (t : FileTree) (place : Place) (names : List String) : Prop :=
  names ≠ [] ∧ (∃ cs, t.node? (place ++ names) = some (.directory cs)) ∧
    ∀ n ∈ names, ∃ segment, n = "[" ++ segment ++ "]"

section LinkFree

variable (hw : t.WellFormed) (hfree : t.hasLink = false)

include hw hfree

lemma enters_iff_of_linkFree (hdir : t.resolve? dir = some place) :
    t.Enters isBracketed dir [] n ↔
      isBracketed n = true ∧ ∃ cs, t.node? (place ++ [n]) = some (.directory cs) := by
  have hnode : t.nodeAt? (chainPath dir []) n = t.node? (place ++ [n]) := by
    rw [chainPath, List.foldl_nil, nodeAt?, hdir, Option.bind_some]
  have hisDir : ∀ c, t.node? (place ++ [n]) = some c →
      (t.isDir (dir.join ⟨n⟩) = true ↔ ∃ cs, c = .directory cs) := fun c hc => by
    rw [isDir, resolve?_join hw hfree hdir hc, Option.any_some, isDirPlace_iff, hc]
    simp
  constructor
  · intro h
    obtain ⟨c, hc, -⟩ := h.node
    rw [hnode] at hc
    obtain ⟨cs, rfl⟩ := (hisDir c hc).1 h.isDir
    exact ⟨h.admitted, cs, hc⟩
  · rintro ⟨hadm, cs, hc⟩
    exact ⟨hadm, (hisDir _ hc).2 ⟨cs, rfl⟩, _, hnode.trans hc, fun target ht => by cases ht⟩

lemma resolve?_chainPath {c : Node} (hdir : t.resolve? dir = some place)
    (hc : t.node? (place ++ names) = some c) :
    t.resolve? (chainPath dir names) = some (place ++ names) := by
  induction names generalizing dir place with
  | nil => simpa [chainPath] using hdir
  | cons n names ih =>
    rw [List.append_cons] at hc ⊢
    obtain ⟨d, hd, -⟩ := Option.bind_eq_some_iff.1 ((node?_append t (place ++ [n]) names) ▸ hc)
    exact ih (resolve?_join hw hfree hdir hd) hc

/-- **Routes are found along the chains of directories in brackets.** -/
lemma isRouteChain_iff_of_linkFree (hdir : t.resolve? dir = some place) :
    t.IsRouteChain dir names ↔
      (∃ cs, t.node? (place ++ names) = some (.directory cs)) ∧
        ∀ n ∈ names, isBracketed n = true := by
  induction names generalizing dir place with
  | nil =>
    rw [List.append_nil, ← isDirPlace_iff]
    constructor
    · intro h
      obtain ⟨place', hplace, hisDir⟩ := isDir_iff.1 h.1
      rw [hdir, Option.some.injEq] at hplace
      exact ⟨hplace ▸ hisDir, nofun⟩
    · exact fun h => isRouteChain_nil (isDir_iff.2 ⟨_, hdir, h.1⟩)
  | cons n names ih =>
    rw [List.append_cons, List.forall_mem_cons]
    constructor
    · intro h
      obtain ⟨henters, hrest⟩ := (isRouteChain_cons_iff h.1).1 h
      obtain ⟨hadm, cs, hc⟩ := (enters_iff_of_linkFree hw hfree hdir).1 henters
      obtain ⟨hnode, hall⟩ := (ih (resolve?_join hw hfree hdir hc)).1 hrest
      exact ⟨hnode, hadm, hall⟩
    · rintro ⟨⟨cs, hcs⟩, hadm, hall⟩
      have hfirst : ∃ ds, t.node? (place ++ [n]) = some (.directory ds) := by
        cases names with
        | nil => exact ⟨cs, by simpa using hcs⟩
        | cons m names =>
          exact isDirPlace_iff.1 (isDirPlace_of_node?_append hcs)
      obtain ⟨ds, hds⟩ := hfirst
      have hisDir : t.isDir dir = true :=
        isDir_iff.2 ⟨_, hdir, isDirPlace_of_node?_append hds⟩
      exact (isRouteChain_cons_iff hisDir).2
        ⟨(enters_iff_of_linkFree hw hfree hdir).2 ⟨hadm, ds, hds⟩,
          (ih (resolve?_join hw hfree hdir hds)).2 ⟨⟨cs, hcs⟩, hall⟩⟩

end LinkFree

/-! ### Order -/

lemma pairwise_listing (hw : t.WellFormed) : (t.listing dir).Pairwise (·.name < ·.name) := by
  unfold listing
  split
  · split
    · exact pairwise_entries hw
    · exact .nil
  · exact .nil

lemma pairwise_routesIn (hw : t.WellFormed) :
    (t.routesIn d dir).Pairwise (·.entryName < ·.entryName) := by
  cases d with
  | zero => exact .nil
  | succ d =>
    rw [routesIn_succ]
    refine (pairwise_listing hw).filterMap _ fun e e' hlt r hr r' hr' => ?_
    rwa [← (of_entry_route hr).2.2.1, ← (of_entry_route hr').2.2.1]

lemma map_branches (r : Route) : r.branches.map (·.map entryName) = [r.entryName] ::
    ((branchesOfList r.children).map (·.map entryName)).map (r.entryName :: ·) := by
  cases r
  simp [branches]

/-- **The chains of all routes are in order**, and none is there twice. -/
lemma pairwise_branches_routesIn (hw : t.WellFormed) :
    ((branchesOfList (t.routesIn d dir)).map (·.map entryName)).Pairwise (· < ·) := by
  induction d generalizing dir with
  | zero => exact .nil
  | succ d ih =>
    rw [branchesOfList_eq, List.map_flatMap]
    simp only [map_branches]
    refine pairwise_flatMap_cons (fun r _ names hnames => ?_) (fun r hr => ?_)
      (pairwise_routesIn hw)
    · obtain ⟨b, hb, rfl⟩ := List.mem_map.1 hnames
      obtain ⟨r', -, rfl | ⟨b', -, rfl⟩⟩ := mem_branchesOfList_iff.1 hb
      · exact List.cons_ne_nil _ _
      · exact List.cons_ne_nil _ _
    · rw [children_of_mem_routesIn hr]
      exact ih

/-! ### What a route stands for -/

lemma cons_mem_branchesOfList_iff {rs b : List Route} {r : Route} :
    r :: b ∈ branchesOfList rs ↔ r ∈ rs ∧ (b = [] ∨ b ∈ branchesOfList r.children) := by
  rw [mem_branchesOfList_iff]
  constructor
  · rintro ⟨r', hr', heq | ⟨b', hb', heq⟩⟩
    · cases heq
      exact ⟨hr', .inl rfl⟩
    · cases heq
      exact ⟨hr', .inr hb'⟩
  · rintro ⟨hr, rfl | hb⟩
    · exact ⟨r, hr, .inl rfl⟩
    · exact ⟨r, hr, .inr ⟨b, hb, rfl⟩⟩

lemma mem_routesIn_of_mem_branches {above : List Route} {r : Route}
    (h : above ++ [r] ∈ branchesOfList (t.routesIn d dir)) :
    ∃ d', r ∈ t.routesIn (d' + 1) (chainPath dir (above.map entryName)) := by
  induction above generalizing d dir with
  | nil =>
    have hr := (cons_mem_branchesOfList_iff.1 h).1
    cases d with
    | zero => cases hr
    | succ d => exact ⟨d, hr⟩
  | cons r' above ih =>
    obtain ⟨hr', hrest⟩ := cons_mem_branchesOfList_iff.1 h
    cases d with
    | zero => cases hr'
    | succ d =>
      have hbelow := hrest.resolve_left (by simp)
      rw [children_of_mem_routesIn hr'] at hbelow
      exact ih hbelow

/-- The first of some names that a directory holds a file under, if there is one; `place` is where
the directory stands. -/
def heldFile? (t : FileTree) (dir : Path) (place : Place) (names : List String) : Option Path :=
  (names.find? fun n => (t.fileAt? (place ++ [n])).isSome).map fun n => dir.join ⟨n⟩

structure StandsFor (t : FileTree) (dir : Path) (place : Place) (r : Route) : Prop where
  pattern : r.pattern = routePattern r.segment
  directory : r.directory = dir
  view : r.view = t.heldFile? dir place ["index.tsx", "index.jsx"]
  loader : r.loader = t.heldFile? dir place ["async.ts", "async.tsx", "async.js", "async.jsx"]
  metadata : r.metadata = t.heldFile? dir place ["meta.ts", "meta.tsx", "meta.js", "meta.jsx"]

lemma findFile_eq_heldFile? (hw : t.WellFormed) (hfree : t.hasLink = false)
    (hdir : t.resolve? dir = some place) {stem : String} {extensions : List String}
    (hn : ∀ e ∈ extensions, ProperName (stem ++ e)) :
    t.findFile dir stem extensions = t.heldFile? dir place (extensions.map (stem ++ ·)) := by
  have hpaths : (extensions.map fun e => dir.join ⟨stem ++ e⟩) =
      (extensions.map (stem ++ ·)).map fun n => dir.join ⟨n⟩ := by
    rw [List.map_map]
    rfl
  have hfile : ∀ n ∈ extensions.map (stem ++ ·),
      t.isFile (dir.join ⟨n⟩) = (t.fileAt? (place ++ [n])).isSome := by
    intro n hmem
    obtain ⟨e, he, rfl⟩ := List.mem_map.1 hmem
    exact isFile_join hw hfree hdir (hn e he)
  rw [findFile, hpaths, List.find?_map, heldFile?]
  exact congrArg (Option.map fun n => dir.join ⟨n⟩) (List.find?_congr hfile)

lemma standsFor_routeAt (hw : t.WellFormed) (hfree : t.hasLink = false)
    (hdir : t.resolve? dir = some place) (d : Nat) (segment : String) :
    t.StandsFor dir place (t.routeAt d dir segment) where
  pattern := rfl
  directory := rfl
  view := findFile_eq_heldFile? hw hfree hdir (by decide)
  loader := findFile_eq_heldFile? hw hfree hdir (by decide)
  metadata := findFile_eq_heldFile? hw hfree hdir (by decide)

structure Bracketed (t : FileTree) (root : Path) (rs : List Route) : Prop where
  /-- A root that leads nowhere has none. -/
  missing : t.resolve? root = none → rs = []
  /-- There is a route for each chain of directories in brackets, under those of the chains before
  it, and no other. -/
  chains : ∀ place, t.resolve? root = some place → ∀ names,
    (∃ b ∈ branchesOfList rs, b.map entryName = names) ↔ t.IsBracketedChain place names
  /-- None is there twice. -/
  increasing : ((branchesOfList rs).map (·.map entryName)).Pairwise (· < ·)
  /-- Routes beside each other are in the order of the bytes of their names. -/
  siblings : rs.Pairwise fun r r' => bytesOf r.entryName < bytesOf r'.entryName
  siblings_below : ∀ above r, above ++ [r] ∈ branchesOfList rs →
    r.children.Pairwise fun r r' => bytesOf r.entryName < bytesOf r'.entryName
  standsFor : ∀ place, t.resolve? root = some place → ∀ above r,
    above ++ [r] ∈ branchesOfList rs →
    t.StandsFor (chainPath root ((above ++ [r]).map entryName))
      (place ++ (above ++ [r]).map entryName) r

lemma exists_findRoutes_eq (t : FileTree) (root : Path) :
    ∃ d, t.findRoutes root = t.routesIn d root := by
  unfold findRoutes
  split
  · exact ⟨_, rfl⟩
  · exact ⟨0, rfl⟩

/-- **Where there are no links, routes are the directories in brackets.** -/
theorem bracketed_findRoutes (hw : t.WellFormed) (hfree : t.hasLink = false) (root : Path) :
    t.Bracketed root (t.findRoutes root) := by
  obtain ⟨d, hd⟩ := exists_findRoutes_eq t root
  have hsiblings : ∀ d dir, (t.routesIn d dir).Pairwise fun r r' =>
      bytesOf r.entryName < bytesOf r'.entryName :=
    fun d dir => (pairwise_routesIn hw).imp bytesOf_lt
  have hchains : ∀ place, t.resolve? root = some place → ∀ names,
      (∃ b ∈ branchesOfList (t.findRoutes root), b.map entryName = names) ↔
        t.IsBracketedChain place names := by
    intro place hroot names
    rw [mem_branches_findRoutes_iff hw, isRouteChain_iff_of_linkFree hw hfree hroot]
    simp only [isBracketed_iff, IsBracketedChain]
  refine
    { missing := fun hmissing => ?_
      chains := hchains
      increasing := hd ▸ pairwise_branches_routesIn hw
      siblings := hd ▸ hsiblings d root
      siblings_below := fun above r h => ?_
      standsFor := fun place hroot above r h => ?_ }
  · cases d with
    | zero => exact hd
    | succ d =>
      rw [hd, routesIn_succ, listing, hmissing]
      rfl
  · obtain ⟨d', hr⟩ := mem_routesIn_of_mem_branches (hd ▸ h)
    rw [children_of_mem_routesIn hr]
    exact hsiblings d' _
  · obtain ⟨d', hr⟩ := mem_routesIn_of_mem_branches (hd ▸ h)
    have hroute := eq_routeAt hr
    rw [← chainPath_concat] at hroute
    obtain ⟨-, ⟨cs, hcs⟩, -⟩ := (hchains place hroot _).1 ⟨_, h, rfl⟩
    have hplace := resolve?_chainPath hw hfree hroot hcs
    rw [List.map_append, List.map_singleton] at hplace ⊢
    have hstands := standsFor_routeAt hw hfree hplace d' r.segment
    rwa [← hroute] at hstands

/-- Routes below each other, one without a segment and one without an ASCII letter, and one that
stands below a directory without brackets. -/
def branching : FileTree :=
  build [⟨"r/[b]/[]"⟩]
    [(⟨"r/[b]/[@id?]/meta.js"⟩, some ""), (⟨"r/[é]/index.jsx"⟩, some ""),
      (⟨"r/[é]/index.tsx"⟩, some ""), (⟨"r/plain/[a]/index.tsx"⟩, some "")] []

/-- The last is no route, and the others are in the order of their names. -/
theorem bracketed_findRoutes_branching : branching.WellFormed ∧ branching.hasLink = false ∧
    branching.Bracketed ⟨"r"⟩ (branching.findRoutes ⟨"r"⟩) ∧
    (branchesOfList (branching.findRoutes ⟨"r"⟩)).map (·.map entryName) =
      [["[b]"], ["[b]", "[@id?]"], ["[b]", "[]"], ["[é]"]] := by
  have hw : branching.WellFormed := wellFormed_build _ _ _
  have hfree : branching.hasLink = false := by decide +kernel
  exact ⟨hw, hfree, bracketed_findRoutes hw hfree ⟨"r"⟩, by decide +kernel⟩

end ViewLayers.FileTree
