import Mathlib.Data.List.Infix
import ViewLayers.Proofs.Component.Scanning
import ViewLayers.Proofs.FileTree.Files

/-!
Links among routes. Every directory of routes is listed on its own, so a link is held back only
from the directory that it stands in. One that leads further up is gone round, and the routes above
it are found below it again, until a path leads through too many links.
-/

namespace ViewLayers

/-! ### The routes of a forest, with those above them -/

namespace Route

mutual

/-- The routes on the way down to each route of a tree, with that one last. -/
def branches : Route → List (List Route)
  | r@⟨_, _, _, _, _, _, cs⟩ => [r] :: (branchesOfList cs).map (r :: ·)

def branchesOfList : List Route → List (List Route)
  | [] => []
  | r :: rs => r.branches ++ branchesOfList rs

end

lemma branchesOfList_eq (rs : List Route) : branchesOfList rs = rs.flatMap branches := by
  induction rs with
  | nil => rfl
  | cons r rs ih => rw [branchesOfList, ih, List.flatMap_cons]

lemma mem_branchesOfList_iff {rs b : List Route} : b ∈ branchesOfList rs ↔
    ∃ r ∈ rs, b = [r] ∨ ∃ b' ∈ branchesOfList r.children, b = r :: b' := by
  rw [branchesOfList_eq, List.mem_flatMap]
  refine exists_congr fun r => and_congr_right fun _ => ?_
  cases r
  simp [branches, eq_comm]

/-- The name of the directory that a route was found in. -/
def entryName (r : Route) : String := "[" ++ r.segment ++ "]"

/-- No route's directory is a link to the directory of a route above it, or to the root of all. -/
def LoopFree (t : FileTree) (root : Path) (rs : List Route) : Prop :=
  ∀ above r, above ++ [r] ∈ branchesOfList rs → ∀ dir target,
    (root :: above.map directory).getLast? = some dir →
    t.nodeAt? dir r.entryName = some (.link target) →
    ∀ d ∈ root :: above.map directory, t.resolve? d ≠ t.resolve? r.directory

end Route

namespace FileTree

open Convention Route

variable {t : FileTree} {root dir : Path} {n : String} {pre loop names : List String} {d k j : Nat}
  {place p : Place}

/-! ### Chains of routes -/

lemma entryName_of_bracketed? {segment : String} (h : bracketed? n = some segment) :
    "[" ++ segment ++ "]" = n := by
  unfold bracketed? at h
  split at h
  · rename_i cs hn
    split at h
    · rename_i hlast
      obtain ⟨us, rfl⟩ := List.getLast?_eq_some_iff.1 hlast
      rw [← Option.some.inj h, ← String.toList_inj, hn]
      simp
    · cases h
  · cases h

/-- A chain of names along which routes are found. Each directory on it is the first one of a walk
of its own. -/
def IsRouteChain (t : FileTree) (root : Path) (names : List String) : Prop :=
  t.isDir root = true ∧
    ∀ pre n, pre ++ [n] <+: names → t.Enters isBracketed (chainPath root pre) [] n

lemma isRouteChain_nil (h : t.isDir root = true) : t.IsRouteChain root [] :=
  ⟨h, fun pre n hp => absurd (List.prefix_nil.1 hp) (by simp)⟩

lemma IsRouteChain.of_prefix (h : t.IsRouteChain root names) (hp : pre <+: names) :
    t.IsRouteChain root pre :=
  ⟨h.1, fun mid n hm => h.2 mid n (hm.trans hp)⟩

lemma chainPath_append (root : Path) (pre names : List String) :
    chainPath root (pre ++ names) = chainPath (chainPath root pre) names := by
  simp [chainPath]

lemma isRouteChain_cons_iff (h : t.isDir root = true) : t.IsRouteChain root (n :: names) ↔
    t.Enters isBracketed root [] n ∧ t.IsRouteChain (root.join ⟨n⟩) names := by
  constructor
  · intro hc
    have hn : t.Enters isBracketed root [] n := hc.2 [] n (by simp)
    refine ⟨hn, hn.isDir, fun mid m hm => ?_⟩
    simpa [chainPath] using hc.2 (n :: mid) m (by simpa using hm)
  · rintro ⟨hn, hc⟩
    refine ⟨h, fun mid m hm => ?_⟩
    cases mid with
    | nil =>
      obtain rfl : m = n := by simpa using hm
      exact hn
    | cons k mid =>
      rw [List.cons_append, List.cons_prefix_cons] at hm
      obtain ⟨rfl, hm⟩ := hm
      exact hc.2 mid m hm

lemma IsRouteChain.isDir (h : t.IsRouteChain root names) :
    t.isDir (chainPath root names) = true := by
  rcases List.eq_nil_or_concat names with rfl | ⟨init, last, rfl⟩
  · exact h.1
  · rw [List.concat_eq_append] at h ⊢
    have := (h.2 init last (List.prefix_refl _)).isDir
    rwa [← chainPath_append] at this

/-! ### The routes in one directory -/

lemma enters_iff_mem_listing (hw : t.WellFormed) (hdir : t.isDir dir = true) :
    t.Enters isBracketed dir [] n ↔
      ∃ e ∈ t.listing dir, e.isDir = true ∧ isBracketed e.name = true ∧ e.name = n := by
  obtain ⟨place, hres, hplace⟩ := isDir_iff.1 hdir
  have hlisting := listing_eq hres hplace
  have hvisit : Visit t dir [] [] place := visit_root hres hplace
  have hsub : ∀ q, (n, q) ∈ t.subdirs isBracketed [place] (chainPath dir []) place ↔
      t.Enters isBracketed dir [] n ∧ t.resolve? (chainPath dir ([] ++ [n])) = some q := fun q =>
    hvisit.mem_subdirs_iff hw
  rw [chainPath, List.foldl_nil, List.nil_append] at hsub
  constructor
  · intro h
    obtain ⟨q, hq, -⟩ := isDir_iff.1 h.isDir
    obtain ⟨e, he, hx⟩ := List.mem_filterMap.1 ((hsub q).2 ⟨h, hq⟩)
    split at hx
    · rename_i hadm
      obtain ⟨q', hq', heq⟩ := Option.map_eq_some_iff.1 hx
      cases heq
      exact ⟨e, hlisting ▸ he, by rw [Entry.isDir, hq']; rfl, hadm, rfl⟩
    · cases hx
  · rintro ⟨e, he, hd, hadm, rfl⟩
    obtain ⟨q, hq⟩ := Option.isSome_iff_exists.1 hd
    refine ((hsub q).1 (List.mem_filterMap.2 ⟨e, hlisting ▸ he, ?_⟩)).1
    rw [if_pos hadm, hq, Option.map_some]

lemma path_of_mem_listing {e : Entry} (h : e ∈ t.listing dir) : e.path = dir.join ⟨e.name⟩ := by
  unfold listing at h
  split at h
  · split at h
    · exact path_of_mem_entries h
    · simp at h
  · simp at h

/-- The route of a directory, with those that lie in it up to some depth. -/
def routeAt (t : FileTree) (d : Nat) (dir : Path) (segment : String) : Route where
  segment
  pattern := routePattern segment
  directory := dir
  view := t.findFile dir indexStem viewExtensions
  loader := t.findFile dir loaderStem entryExtensions
  metadata := t.findFile dir metadataStem entryExtensions
  children := t.routesIn d dir

lemma routesIn_succ (t : FileTree) (d : Nat) (dir : Path) :
    t.routesIn (d + 1) dir = (t.listing dir).filterMap fun e =>
      if e.isDir then (bracketed? e.name).map (t.routeAt d e.path) else none := rfl

lemma of_entry_route {e : Entry} {r : Route}
    (h : (if e.isDir then (bracketed? e.name).map (t.routeAt d e.path) else none) = some r) :
    e.isDir = true ∧ isBracketed e.name = true ∧ e.name = r.entryName ∧
      r = t.routeAt d e.path r.segment := by
  split at h
  · rename_i hd
    obtain ⟨segment, hseg, rfl⟩ := Option.map_eq_some_iff.1 h
    exact ⟨hd, Option.isSome_iff_exists.2 ⟨segment, hseg⟩, (entryName_of_bracketed? hseg).symm, rfl⟩
  · cases h

lemma of_mem_routesIn {r : Route} (h : r ∈ t.routesIn (d + 1) dir) :
    ∃ e ∈ t.listing dir, e.isDir = true ∧ isBracketed e.name = true ∧ e.name = r.entryName := by
  obtain ⟨e, he, hr⟩ := List.mem_filterMap.1 (routesIn_succ t d dir ▸ h)
  obtain ⟨hd, hadm, hname, -⟩ := of_entry_route hr
  exact ⟨e, he, hd, hadm, hname⟩

lemma eq_routeAt {r : Route} (h : r ∈ t.routesIn (d + 1) dir) :
    r = t.routeAt d (dir.join ⟨r.entryName⟩) r.segment := by
  obtain ⟨e, he, hr⟩ := List.mem_filterMap.1 (routesIn_succ t d dir ▸ h)
  obtain ⟨-, -, hname, hroute⟩ := of_entry_route hr
  rwa [path_of_mem_listing he, hname] at hroute

lemma children_of_mem_routesIn {r : Route} (h : r ∈ t.routesIn (d + 1) dir) :
    r.children = t.routesIn d (dir.join ⟨r.entryName⟩) :=
  congrArg Route.children (eq_routeAt h)

lemma exists_mem_routesIn {e : Entry} (he : e ∈ t.listing dir) (hd : e.isDir = true)
    (hadm : isBracketed e.name = true) : ∃ r ∈ t.routesIn (d + 1) dir, r.entryName = e.name := by
  obtain ⟨segment, hseg⟩ := Option.isSome_iff_exists.1 hadm
  refine ⟨t.routeAt d e.path segment, ?_, entryName_of_bracketed? hseg⟩
  rw [routesIn_succ]
  exact List.mem_filterMap.2 ⟨e, he, by rw [if_pos hd, hseg, Option.map_some]⟩

lemma directories_of_mem_branches {b : List Route} (h : b ∈ branchesOfList (t.routesIn d dir)) :
    dir :: b.map Route.directory = (b.map entryName).inits.map (chainPath dir) := by
  induction d generalizing dir b with
  | zero => simp [routesIn, branchesOfList] at h
  | succ d ih =>
    obtain ⟨r, hr, hb⟩ := mem_branchesOfList_iff.1 h
    have hdirectory : r.directory = dir.join ⟨r.entryName⟩ :=
      congrArg Route.directory (eq_routeAt hr)
    have hchildren := children_of_mem_routesIn hr
    have hmap : ∀ names : List (List String), (names.map (r.entryName :: ·)).map (chainPath dir) =
        names.map (chainPath (dir.join ⟨r.entryName⟩)) := fun names => by
      rw [List.map_map]
      rfl
    rcases hb with rfl | ⟨b', hb', rfl⟩
    · rw [List.map_singleton, List.map_singleton, List.inits_cons, List.map_cons, hmap, hdirectory]
      rfl
    · rw [List.map_cons, List.map_cons, List.inits_cons, List.map_cons, hmap, hdirectory,
        ih (hchildren ▸ hb')]
      rfl

/-- **Routes are found along all chains** that are no longer than they may lie deep. -/
theorem mem_branches_routesIn_iff (hw : t.WellFormed) (hdir : t.isDir dir = true) :
    (∃ b ∈ branchesOfList (t.routesIn d dir), b.map entryName = names) ↔
      names ≠ [] ∧ names.length ≤ d ∧ t.IsRouteChain dir names := by
  induction d generalizing dir names with
  | zero =>
    constructor
    · rintro ⟨b, hb, -⟩
      simp [routesIn, branchesOfList] at hb
    · rintro ⟨hne, hlen, -⟩
      exact absurd (List.length_eq_zero_iff.1 (Nat.le_zero.1 hlen)) hne
  | succ d ih =>
    constructor
    · rintro ⟨b, hb, rfl⟩
      obtain ⟨r, hr, hb⟩ := mem_branchesOfList_iff.1 hb
      obtain ⟨e, he, hd, hadm, hname⟩ := of_mem_routesIn hr
      have hchildren := children_of_mem_routesIn hr
      have henters := (enters_iff_mem_listing hw hdir).2 ⟨e, he, hd, hadm, hname⟩
      rcases hb with rfl | ⟨b', hb', rfl⟩
      · refine ⟨by simp, by simp, ?_⟩
        exact (isRouteChain_cons_iff hdir).2 ⟨henters, isRouteChain_nil henters.isDir⟩
      · obtain ⟨-, hlen, hchain⟩ := (ih henters.isDir).1 ⟨b', hchildren ▸ hb', rfl⟩
        refine ⟨by simp, by simpa using hlen, ?_⟩
        exact (isRouteChain_cons_iff hdir).2 ⟨henters, hchain⟩
    · rintro ⟨hne, hlen, hchain⟩
      obtain ⟨n, names, rfl⟩ := List.exists_cons_of_ne_nil hne
      obtain ⟨henters, hchain⟩ := (isRouteChain_cons_iff hdir).1 hchain
      obtain ⟨e, he, hd, hadm, rfl⟩ := (enters_iff_mem_listing hw hdir).1 henters
      obtain ⟨r, hr, hname⟩ := exists_mem_routesIn (d := d) he hd hadm
      have hchildren := children_of_mem_routesIn hr
      rw [hname] at hchildren
      by_cases hnil : names = []
      · subst hnil
        exact ⟨[r], mem_branchesOfList_iff.2 ⟨r, hr, .inl rfl⟩, by simp [hname]⟩
      · have hlen : names.length ≤ d := by simpa using hlen
        obtain ⟨b, hb, rfl⟩ := (ih henters.isDir).2 ⟨hnil, hlen, hchain⟩
        refine ⟨r :: b, mem_branchesOfList_iff.2 ⟨r, hr, .inr ⟨b, hchildren ▸ hb, rfl⟩⟩, ?_⟩
        rw [List.map_cons, hname]

lemma IsRouteChain.length_le (hw : t.WellFormed) (h : t.IsRouteChain dir names) :
    names.length ≤ t.linkPotential dir := by
  induction names generalizing dir with
  | nil => exact Nat.zero_le _
  | cons n names ih =>
    obtain ⟨henters, hrest⟩ := (isRouteChain_cons_iff h.1).1 h
    obtain ⟨e, he, hd, -, rfl⟩ := (enters_iff_mem_listing hw h.1).1 henters
    have hlt := linkPotential_lt hw he hd
    have hle := ih hrest
    rw [path_of_mem_listing he] at hlt
    rw [List.length_cons]
    omega

/-- **Routes are found along all chains.** -/
theorem mem_branches_findRoutes_iff (hw : t.WellFormed) :
    (∃ b ∈ branchesOfList (t.findRoutes root), b.map entryName = names) ↔
      names ≠ [] ∧ t.IsRouteChain root names := by
  rw [findRoutes]
  by_cases hdir : t.isDir root = true
  · rw [if_pos hdir, mem_branches_routesIn_iff hw hdir]
    refine and_congr_right fun _ => and_iff_right_of_imp fun hchain => ?_
    have hle := hchain.length_le hw
    have hlt := t.linkPotential_lt_routeDepth root
    omega
  · rw [if_neg hdir]
    constructor
    · rintro ⟨b, hb, -⟩
      simp [branchesOfList] at hb
    · rintro ⟨-, hchain⟩
      exact absurd hchain.1 hdir

/-! ### Going round a loop -/

lemma isRouteChain_append_iff : t.IsRouteChain root (pre ++ names) ↔
    t.IsRouteChain root pre ∧ t.IsRouteChain (chainPath root pre) names := by
  induction pre generalizing root with
  | nil =>
    exact ⟨fun h => ⟨isRouteChain_nil h.1, h⟩, fun h => h.2⟩
  | cons n pre ih =>
    constructor
    · intro h
      obtain ⟨hn, hrest⟩ := (isRouteChain_cons_iff h.1).1 h
      obtain ⟨hpre, hnames⟩ := ih.1 hrest
      exact ⟨(isRouteChain_cons_iff h.1).2 ⟨hn, hpre⟩, hnames⟩
    · rintro ⟨hpre, hnames⟩
      obtain ⟨hn, hrest⟩ := (isRouteChain_cons_iff hpre.1).1 hpre
      exact (isRouteChain_cons_iff hpre.1).2 ⟨hn, ih.2 ⟨hrest, hnames⟩⟩

lemma IsRouteChain.properName (hw : t.WellFormed) (h : t.IsRouteChain root names) :
    ∀ n ∈ names, ProperName n := by
  intro n hn
  obtain ⟨pre, rest, rfl⟩ := List.append_of_mem hn
  exact (h.2 pre n ⟨rest, by simp⟩).properName hw

/-- With more links to follow a path still leads to the same place, and leaves as many over. -/
lemma trace_add {ps : List String} {x : Nat × Place} (h : t.trace k place ps = some x) (m : Nat) :
    t.trace (k + m) place ps = some (x.1 + m, x.2) := by
  fun_induction t.trace k place ps with
  | case1 =>
    cases h
    rw [trace.eq_def]
  | _ =>
    rw [trace.eq_def]
    grind

lemma reach_chainPath (hp : dir.text ≠ "") (hn : ∀ n ∈ names, ProperName n) :
    t.reach (chainPath dir names) = (t.reach dir).bind fun x => t.trace x.1 x.2 names := by
  induction names generalizing dir with
  | nil => simp [chainPath, trace.eq_def _ _ _ []]
  | cons n names ih =>
    rw [List.forall_mem_cons] at hn
    rw [chainPath_cons, ih (Path.text_join_ne dir hn.1.1) hn.2, reach_join hp hn.1,
      Option.bind_assoc]
    exact Option.bind_congr fun x _ => (trace_append t x.1 x.2 [n] names).symm

lemma isDir_of_isDir_join (hp : dir.text ≠ "") (hn : ProperName n)
    (h : t.isDir (dir.join ⟨n⟩) = true) : t.isDir dir = true := by
  obtain ⟨q, hq, -⟩ := isDir_iff.1 h
  exact isDir_of_resolve?_join hp hn hq

lemma isDir_of_isDir_chainPath (hp : dir.text ≠ "") (hn : ∀ n ∈ names, ProperName n)
    (h : t.isDir (chainPath dir names) = true) : t.isDir dir = true := by
  induction names generalizing dir with
  | nil => exact h
  | cons n names ih =>
    rw [List.forall_mem_cons] at hn
    exact isDir_of_isDir_join hp hn.1 (ih (Path.text_join_ne dir hn.1.1) hn.2 h)

/-- From one directory that is reached through fewer links, names lead where they lead from the
same directory reached through more of them. -/
lemma resolve?_chainPath_eq {dir' : Path} (hk : t.reach dir = some (k, place))
    (hj : t.reach dir' = some (j, place)) (hjk : j ≤ k) (hn : ∀ n ∈ names, ProperName n)
    (hdir : t.resolve? (chainPath dir' names) = some p) :
    ∃ k' j', t.reach (chainPath dir names) = some (k', p) ∧
      t.reach (chainPath dir' names) = some (j', p) ∧ j' ≤ k' := by
  obtain ⟨j', hj'⟩ := exists_reach hdir
  have htrace := hj'
  rw [reach_chainPath (text_ne_of_reach hj) hn, hj, Option.bind_some] at htrace
  refine ⟨j' + (k - j), j', ?_, hj', Nat.le_add_right ..⟩
  have hmore := trace_add htrace (k - j)
  rw [Nat.add_sub_cancel' hjk] at hmore
  rw [reach_chainPath (text_ne_of_reach hk) hn, hk, Option.bind_some]
  exact hmore

/-- Routes are found again in a directory that is reached once more, as far as paths lead. -/
lemma IsRouteChain.again {dir' : Path} (hw : t.WellFormed) (h : t.IsRouteChain dir names)
    (hk : t.reach dir = some (k, place)) (hj : t.reach dir' = some (j, place)) (hjk : j ≤ k)
    (hdir : t.isDir (chainPath dir' names) = true) : t.IsRouteChain dir' names := by
  induction names generalizing dir dir' k j place with
  | nil => exact isRouteChain_nil hdir
  | cons n names ih =>
    have hproper := h.properName hw
    rw [List.forall_mem_cons] at hproper
    have hne := text_ne_of_reach hj
    obtain ⟨henters, hrest⟩ := (isRouteChain_cons_iff h.1).1 h
    have hjoin : t.isDir (dir'.join ⟨n⟩) = true :=
      isDir_of_isDir_chainPath (Path.text_join_ne dir' hproper.1.1) hproper.2 hdir
    have hdir' := isDir_of_isDir_join hne hproper.1 hjoin
    obtain ⟨q, hq, -⟩ := isDir_iff.1 hjoin
    have hsingle : ∀ m ∈ [n], ProperName m := by simpa using hproper.1
    obtain ⟨k', j', hk', hj', hle⟩ := resolve?_chainPath_eq hk hj hjk hsingle hq
    refine (isRouteChain_cons_iff hdir').2
      ⟨⟨henters.admitted, hjoin, ?_⟩, ih hrest hk' hj' hle hdir⟩
    obtain ⟨c, hc, hlink⟩ := henters.node
    have hsame : t.resolve? (chainPath dir []) = t.resolve? (chainPath dir' []) := by
      rw [chainPath, chainPath, List.foldl_nil, List.foldl_nil, resolve?_eq_reach, hk,
        resolve?_eq_reach, hj]
      rfl
    have hsame' : t.resolve? (chainPath dir [n]) = t.resolve? (chainPath dir' [n]) := by
      rw [resolve?_eq_reach, hk', resolve?_eq_reach, hj']
      rfl
    refine ⟨c, ?_, fun target ht r hr => ?_⟩
    · rw [nodeAt?, ← hsame]
      exact hc
    · obtain rfl := List.prefix_nil.1 hr
      rw [List.nil_append, ← hsame, ← hsame']
      exact hlink target ht [] (List.prefix_refl _)

/-- **A loop is gone round as often as paths lead round it**, which is as often as they may lead
through its links. -/
theorem isRouteChain_round_iff (hw : t.WellFormed) (h : t.IsRouteChain root (pre ++ loop))
    (hback : t.resolve? (chainPath root (pre ++ loop)) = t.resolve? (chainPath root pre))
    (times : Nat) : t.IsRouteChain root (pre ++ (List.replicate times loop).flatten) ↔
      t.isDir (chainPath root (pre ++ (List.replicate times loop).flatten)) = true := by
  have hpre := (isRouteChain_append_iff.1 h).1
  obtain ⟨place, hres, hplace⟩ := isDir_iff.1 hpre.isDir
  obtain ⟨k, hk⟩ := exists_reach hres
  obtain ⟨j, hj⟩ := exists_reach (hback.trans hres)
  have hjk : j ≤ k := by
    have htrace := hj
    rw [chainPath_append, reach_chainPath (text_ne_of_reach hk)
      ((isRouteChain_append_iff.1 h).2.properName hw), hk, Option.bind_some] at htrace
    exact trace_links_le htrace
  refine ⟨IsRouteChain.isDir, fun hdir => ?_⟩
  induction times with
  | zero => simpa using hpre
  | succ times ih =>
    rw [List.replicate_succ, List.flatten_cons, ← List.append_assoc] at hdir ⊢
    have hproper : ∀ n ∈ (List.replicate times loop).flatten, ProperName n := fun n hn => by
      obtain ⟨l, hl, hnl⟩ := List.mem_flatten.1 hn
      rw [List.eq_of_mem_replicate hl] at hnl
      exact h.properName hw n (List.mem_append_right _ hnl)
    rw [chainPath_append] at hdir
    obtain ⟨q, hq, hqdir⟩ := isDir_iff.1 hdir
    obtain ⟨k', -, hk', -, -⟩ := resolve?_chainPath_eq hk hj hjk hproper hq
    have hbefore :
        t.isDir (chainPath root (pre ++ (List.replicate times loop).flatten)) = true := by
      rw [chainPath_append]
      exact isDir_iff.2 ⟨q, by rw [resolve?_eq_reach, hk']; rfl, hqdir⟩
    have hchain := (isRouteChain_append_iff.1 (ih hbefore)).2
    exact isRouteChain_append_iff.2 ⟨h, hchain.again hw hk hj hjk hdir⟩

/-! ### The routes below a directory -/

lemma getLast?_inits {α : Type} (l : List α) : l.inits.getLast? = some l := by
  rcases List.eq_nil_or_concat l with rfl | ⟨init, last, rfl⟩
  · rfl
  · rw [List.concat_eq_append, List.inits_append]
    simp

lemma directories_of_mem_findRoutes {b : List Route} (h : b ∈ branchesOfList (t.findRoutes root)) :
    root :: b.map Route.directory = (b.map entryName).inits.map (chainPath root) := by
  unfold findRoutes at h
  split at h
  · exact directories_of_mem_branches h
  · simp [branchesOfList] at h

lemma above_of_mem_findRoutes {above : List Route} {r : Route}
    (h : above ++ [r] ∈ branchesOfList (t.findRoutes root)) :
    root :: above.map Route.directory = (above.map entryName).inits.map (chainPath root) ∧
      r.directory = chainPath root (above.map entryName ++ [r.entryName]) ∧
      (root :: above.map Route.directory).getLast? =
        some (chainPath root (above.map entryName)) := by
  have hall := directories_of_mem_findRoutes h
  rw [List.map_append, List.map_append, List.inits_append, List.map_append,
    ← List.cons_append] at hall
  obtain ⟨habove, hlast⟩ := List.append_inj' hall (by simp)
  refine ⟨habove, by simpa using hlast, ?_⟩
  rw [habove, List.getLast?_map, getLast?_inits, Option.map_some]

lemma exists_mem_findRoutes (hw : t.WellFormed) (h : t.IsRouteChain root (pre ++ [n])) :
    ∃ above r, above ++ [r] ∈ branchesOfList (t.findRoutes root) ∧ above.map entryName = pre ∧
      r.entryName = n := by
  obtain ⟨b, hb, hnames⟩ := (mem_branches_findRoutes_iff hw).2 ⟨by simp, h⟩
  rcases List.eq_nil_or_concat b with rfl | ⟨above, r, rfl⟩
  · simp at hnames
  · rw [List.concat_eq_append] at hb hnames
    rw [List.map_append] at hnames
    obtain ⟨hpre, hn⟩ := List.append_inj' hnames rfl
    exact ⟨above, r, hb, hpre, by simpa using hn⟩

lemma chain_of_mem_findRoutes (hw : t.WellFormed) {b : List Route}
    (h : b ∈ branchesOfList (t.findRoutes root)) : t.IsRouteChain root (b.map entryName) :=
  ((mem_branches_findRoutes_iff hw).1 ⟨b, h, rfl⟩).2

/-- **Routes are free of loops iff a walk that knew its whole way would find the same ones.** -/
theorem loopFree_findRoutes_iff (hw : t.WellFormed) : LoopFree t root (t.findRoutes root) ↔
    ∀ names, t.IsRouteChain root names → t.IsChain isBracketed root names := by
  constructor
  · refine fun hfree names hnames => ⟨hnames.1, fun pre n hp => ?_⟩
    have henters := hnames.2 pre n hp
    have hdir := henters.isDir
    obtain ⟨above, r, hmem, rfl, rfl⟩ := exists_mem_findRoutes hw (hnames.of_prefix hp)
    obtain ⟨habove, hr, hlast⟩ := above_of_mem_findRoutes hmem
    rw [← chainPath_append] at hdir
    obtain ⟨c, hc, -⟩ := henters.node
    refine ⟨henters.admitted, hdir, c, hc, fun target ht before hbefore => ?_⟩
    rw [ht] at hc
    rw [← hr]
    refine hfree above r hmem _ target hlast hc _ ?_
    rw [habove]
    exact List.mem_map_of_mem ((List.mem_inits _ _).2 hbefore)
  · intro hchains above r hmem dir target hdir hlink d hd
    obtain ⟨habove, hr, hlast⟩ := above_of_mem_findRoutes hmem
    obtain rfl : chainPath root (above.map entryName) = dir := by simpa [hlast] using hdir
    have hchain := hchains _ (chain_of_mem_findRoutes hw hmem)
    rw [List.map_append] at hchain
    obtain ⟨c, hc, hback⟩ := (hchain.2 _ _ (List.prefix_refl _)).node
    rw [habove, List.mem_map] at hd
    obtain ⟨before, hbefore, rfl⟩ := hd
    rw [hlink, Option.some.injEq] at hc
    rw [hr]
    exact hback target hc.symm before ((List.mem_inits _ _).1 hbefore)

structure Linked (t : FileTree) (root : Path) (rs : List Route) : Prop where
  /-- There is a route for each chain, and no other. -/
  chains : ∀ names, (∃ b ∈ branchesOfList rs, b.map entryName = names) ↔
    names ≠ [] ∧ t.IsRouteChain root names
  directories : ∀ b ∈ branchesOfList rs,
    root :: b.map Route.directory = (b.map entryName).inits.map (chainPath root)
  /-- No link leads back to the directory that it stands in. -/
  parent : ∀ above r, above ++ [r] ∈ branchesOfList rs → ∀ dir target,
    (root :: above.map Route.directory).getLast? = some dir →
    t.nodeAt? dir r.entryName = some (.link target) → t.resolve? dir ≠ t.resolve? r.directory
  /-- None leads further up iff the walk for components would hold back none. -/
  loopFree_iff : LoopFree t root rs ↔
    ∀ names, t.IsRouteChain root names → t.IsChain isBracketed root names
  /-- The routes end by themselves then, however many links a path may lead through. -/
  length_lt : LoopFree t root rs → ∀ b ∈ branchesOfList rs, b.length < t.walkDepth
  /-- A loop is gone round as long as paths lead round it. -/
  round : ∀ pre loop, t.IsRouteChain root (pre ++ loop) →
    t.resolve? (chainPath root (pre ++ loop)) = t.resolve? (chainPath root pre) →
    ∀ times, t.IsRouteChain root (pre ++ (List.replicate times loop).flatten) ↔
      t.isDir (chainPath root (pre ++ (List.replicate times loop).flatten)) = true
  /-- The number of links that a path may lead through ends them at last. -/
  routes_end : ∀ d, t.routeDepth ≤ d → t.routesIn d root = t.routesIn t.routeDepth root

/-- **A link back is held back from its own directory only.** Routes below a link to a directory
further up are found again and again, until the paths lead through too many links; without such a
link no loop enters them, and they end by themselves. -/
theorem linked_findRoutes (hw : t.WellFormed) (root : Path) :
    t.Linked root (t.findRoutes root) where
  chains _ := mem_branches_findRoutes_iff hw
  directories _ hb := directories_of_mem_findRoutes hb
  parent above r hmem dir target hdir hlink := by
    obtain ⟨-, hr, hlast⟩ := above_of_mem_findRoutes hmem
    obtain rfl : chainPath root (above.map entryName) = dir := by simpa [hlast] using hdir
    have hchain := chain_of_mem_findRoutes hw hmem
    rw [List.map_append] at hchain
    obtain ⟨c, hc, hback⟩ := (hchain.2 _ _ (List.prefix_refl _)).node
    have hc : t.nodeAt? (chainPath root (above.map entryName)) r.entryName = some c := hc
    rw [hlink, Option.some.injEq] at hc
    rw [hr, chainPath_append]
    exact hback target hc.symm [] (List.prefix_refl _)
  loopFree_iff := loopFree_findRoutes_iff hw
  length_lt hfree b hb := by
    have hchain := (loopFree_findRoutes_iff hw).1 hfree _ (chain_of_mem_findRoutes hw hb)
    obtain ⟨place, hres, hplace⟩ := isDir_iff.1 hchain.1
    have hle := length_le_potential hw (visit_root hres hplace) ((isChain_iff hchain.1).1 hchain)
    have hlt := potential_root_lt hplace
    rw [List.length_map] at hle
    omega
  round _ _ h hback := isRouteChain_round_iff hw h hback
  routes_end _ hd := routesIn_eq_of_le hw hd root

/-- Routes with a link in them to the root of all. -/
def roundabout : FileTree :=
  build [] [(⟨"r/[a]/index.tsx"⟩, some "")] [(⟨"r/[a]/[up]"⟩, ⟨".."⟩)]

/-- The link is followed to the routes above it, three times and more. -/
theorem linked_findRoutes_roundabout : roundabout.WellFormed ∧
    roundabout.Linked ⟨"r"⟩ (roundabout.findRoutes ⟨"r"⟩) ∧
    ¬ LoopFree roundabout ⟨"r"⟩ (roundabout.findRoutes ⟨"r"⟩) ∧
    ∃ b ∈ branchesOfList (roundabout.findRoutes ⟨"r"⟩),
      b.map entryName = ["[a]", "[up]", "[a]", "[up]", "[a]", "[up]"] := by
  have hw : roundabout.WellFormed := wellFormed_build _ _ _
  have hlinked := linked_findRoutes hw ⟨"r"⟩
  have hchain : roundabout.IsRouteChain ⟨"r"⟩ ([] ++ ["[a]", "[up]"]) := by
    have hbranches : (branchesOfList (roundabout.routesIn 2 ⟨"r"⟩)).map (·.map entryName) =
        [["[a]"], ["[a]", "[up]"]] := by decide +kernel
    have hmem : ["[a]", "[up]"] ∈
        (branchesOfList (roundabout.routesIn 2 ⟨"r"⟩)).map (·.map entryName) := by
      rw [hbranches]
      decide
    have hdir : roundabout.isDir ⟨"r"⟩ = true := by decide +kernel
    exact ((mem_branches_routesIn_iff hw hdir).1 (List.mem_map.1 hmem)).2.2
  have hback : roundabout.resolve? (chainPath ⟨"r"⟩ ([] ++ ["[a]", "[up]"])) =
      roundabout.resolve? (chainPath ⟨"r"⟩ []) := by decide +kernel
  have hround := (hlinked.round [] _ hchain hback 3).2 (by decide +kernel)
  refine ⟨hw, hlinked, fun hfree => ?_, (hlinked.chains _).2 ⟨by simp, hround⟩⟩
  have hlink : roundabout.nodeAt? (chainPath ⟨"r"⟩ ["[a]"]) "[up]" = some (.link ⟨".."⟩) := by
    rfl
  have hfound := hlinked.loopFree_iff.1 hfree _ hchain
  obtain ⟨c, hc, hheld⟩ := (hfound.2 ["[a]"] "[up]" (by simp)).node
  rw [hlink, Option.some.injEq] at hc
  exact hheld _ hc.symm [] (by simp) hback.symm

end FileTree

end ViewLayers
