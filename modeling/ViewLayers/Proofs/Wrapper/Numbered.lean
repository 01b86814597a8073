import Mathlib.Data.List.Basic
import ViewLayers.Proofs.Wrapper.Hygiene
import ViewLayers.Proofs.Wrapper.Objects
import ViewLayers.Proofs.Wrapper.Specifiers

/-!
What the numbered identifiers of a wrapper stand for. The list of routes counts its objects while
it is built, and the imports and declarations of routes take their numbers from the list of all
routes; skins are numbered once with their files and once with their keys. These numbers agree, so
that a numbered identifier stands for one file wherever it occurs, as far as its specifier denotes
that file and no async export has its name.
-/

namespace ViewLayers.Wrapper

/-! ### The objects of routes -/

/-- Objects that are nested as the routes of a forest are, and the pairs of them in preorder. A
property `children` is there for the routes below, if there are any. -/
inductive Nested : List Route → List Expr → List (Route × Expr) → Prop
  | nil : Nested [] [] []
  | cons {r : Route} {e : Expr} {rs : List Route} {below es : List Expr}
      {ps qs : List (Route × Expr)}
      (hchildren : e.prop? "children" = if r.children.isEmpty then none else some (.list below))
      (hbelow : Nested r.children below ps) (hrest : Nested rs es qs) :
      Nested (r :: rs) (e :: es) ((r, e) :: ps ++ qs)

structure Shown (i : Nat) (r : Route) (e : Expr) : Prop where
  keys : e.keys = "path" :: (Source.optional r.view.isSome "element"
    ++ Source.optional (!r.children.isEmpty) "children")
  path : e.prop? "path" = some (if r.metadata.isSome
    then .orElse (.member (.own (.routeMeta i)) "path") (.text r.pattern) else .text r.pattern)
  element : e.prop? "element" = if r.view.isSome
    then some (.call (.own .createElement)
      [.own (if r.loader.isSome then .route i else .routeView i)]) else none

namespace Source

open Route

lemma shown_routeObject (i : Nat) (r : Route) : Shown i r (routeObject i r) := by
  obtain ⟨_, pattern, _, view, loader, metadata, cs⟩ := r
  cases view <;> cases cs <;>
    exact ⟨by simp [routeObject, optional, Expr.keys, Expr.fields, Key.name?],
      by simp [routeObject, optional, Expr.prop?, Expr.fields, Key.name?],
      by simp [routeObject, optional, Expr.prop?, Expr.fields, Key.name?, element]⟩

lemma prop?_children_routeObject (i : Nat) (r : Route) : (routeObject i r).prop? "children" =
    if r.children.isEmpty then none else some (.list (routeObjects (i + 1) r.children)) := by
  obtain ⟨_, pattern, _, view, loader, metadata, cs⟩ := r
  cases view <;> cases cs <;> simp [routeObject, optional, Expr.prop?, Expr.fields, Key.name?]

/-- Pairs of routes with their objects, numbered from `i` on. -/
def ShownFrom (i : Nat) (ps : List (Route × Expr)) : Prop :=
  ∀ j r e, ps[j]? = some (r, e) → Shown (i + j) r e

lemma ShownFrom.cons {i : Nat} {r : Route} {e : Expr} {ps : List (Route × Expr)}
    (h : Shown i r e) (hps : ShownFrom (i + 1) ps) : ShownFrom i ((r, e) :: ps) := by
  intro j r' e' hj
  cases j with
  | zero =>
    obtain ⟨rfl, rfl⟩ := Prod.mk.inj (Option.some.inj hj)
    exact h
  | succ j =>
    rw [List.getElem?_cons_succ] at hj
    have hshown := hps j r' e' hj
    rwa [Nat.add_assoc, Nat.add_comm 1 j] at hshown

lemma ShownFrom.append {i : Nat} {ps qs : List (Route × Expr)} (hps : ShownFrom i ps)
    (hqs : ShownFrom (i + ps.length) qs) : ShownFrom i (ps ++ qs) := by
  intro j r e hj
  rcases Nat.lt_or_ge j ps.length with hlt | hge
  · rw [List.getElem?_append_left hlt] at hj
    exact hps j r e hj
  · rw [List.getElem?_append_right hge] at hj
    have hshown := hqs _ r e hj
    rwa [Nat.add_assoc, Nat.add_sub_cancel' hge] at hshown

mutual

lemma nested_below : (r : Route) → (i : Nat) → ∃ ps,
    Nested r.children (routeObjects i r.children) ps ∧
      (r :: ps.map Prod.fst) = r.preorder ∧ ShownFrom i ps
  | ⟨_, _, _, _, _, _, cs⟩, i => by
    obtain ⟨ps, hnested, hpreorder, hshown⟩ := nested_routeObjects cs i
    exact ⟨ps, hnested, by rw [hpreorder, preorder], hshown⟩

lemma nested_routeObjects : (rs : List Route) → (i : Nat) → ∃ ps,
    Nested rs (routeObjects i rs) ps ∧ ps.map Prod.fst = preorderOfList rs ∧ ShownFrom i ps
  | [], _ => ⟨[], .nil, rfl, by simp [ShownFrom]⟩
  | r :: rs, i => by
    obtain ⟨ps, hbelow, hr, hps⟩ := nested_below r (i + 1)
    obtain ⟨qs, hrest, hrs, hqs⟩ := nested_routeObjects rs (i + routeCount r)
    -- the routes after this one count on from where those below it end
    have hcount : routeCount r = ps.length + 1 := by
      rw [routeCount_eq, ← hr, List.length_cons, List.length_map]
    refine ⟨(r, routeObject i r) :: ps ++ qs,
      .cons (prop?_children_routeObject i r) hbelow hrest, ?_,
      (ShownFrom.cons (shown_routeObject i r) hps).append ?_⟩
    · rw [List.map_append, List.map_cons, hr, hrs, preorderOfList]
    · rwa [List.length_cons, ← hcount]

end

/-! ### Where numbers are introduced -/

variable {s : Source}

lemma mem_routes_iff_getElem? {q : NumberedRoute} : q ∈ s.routes ↔
    ∃ (i : Nat) (r : Route), (preorderOfList s.component.routes)[i]? = some r ∧
      q = ⟨i, r, r.loader.bind fun file => (s.exportsOf file).head?⟩ := by
  rw [mem_routes_iff]
  constructor
  · rintro ⟨⟨r, i⟩, h, rfl⟩
    exact ⟨i, r, List.mem_zipIdx_iff_getElem?.1 h, rfl⟩
  · rintro ⟨i, r, h, rfl⟩
    exact ⟨(r, i), List.mem_zipIdx_iff_getElem?.2 h, rfl⟩

/-- The file that an identifier with a number stands for. -/
def file? (s : Source) : Role → Option Path
  | .skin n => (s.component.skins.entries[n]?).map Prod.snd
  | .routeView i => (preorderOfList s.component.routes)[i]?.bind (·.view)
  | .routeLoader i => (preorderOfList s.component.routes)[i]?.bind (·.loader)
  | .routeMeta i => (preorderOfList s.component.routes)[i]?.bind (·.metadata)
  | _ => none

end Source

/-- Whether a number is part of an identifier. -/
def Role.isNumbered : Role → Bool
  | .skin _ | .routeLoader _ | .routeMeta _ | .routeView _ | .route _ => true
  | _ => false

namespace Source

variable {s : Source} {r : Role}

/-- The import of a route's loader: of what its file exports first, if that is known. -/
def loaderImport (s : Source) (i : Nat) (file : Path) : Import :=
  match (s.exportsOf file).head? with
  | some name => .named (s.specifier file) [(name, .own (.routeLoader i))]
  | none => .default (s.specifier file) (.routeLoader i)

lemma binds_loaderImport (i : Nat) (file : Path) :
    (s.loaderImport i file).binds = [.own (.routeLoader i)] := by
  unfold loaderImport
  cases (s.exportsOf file).head? <;> rfl

inductive ImportsNumbered (s : Source) : Role → Import → Prop
  | skin {n : Nat} {file : Path} (h : s.file? (.skin n) = some file) :
      ImportsNumbered s (.skin n) (.default (s.specifier file) (.skin n))
  | routeLoader {i : Nat} {file : Path} (h : s.file? (.routeLoader i) = some file) :
      ImportsNumbered s (.routeLoader i) (s.loaderImport i file)
  | routeMeta {i : Nat} {file : Path} (h : s.file? (.routeMeta i) = some file) :
      ImportsNumbered s (.routeMeta i) (.default (s.specifier file) (.routeMeta i))

lemma ImportsNumbered.binds {imp : Import} (h : s.ImportsNumbered r imp) :
    imp.binds = [.own r] := by
  cases h with
  | routeLoader => exact binds_loaderImport _ _
  | _ => rfl

lemma mem_importSkins_iff {imp : Import} : imp ∈ s.importSkins ↔ ∃ n file,
    s.file? (.skin n) = some file ∧ imp = .default (s.specifier file) (.skin n) := by
  simp only [importSkins, List.mem_map, Prod.exists, List.mem_zipIdx_iff_getElem?, file?,
    Dict.values, List.getElem?_map]
  constructor
  · rintro ⟨file, n, h, rfl⟩
    exact ⟨n, file, h, rfl⟩
  · rintro ⟨n, file, h, rfl⟩
    exact ⟨file, n, h, rfl⟩

lemma mem_importRoute_iff {i : Nat} {route : Route} {imp : Import} :
    imp ∈ s.importRoute ⟨i, route, route.loader.bind fun file => (s.exportsOf file).head?⟩ ↔
      (∃ file, route.loader = some file ∧ imp = s.loaderImport i file) ∨
        ∃ file, route.metadata = some file ∧ imp = .default (s.specifier file) (.routeMeta i) := by
  rw [importRoute, List.mem_append]
  refine or_congr ?_ ?_
  · cases hl : route.loader with
    | none => simp
    | some file =>
      simp only [Option.bind_some, Option.some.injEq, exists_eq_left', loaderImport]
      cases (s.exportsOf file).head? <;> simp
  · cases hm : route.metadata <;> simp [importFile]

lemma mem_flatMap_importRoute_iff {imp : Import} : imp ∈ s.routes.flatMap s.importRoute ↔
    (∃ i file, s.file? (.routeLoader i) = some file ∧ imp = s.loaderImport i file) ∨
      ∃ i file, s.file? (.routeMeta i) = some file ∧
        imp = .default (s.specifier file) (.routeMeta i) := by
  simp only [List.mem_flatMap, mem_routes_iff_getElem?, file?, Option.bind_eq_some_iff]
  constructor
  · rintro ⟨q, ⟨i, r, hr, rfl⟩, h⟩
    rcases mem_importRoute_iff.1 h with ⟨file, hfile, rfl⟩ | ⟨file, hfile, rfl⟩
    · exact .inl ⟨i, file, ⟨r, hr, hfile⟩, rfl⟩
    · exact .inr ⟨i, file, ⟨r, hr, hfile⟩, rfl⟩
  · rintro (⟨i, file, ⟨r, hr, hfile⟩, rfl⟩ | ⟨i, file, ⟨r, hr, hfile⟩, rfl⟩)
    · exact ⟨_, ⟨i, r, hr, rfl⟩, mem_importRoute_iff.2 (.inl ⟨file, hfile, rfl⟩)⟩
    · exact ⟨_, ⟨i, r, hr, rfl⟩, mem_importRoute_iff.2 (.inr ⟨file, hfile, rfl⟩)⟩

lemma isNumbered_of_mem_libraryNames {x : String × Role} (h : x ∈ libraryNames) :
    x.2.isNumbered = false := by
  have hall : (libraryNames.all fun x => !x.2.isNumbered) = true := by decide
  simpa using List.all_eq_true.1 hall x h

/-- Only skins and routes have imports with numbers. -/
lemma exists_importsNumbered {imp : Import} (h : imp ∈ s.module.imports)
    (hb : .own r ∈ imp.binds) (hr : r.isNumbered = true) : ∃ r', s.ImportsNumbered r' imp := by
  have hother : ∀ {part : List Import} {is : List Ident}, part.flatMap Import.binds = is →
      .own r ∉ is → imp ∉ part :=
    fun hpart his himp => his (hpart ▸ List.mem_flatMap.2 ⟨imp, himp, hb⟩)
  have hlibrary : ∀ {names : List (String × Role)}, names ⊆ libraryNames →
      .own r ∉ (names.map Prod.snd).map Ident.own := by
    intro names hnames hmem
    obtain ⟨n, hn⟩ : ∃ n, (n, r) ∈ names := by simpa using hmem
    rw [isNumbered_of_mem_libraryNames (hnames hn)] at hr
    contradiction
  have hconcern : ∀ {b : Bool} {role : Role}, role.isNumbered = false →
      .own r ∉ (optional b role).map Ident.own := by
    intro b role hrole hmem
    obtain ⟨-, rfl⟩ : b = true ∧ r = role := by simpa using hmem
    rw [hrole] at hr
    contradiction
  change imp ∈ s.imports at h
  simp only [imports, List.mem_append] at h
  rcases h with ((((((((h | h) | h) | h) | h) | h) | h) | h) | h)
  · exact absurd h (hother (binds_importOwn _ _) (hlibrary (frameworkNames_subset s)))
  · exact absurd h (hother (binds_importOwn _ _) (hlibrary fun _ hx => routerNames_subset _ hx))
  · exact absurd h (hother (binds_importOwn _ _) (hlibrary (runtimeNames_subset s)))
  · exact absurd h (hother (binds_importBindings s) (by simp))
  · exact absurd h (hother (binds_importFile s _ _) (hconcern rfl))
  · exact absurd h (hother (binds_importFile s _ _) (hconcern rfl))
  · exact absurd h (hother (binds_importFile s _ _) (hconcern rfl))
  · obtain ⟨n, file, hfile, rfl⟩ := mem_importSkins_iff.1 h
    exact ⟨_, .skin hfile⟩
  · rcases mem_flatMap_importRoute_iff.1 h with ⟨i, file, hfile, rfl⟩ | ⟨i, file, hfile, rfl⟩
    · exact ⟨_, .routeLoader hfile⟩
    · exact ⟨_, .routeMeta hfile⟩

lemma ImportsNumbered.mem {imp : Import} (h : s.ImportsNumbered r imp) :
    imp ∈ s.module.imports := by
  change imp ∈ s.imports
  simp only [imports, List.mem_append]
  cases h with
  | skin h => exact .inl (.inr (mem_importSkins_iff.2 ⟨_, _, h, rfl⟩))
  | routeLoader h => exact .inr (mem_flatMap_importRoute_iff.2 (.inl ⟨_, _, h, rfl⟩))
  | routeMeta h => exact .inr (mem_flatMap_importRoute_iff.2 (.inr ⟨_, _, h, rfl⟩))

lemma imported_iff (hr : r.isNumbered = true) (imp : Import) :
    imp ∈ s.module.imports ∧ .own r ∈ imp.binds ↔ s.ImportsNumbered r imp := by
  constructor
  · rintro ⟨h, hb⟩
    obtain ⟨r', himp⟩ := exists_importsNumbered h hb hr
    rw [himp.binds, List.mem_singleton] at hb
    injection hb with hb
    exact hb ▸ himp
  · intro h
    exact ⟨h.mem, h.binds ▸ List.mem_singleton_self _⟩

/-! ### What is declared with numbers -/

lemma routeView_declared_iff (i : Nat) (d : Decl) :
    d ∈ s.module.decls ∧ .own (.routeView i) ∈ d.binds ↔
      ∃ file, s.file? (.routeView i) = some file ∧
        d = .const (.routeView i) (.call (.own .lazy) [.thunk (.load (s.specifier file))]) := by
  constructor
  · rintro ⟨hd, hb⟩
    cases mem_decls_iff.1 hd with
    | @routeView q file hq hv =>
      obtain ⟨i', r, hr, rfl⟩ := mem_routes_iff_getElem?.1 hq
      obtain rfl : i = i' := by simpa [lazyDecl, Decl.binds] using hb
      exact ⟨file, Option.bind_eq_some_iff.2 ⟨r, hr, hv⟩, rfl⟩
    | _ => simp [Decl.binds, lazyDecl, routeFunction, hookFunction, themedDecl, outerFunction,
        exported] at hb
  · rintro ⟨file, h, rfl⟩
    obtain ⟨r, hr, hv⟩ := Option.bind_eq_some_iff.1 h
    exact ⟨mem_decls_iff.2 (.routeView (mem_routes_iff_getElem?.2 ⟨i, r, hr, rfl⟩) hv),
      List.mem_singleton_self _⟩

lemma route_declared_iff (i : Nat) (d : Decl) :
    d ∈ s.module.decls ∧ .own (.route i) ∈ d.binds ↔
      (∃ view, s.file? (.routeView i) = some view) ∧
        (∃ loader, s.file? (.routeLoader i) = some loader) ∧ d = routeFunction i := by
  constructor
  · rintro ⟨hd, hb⟩
    cases mem_decls_iff.1 hd with
    | @route q hq hv hl =>
      obtain ⟨i', r, hr, rfl⟩ := mem_routes_iff_getElem?.1 hq
      obtain rfl : i = i' := by simpa [routeFunction, Decl.binds] using hb
      obtain ⟨view, hv⟩ := Option.isSome_iff_exists.1 hv
      obtain ⟨loader, hl⟩ := Option.isSome_iff_exists.1 hl
      exact ⟨⟨view, Option.bind_eq_some_iff.2 ⟨r, hr, hv⟩⟩,
        ⟨loader, Option.bind_eq_some_iff.2 ⟨r, hr, hl⟩⟩, rfl⟩
    | _ => simp [Decl.binds, lazyDecl, hookFunction, themedDecl, outerFunction, exported] at hb
  · rintro ⟨⟨view, hview⟩, ⟨loader, hloader⟩, rfl⟩
    obtain ⟨r, hr, hv⟩ := Option.bind_eq_some_iff.1 hview
    obtain ⟨r', hr', hl⟩ := Option.bind_eq_some_iff.1 hloader
    obtain rfl : r = r' := Option.some.inj (hr.symm.trans hr')
    refine ⟨mem_decls_iff.2 (.route (mem_routes_iff_getElem?.2 ⟨i, r, hr, rfl⟩) ?_ ?_),
      List.mem_singleton_self _⟩
    · exact Option.isSome_iff_exists.2 ⟨view, hv⟩
    · exact Option.isSome_iff_exists.2 ⟨loader, hl⟩

lemma routes_declared_iff (d : Decl) : d ∈ s.module.decls ∧ .own .routes ∈ d.binds ↔
    s.component.routes ≠ [] ∧ d = .const .routes (.list (routeObjects 0 s.component.routes)) := by
  constructor
  · rintro ⟨hd, hb⟩
    cases mem_decls_iff.1 hd with
    | routes h => exact ⟨h, rfl⟩
    | _ => simp [Decl.binds, lazyDecl, routeFunction, hookFunction, themedDecl, outerFunction,
        exported] at hb
  · rintro ⟨h, rfl⟩
    exact ⟨mem_decls_iff.2 (.routes h), List.mem_singleton_self _⟩

lemma themed_declared_iff (d : Decl) : d ∈ s.module.decls ∧ .own .themed ∈ d.binds ↔
    s.component.skins.isEmpty = false ∧ ∃ fields,
      d = .const .themed (.call (.own .skinned)
        [.own (if s.Hooked then .core else .view), .object fields]) ∧
      ∀ n : Nat, fields[n]? =
        (s.component.skins.entries[n]?).map fun e => (.text e.1, .own (.skin n)) := by
  rw [themed_mem_iff]
  have hfields : ∀ n : Nat, (s.component.skins.keys.zipIdx.map fun key =>
      (Key.text key.1, Expr.own (.skin key.2)))[n]? =
        (s.component.skins.entries[n]?).map fun e => (.text e.1, .own (.skin n)) := by
    intro n
    rw [List.getElem?_map, List.getElem?_zipIdx, Dict.keys, List.getElem?_map]
    cases s.component.skins.entries[n]? <;> simp
  refine and_congr_right fun _ => ⟨?_, ?_⟩
  · rintro rfl
    exact ⟨_, rfl, hfields⟩
  · rintro ⟨fields, rfl, h⟩
    rw [List.ext_getElem? fun n => (h n).trans (hfields n).symm]
    rfl

/-! ### One file for a number -/

lemma isNumbered_eq_false_of_mem_localRoles {d : Decl} (hd : d ∈ s.module.decls)
    (hr : r ∈ d.localRoles) : r.isNumbered = false := by
  have hplace := place_of_mem_localRoles hd hr
  cases r <;> first | rfl | simp [Role.place] at hplace

lemma count_bound (h : .own r ∈ s.module.bound) : s.module.bound.count (.own r) = 1 := by
  have hcount : s.module.bound.count (.own r) = s.topRoles.count r := by
    rw [← own_bound, List.count_filterMap, List.count_eq_countP]
    refine List.countP_congr fun x _ => ?_
    cases x <;> simp [Ident.own?]
  rw [hcount]
  exact List.count_eq_one_of_mem (nodup_topRoles s) (mem_topRoles_iff.2 h)

/-- A numbered identifier is alone with its name unless an async export has that name. -/
lemma filter_name_eq_iff {p : HygienePrefix} (h : .own r ∈ s.module.bound)
    (hapart : ∀ r', .own r' ∈ s.module.bound → p.ident r'.suffix = p.ident r.suffix → r' = r) :
    s.module.bound.filter (fun i => i.name p = p.ident r.suffix) = [.own r] ↔
      p.ident r.suffix ∉ s.bindings := by
  constructor
  · intro he hmem
    have htaken : Ident.taken (p.ident r.suffix) ∈ [Ident.own r] := by
      rw [← he, List.mem_filter, taken_mem_bound_iff]
      exact ⟨hmem, decide_eq_true rfl⟩
    exact Ident.noConfusion (List.mem_singleton.1 htaken)
  · intro hfree
    have hname : ∀ i ∈ s.module.bound,
        decide (i.name p = p.ident r.suffix) = (i == .own r) := by
      intro i hi
      rw [Bool.eq_iff_iff, decide_eq_true_iff, beq_iff_eq]
      cases i with
      | own r' => exact ⟨fun he => congrArg _ (hapart r' hi he), fun he => he ▸ rfl⟩
      | taken n =>
        refine iff_of_false (fun he => hfree ?_) nofun
        exact he ▸ (taken_mem_bound_iff s n).1 hi
    rw [List.filter_congr hname, List.filter_beq, count_bound h, List.replicate_one]

structure Numbered (s : Source) (p : HygienePrefix) : Prop where
  /-- The objects of routes are nested as the routes are, and each goes by the number of its place
  in preorder. -/
  routes : ∃ es ps, Nested s.component.routes es ps ∧
    ps.map Prod.fst = Route.preorderOfList s.component.routes ∧
    (∀ d, d ∈ s.module.decls ∧ .own .routes ∈ d.binds ↔
      s.component.routes ≠ [] ∧ d = .const .routes (.list es)) ∧
    ∀ i r e, ps[i]? = some (r, e) → Shown i r e
  /-- So do the views of routes, -/
  routeView : ∀ i d, d ∈ s.module.decls ∧ .own (.routeView i) ∈ d.binds ↔
    ∃ file, s.file? (.routeView i) = some file ∧
      d = .const (.routeView i) (.call (.own .lazy) [.thunk (.load (s.specifier file))])
  /-- what runs their loaders, -/
  route : ∀ i d, d ∈ s.module.decls ∧ .own (.route i) ∈ d.binds ↔
    (∃ view, s.file? (.routeView i) = some view) ∧
      (∃ loader, s.file? (.routeLoader i) = some loader) ∧
      d = .function (.route i)
        [(.dataPlane, .call (.own .useDataPlane) []),
         (.load, .call (.own .useRouteLoader) [.own (.routeLoader i), .own .dataPlane])]
        (element (.routeView i) (some (withProps [("load", .own .load)])))
  /-- and their other files. -/
  routeLoader : ∀ i imp, imp ∈ s.module.imports ∧ .own (.routeLoader i) ∈ imp.binds ↔
    ∃ file, s.file? (.routeLoader i) = some file ∧
      imp = match (s.exportsOf file).head? with
        | some name => .named (s.specifier file) [(name, .own (.routeLoader i))]
        | none => .default (s.specifier file) (.routeLoader i)
  routeMeta : ∀ i imp, imp ∈ s.module.imports ∧ .own (.routeMeta i) ∈ imp.binds ↔
    ∃ file, s.file? (.routeMeta i) = some file ∧
      imp = .default (s.specifier file) (.routeMeta i)
  /-- Skins go by the places of their keys, with their files -/
  skin : ∀ n imp, imp ∈ s.module.imports ∧ .own (.skin n) ∈ imp.binds ↔
    ∃ file, s.file? (.skin n) = some file ∧ imp = .default (s.specifier file) (.skin n)
  /-- and with their keys. -/
  themed : ∀ d, d ∈ s.module.decls ∧ .own .themed ∈ d.binds ↔
    s.component.skins.isEmpty = false ∧ ∃ fields,
      d = .const .themed (.call (.own .skinned)
        [.own (if s.Hooked then .core else .view), .object fields]) ∧
      ∀ n : Nat, fields[n]? =
        (s.component.skins.entries[n]?).map fun e => (.text e.1, .own (.skin n))
  /-- A numbered identifier that stands in a declaration is introduced at the top, -/
  top : ∀ d ∈ s.module.decls, ∀ r : Role, r.isNumbered = true → .own r ∈ d.occurrences →
    .own r ∈ s.module.bound
  /-- only once, -/
  once : ∀ r, .own r ∈ s.module.bound → s.module.bound.count (.own r) = 1
  /-- in no function, -/
  inside : ∀ d ∈ s.module.decls, ∀ r ∈ d.localRoles, r.isNumbered = false
  /-- and no other that the wrapper introduces has its name. -/
  apart : ∀ r r' : Role, r.isNumbered = true →
    (.own r' ∈ s.module.bound ∨ ∃ d ∈ s.module.decls, r' ∈ d.localRoles) →
    p.ident r'.suffix = p.ident r.suffix → r' = r
  /-- It is alone with its name iff no async export has it. -/
  alone_iff : ∀ r : Role, r.isNumbered = true → .own r ∈ s.module.bound →
    (s.module.bound.filter (fun i => i.name p = p.ident r.suffix) = [.own r] ↔
      p.ident r.suffix ∉ s.bindings)
  /-- The specifier of its file denotes that file iff, below the root, neither a step up nor `/`
  itself counts on the way, and elsewhere the path has no backslash. -/
  denotes_iff : ∀ r file, s.file? r = some file →
    (Denotes s.root (s.specifier file) file ↔
      match s.root.below? file with
      | some ss => ∀ st ∈ s.root.spot.counted ss, st ≠ .up ∧ st ≠ .root
      | none => '\\' ∉ file.text.toList)

lemma eq_of_numbered_ident_eq {p : HygienePrefix} {r' : Role} (hr : r.isNumbered = true)
    (hr' : .own r' ∈ s.module.bound ∨ ∃ d ∈ s.module.decls, r' ∈ d.localRoles)
    (he : p.ident r'.suffix = p.ident r.suffix) : r' = r := by
  refine Role.ident_inj ?_ (by cases r <;> trivial) he
  rcases hr' with h | ⟨d, hd, h⟩
  · exact named_of_mem_topRoles (mem_topRoles_iff.2 h)
  · exact (admissible_of_mem_localRoles hd h).named

/-- **A numbered identifier stands for one file** wherever it occurs, and reaches that file unless
its specifier loses a step or an async export has its name. -/
theorem numbered (s : Source) (p : HygienePrefix) : s.Numbered p where
  routes := by
    obtain ⟨ps, hnested, hpreorder, hshown⟩ := nested_routeObjects s.component.routes 0
    refine ⟨_, ps, hnested, hpreorder, routes_declared_iff, fun i r e h => ?_⟩
    have hi := hshown i r e h
    rwa [Nat.zero_add] at hi
  routeView := routeView_declared_iff
  route := route_declared_iff
  routeLoader i imp := by
    rw [imported_iff rfl]
    exact ⟨fun | .routeLoader h => ⟨_, h, rfl⟩, fun ⟨_, h, he⟩ => he ▸ .routeLoader h⟩
  routeMeta i imp := by
    rw [imported_iff rfl]
    exact ⟨fun | .routeMeta h => ⟨_, h, rfl⟩, fun ⟨_, h, he⟩ => he ▸ .routeMeta h⟩
  skin n imp := by
    rw [imported_iff rfl]
    exact ⟨fun | .skin h => ⟨_, h, rfl⟩, fun ⟨_, h, he⟩ => he ▸ .skin h⟩
  themed := themed_declared_iff
  top d hd r hr h := by
    rcases introduced_of_mem_occurrences hd h with htop | hlocal
    · exact mem_topRoles_iff.1 htop
    · rw [isNumbered_eq_false_of_mem_localRoles hd hlocal] at hr
      contradiction
  once r := count_bound
  inside d hd r := isNumbered_eq_false_of_mem_localRoles hd
  apart r r' := eq_of_numbered_ident_eq
  alone_iff r hr h := filter_name_eq_iff h fun r' hr' => eq_of_numbered_ident_eq hr (.inl hr')
  denotes_iff r file _ := by
    cases h : s.root.below? file with
    | some ss => exact denotes_specifier_of_below h
    | none => exact denotes_specifier_of_not_below h

end Source

/-- The views of two routes can have one specifier, where the way to one of them goes up. -/
example : specifier ⟨"/proj"⟩ ⟨"/proj/src/../lib/a/index.tsx"⟩ =
    specifier ⟨"/proj"⟩ ⟨"/proj/src/lib/a/index.tsx"⟩ := by decide

end ViewLayers.Wrapper
