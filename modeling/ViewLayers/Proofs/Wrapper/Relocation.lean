import ViewLayers.Proofs.Wrapper.Declarations
import ViewLayers.Proofs.Wrapper.Specifiers
import ViewLayers.Wrapper.Synthesis

/-!
Wrappers of one project at different places. What a wrapper says of a file is the way to it from
the root of its project; so the wrapper is the same wherever the project lies.
-/

namespace ViewLayers

/-! ### A component at another place -/

namespace Route

mutual

/-- A route with its paths joined to a base. -/
def within (base : Path) : Route → Route
  | ⟨segment, pattern, directory, view, loader, metadata, cs⟩ =>
    ⟨segment, pattern, base.join directory, view.map base.join, loader.map base.join,
      metadata.map base.join, withinAll base cs⟩

def withinAll (base : Path) : List Route → List Route
  | [] => []
  | r :: rs => r.within base :: withinAll base rs

end

/-- The paths of a route, those of the routes below it apart. -/
def paths (r : Route) : List Path :=
  r.directory :: (r.view.toList ++ r.loader.toList ++ r.metadata.toList)

variable {base file : Path}

lemma view_mem_paths {r : Route} (h : r.view = some file) : file ∈ r.paths := by
  simp [paths, h]

lemma loader_mem_paths {r : Route} (h : r.loader = some file) : file ∈ r.paths := by
  simp [paths, h]

lemma metadata_mem_paths {r : Route} (h : r.metadata = some file) : file ∈ r.paths := by
  simp [paths, h]

lemma view_within (r : Route) : (r.within base).view = r.view.map base.join := by
  cases r
  rfl

lemma loader_within (r : Route) : (r.within base).loader = r.loader.map base.join := by
  cases r
  rfl

lemma metadata_within (r : Route) : (r.within base).metadata = r.metadata.map base.join := by
  cases r
  rfl

lemma isEmpty_withinAll (rs : List Route) : (withinAll base rs).isEmpty = rs.isEmpty := by
  cases rs <;> rfl

mutual

theorem preorder_within : (r : Route) → (r.within base).preorder = r.preorder.map (within base)
  | ⟨_, _, _, _, _, _, cs⟩ => by
    rw [preorder, List.map_cons, ← preorder_withinAll cs]
    rfl

theorem preorder_withinAll : (rs : List Route) →
    preorderOfList (withinAll base rs) = (preorderOfList rs).map (within base)
  | [] => rfl
  | r :: rs => by
    rw [withinAll, preorderOfList, preorderOfList, List.map_append, preorder_within r,
      preorder_withinAll rs]

end

end Route

namespace Component

/-- A component with its paths joined to a base. -/
def within (base : Path) (c : Component) : Component where
  name := c.name
  directory := base.join c.directory
  view := base.join c.view
  concerns := .ofFunction fun k => (c.concerns.get k).map base.join
  skins := c.skins.map base.join
  routes := Route.withinAll base c.routes

/-- All paths of a component. -/
def paths (c : Component) : List Path :=
  c.directory :: c.view :: (Concern.all.flatMap fun k => (c.concerns.get k).toList)
    ++ c.skins.values ++ (Route.preorderOfList c.routes).flatMap Route.paths

/-- The files of a component whose exports its wrapper depends on. -/
def scripts (c : Component) : List Path :=
  (c.concerns.get .async).toList ++ (Route.preorderOfList c.routes).flatMap fun r => r.loader.toList

variable {base q : Path} {c : Component}

lemma mem_paths_of_concern {k : Concern} (h : q ∈ c.concerns.get k) : q ∈ c.paths := by
  have hk : q ∈ Concern.all.flatMap fun k => (c.concerns.get k).toList :=
    List.mem_flatMap.2 ⟨k, Concern.mem_all k, Option.mem_toList.2 h⟩
  simp [paths, hk]

lemma mem_paths_of_skin (h : q ∈ c.skins.values) : q ∈ c.paths := by
  simp [paths, h]

lemma mem_paths_of_route {r : Route} (hr : r ∈ Route.preorderOfList c.routes) (h : q ∈ r.paths) :
    q ∈ c.paths :=
  List.mem_append_right _ (List.mem_flatMap.2 ⟨r, hr, h⟩)

lemma mem_scripts_of_route {r : Route} (hr : r ∈ Route.preorderOfList c.routes)
    (h : q ∈ r.loader) : q ∈ c.scripts :=
  List.mem_append_right _ (List.mem_flatMap.2 ⟨r, hr, Option.mem_toList.2 h⟩)

lemma scripts_subset_paths (c : Component) : c.scripts ⊆ c.paths := by
  intro q hq
  rcases List.mem_append.1 hq with hq | hq
  · exact mem_paths_of_concern (Option.mem_toList.1 hq)
  · obtain ⟨r, hr, hq⟩ := List.mem_flatMap.1 hq
    exact mem_paths_of_route hr (Route.loader_mem_paths (Option.mem_toList.1 hq))

lemma concerns_within (k : Concern) :
    (c.within base).concerns.get k = (c.concerns.get k).map base.join :=
  Concerns.get_ofFunction _ k

lemma has_within (k : Concern) : (c.within base).has k = c.has k := by
  rw [has, concerns_within, Option.isSome_map]
  rfl

lemma keys_within : (c.within base).skins.keys = c.skins.keys := by
  simp [within, Dict.map, Dict.keys, Function.comp_def]

lemma values_within : (c.within base).skins.values = c.skins.values.map base.join := by
  simp [within, Dict.map, Dict.values, Function.comp_def]

lemma isEmpty_skins_within : (c.within base).skins.isEmpty = c.skins.isEmpty := by
  simp [within, Dict.map, Dict.isEmpty]

lemma isEmpty_routes_within : (c.within base).routes.isEmpty = c.routes.isEmpty :=
  Route.isEmpty_withinAll c.routes

lemma plan_within (n : Nat) : (c.within base).plan n = c.plan n := by
  simp only [plan, has_within, isEmpty_skins_within, isEmpty_routes_within]

lemma hasRouteLoaders_within : (c.within base).hasRouteLoaders = c.hasRouteLoaders := by
  rw [hasRouteLoaders, hasRouteLoaders, Route.anyHasLoader_eq_any, Route.anyHasLoader_eq_any,
    within, Route.preorder_withinAll, List.any_map]
  congr 1
  funext r
  rw [Function.comp_apply, Route.loader_within, Option.isSome_map]

end Component

namespace Wrapper

open Text ViewLayers.Path

/-! ### What a wrapper says of a file -/

lemma specifier_join (root : Path) {q : Path} (hq : q.isAbsolute = false) :
    specifier root (root.join q) = specifier ⟨""⟩ q := by
  have hspec : ∀ root : Path, specifier root (root.join q) =
      "/" ++ joinWith "/" (q.moves.filterMap Step.name?) := by
    intro root
    obtain ⟨ss, hss, hnames⟩ := below?_join root hq
    rw [specifier_of_below hss, hnames]
  rw [hspec, ← hspec ⟨""⟩, empty_join]

namespace Source

/-- A source with its paths joined to a root, against one with the paths as they are. -/
structure Within (s' s : Source) : Prop where
  component : s'.component = s.component.within s'.root
  root : s.root = ⟨""⟩
  options : s'.options = s.options
  relative : ∀ q ∈ s.component.paths, q.isAbsolute = false
  exports : ∀ q ∈ s.component.scripts, s'.exportsOf (s'.root.join q) = s.exportsOf q

/-! ### What does not depend on the place -/

mutual

theorem routeCount_within (base : Path) : (r : Route) → routeCount (r.within base) = routeCount r
  | ⟨_, _, _, _, _, _, cs⟩ => congrArg (1 + ·) (routeCounts_within base cs)

theorem routeCounts_within (base : Path) : (rs : List Route) →
    routeCounts (Route.withinAll base rs) = routeCounts rs
  | [] => rfl
  | r :: rs => congrArg₂ (· + ·) (routeCount_within base r) (routeCounts_within base rs)

end

mutual

/-- The objects of routes say nothing of where their files are. -/
theorem routeObject_within (base : Path) (i : Nat) : (r : Route) →
    routeObject i (r.within base) = routeObject i r
  | ⟨_, _, _, view, loader, metadata, cs⟩ => by
    rw [Route.within, routeObject, routeObject, routeObjects_within base (i + 1) cs,
      Route.isEmpty_withinAll, Option.isSome_map, Option.isSome_map, Option.isSome_map]

theorem routeObjects_within (base : Path) (i : Nat) : (rs : List Route) →
    routeObjects i (Route.withinAll base rs) = routeObjects i rs
  | [] => rfl
  | r :: rs => by
    rw [Route.withinAll, routeObjects, routeObjects, routeObject_within base i r,
      routeCount_within, routeObjects_within base _ rs]

end

variable {s s' : Source} {q : Path}

namespace Within

lemma specifier_eq (h : s'.Within s) (hq : q.isAbsolute = false) :
    s'.specifier (s'.root.join q) = s.specifier q := by
  rw [Source.specifier, Source.specifier, h.root, specifier_join _ hq]

lemma localeFilesPattern_eq (h : s'.Within s) :
    s'.localeFilesPattern = s.localeFilesPattern := by
  have hdirectory : s.component.directory.isAbsolute = false :=
    h.relative _ (by simp [Component.paths])
  have hbeside : (s.component.directory.join ⟨"i18n"⟩).isAbsolute = false :=
    (moves_join (by decide)).1.trans hdirectory
  rw [localeFilesPattern, h.component, Component.within, join_assoc, h.specifier_eq hbeside]
  rfl

lemma bindings_eq (h : s'.Within s) : s'.bindings = s.bindings := by
  unfold bindings
  rw [h.component, Component.concerns_within]
  cases hq : s.component.concerns.get .async with
  | none => rfl
  | some q =>
    have hread := h.exports q (by simp [Component.scripts, hq])
    rw [Option.map_some]
    exact congrArg (List.filter isUsable) hread

lemma plan_eq (h : s'.Within s) : s'.plan = s.plan := by
  rw [plan, plan, h.bindings_eq, h.component, Component.plan_within]

lemma has_eq (h : s'.Within s) (k : Concern) : s'.component.has k = s.component.has k := by
  rw [h.component, Component.has_within]

lemma isEmpty_routes_eq (h : s'.Within s) :
    s'.component.routes.isEmpty = s.component.routes.isEmpty := by
  rw [h.component, Component.isEmpty_routes_within]

lemma routes_eq (h : s'.Within s) : s'.routes =
    s.routes.map fun q => ⟨q.index, q.route.within s'.root, q.loaderExport⟩ := by
  rw [routes, routes, h.component, Component.within, Route.preorder_withinAll, List.zipIdx_map,
    List.map_map, List.map_map]
  refine List.map_congr_left fun x hx => ?_
  obtain ⟨r, i⟩ := x
  have hr : r ∈ Route.preorderOfList s.component.routes := List.fst_mem_of_mem_zipIdx hx
  have hexport : (r.within s'.root).loader.bind (fun file => (s'.exportsOf file).head?) =
      r.loader.bind fun file => (s.exportsOf file).head? := by
    rw [Route.loader_within]
    cases hl : r.loader with
    | none => rfl
    | some file =>
      exact congrArg List.head? (h.exports file (Component.mem_scripts_of_route hr hl))
  exact congrArg (NumberedRoute.mk i (r.within s'.root)) hexport

/-! ### Imports -/

lemma importFile_eq (h : s'.Within s) {file : Option Path} (hf : ∀ q ∈ file, q.isAbsolute = false)
    (r : Role) : s'.importFile (file.map s'.root.join) r = s.importFile file r := by
  cases file with
  | none => rfl
  | some q => exact congrArg (fun t => [Import.default t r]) (h.specifier_eq (hf q rfl))

lemma importConcern_eq (h : s'.Within s) (k : Concern) (r : Role) :
    s'.importFile (s'.component.concerns.get k) r =
      s.importFile (s.component.concerns.get k) r := by
  rw [h.component, Component.concerns_within]
  exact h.importFile_eq (fun q hq => h.relative q (Component.mem_paths_of_concern hq)) r

lemma importBindings_eq (h : s'.Within s) : s'.importBindings = s.importBindings := by
  unfold importBindings
  rw [h.component, Component.concerns_within, h.bindings_eq]
  cases hq : s.component.concerns.get .async with
  | none => rfl
  | some q =>
    rw [Option.map_some]
    dsimp only
    rw [h.specifier_eq (h.relative q (Component.mem_paths_of_concern hq))]

lemma importSkins_eq (h : s'.Within s) : s'.importSkins = s.importSkins := by
  rw [importSkins, importSkins, h.component, Component.values_within, List.zipIdx_map,
    List.map_map]
  refine List.map_congr_left fun x hx => ?_
  have hskin : x.1 ∈ s.component.skins.values := List.fst_mem_of_mem_zipIdx hx
  exact congrArg (Import.default · (.skin x.2))
    (h.specifier_eq (h.relative x.1 (Component.mem_paths_of_skin hskin)))

lemma relative_of_mem_routes (h : s'.Within s) {q : NumberedRoute} (hq : q ∈ s.routes) {file : Path}
    (hf : file ∈ q.route.paths) : file.isAbsolute = false := by
  obtain ⟨x, hx, rfl⟩ := mem_routes_iff.1 hq
  have hr : x.1 ∈ Route.preorderOfList s.component.routes :=
    List.fst_mem_of_mem_zipIdx hx
  exact h.relative file (Component.mem_paths_of_route hr hf)

lemma importRoute_eq (h : s'.Within s) {q : NumberedRoute} (hq : q ∈ s.routes) :
    s'.importRoute ⟨q.index, q.route.within s'.root, q.loaderExport⟩ = s.importRoute q := by
  have hrelative : ∀ file ∈ q.route.paths, file.isAbsolute = false :=
    fun _ => h.relative_of_mem_routes hq
  have hmeta : s'.importFile (q.route.metadata.map s'.root.join) (.routeMeta q.index) =
      s.importFile q.route.metadata (.routeMeta q.index) :=
    h.importFile_eq (fun file hf => hrelative file (Route.metadata_mem_paths hf)) _
  rw [importRoute, importRoute, Route.loader_within, Route.metadata_within, hmeta]
  congr 1
  cases hl : q.route.loader with
  | none => rfl
  | some file =>
    rw [Option.map_some]
    dsimp only
    rw [h.specifier_eq (hrelative file (Route.loader_mem_paths hl))]

lemma imports_eq (h : s'.Within s) : s'.imports = s.imports := by
  have hframework : s'.frameworkNames = s.frameworkNames := by
    rw [frameworkNames, frameworkNames, h.plan_eq]
  have hruntime : s'.runtimeNames = s.runtimeNames := by
    simp only [runtimeNames, h.bindings_eq, h.plan_eq, h.has_eq]
    rw [h.component, Component.hasRouteLoaders_within]
  have hroutes : s'.routes.flatMap s'.importRoute = s.routes.flatMap s.importRoute := by
    rw [h.routes_eq, List.flatMap_map]
    exact List.flatMap_congr fun q hq => h.importRoute_eq hq
  rw [imports, imports, h.options, hframework, hruntime, h.isEmpty_routes_eq,
    h.importBindings_eq, h.importConcern_eq, h.importConcern_eq, h.importConcern_eq,
    h.importSkins_eq, hroutes]

/-! ### Declarations -/

lemma lazyDecl_eq (h : s'.Within s) (r : Role) (hq : q.isAbsolute = false) :
    s'.lazyDecl r (s'.root.join q) = s.lazyDecl r q := by
  rw [lazyDecl, lazyDecl, h.specifier_eq hq]

lemma viewSection_eq (h : s'.Within s) : s'.viewSection = s.viewSection := by
  have hview : s.component.view.isAbsolute = false := h.relative _ (by simp [Component.paths])
  have hlazy : s'.lazyDecl .view s'.component.view = s.lazyDecl .view s.component.view := by
    rw [h.component]
    exact h.lazyDecl_eq .view hview
  rw [viewSection, viewSection, hlazy, h.has_eq, localeFiles, localeFiles, h.options,
    h.localeFilesPattern_eq]

lemma routeSections_eq (h : s'.Within s) {q : NumberedRoute} (hq : q ∈ s.routes) :
    s'.routeSections ⟨q.index, q.route.within s'.root, q.loaderExport⟩ = s.routeSections q := by
  unfold routeSections
  dsimp only
  rw [Route.view_within, Route.loader_within, Option.isSome_map]
  cases hv : q.route.view with
  | none => rfl
  | some file =>
    rw [Option.map_some]
    dsimp only
    rw [h.lazyDecl_eq _ (h.relative_of_mem_routes hq (Route.view_mem_paths hv))]

lemma routesSections_eq (h : s'.Within s) : s'.routesSections = s.routesSections := by
  have hroutes : s'.routes.flatMap s'.routeSections = s.routes.flatMap s.routeSections := by
    rw [h.routes_eq, List.flatMap_map]
    exact List.flatMap_congr fun q hq => h.routeSections_eq hq
  have hobjects : routeObjects 0 s'.component.routes = routeObjects 0 s.component.routes := by
    rw [h.component]
    exact routeObjects_within s'.root 0 s.component.routes
  rw [routesSections, routesSections, h.isEmpty_routes_eq, hroutes, hobjects]

lemma bounded_eq (h : s'.Within s) : s'.bounded = s.bounded := by
  funext e
  rw [bounded, bounded, h.has_eq, h.plan_eq]

lemma hookFunction_eq (h : s'.Within s) (name : Role) (around : Expr → Expr) :
    s'.hookFunction name around = s.hookFunction name around := by
  have hname : s'.component.name = s.component.name := by
    rw [h.component]
    rfl
  rw [hookFunction, hookFunction, hookLocals, hookLocals, viewProps, viewProps, h.bindings_eq,
    h.has_eq, h.isEmpty_routes_eq, hname]

lemma themedDecl_eq (h : s'.Within s) : s'.themedDecl = s.themedDecl := by
  funext target
  rw [themedDecl, themedDecl, h.component, Component.keys_within]

lemma displayName_eq (h : s'.Within s) : s'.component.displayName = s.component.displayName := by
  rw [h.component]
  rfl

lemma layerSections_eq (h : s'.Within s) : s'.layerSections = s.layerSections := by
  have hexported : s'.exported = s.exported := congrArg Role.component h.displayName_eq
  rw [layerSections, layerSections, h.plan_eq, hexported, h.bounded_eq, h.hookFunction_eq,
    h.hookFunction_eq, h.themedDecl_eq]

/-- A wrapper is that of the paths as they are below their root. -/
theorem module_eq (h : s'.Within s) : s'.module = s.module := by
  have hexported : s'.exported = s.exported := congrArg Role.component h.displayName_eq
  rw [module, module, h.imports_eq, sections, sections, h.viewSection_eq, h.routesSections_eq,
    h.layerSections_eq, hexported, h.displayName_eq]

end Within

end Source

end Wrapper

/-! ### Wrappers -/

/-- The names that a file exports where `read` gives the texts of files. -/
def exportsFrom (read : Path → Option String) (file : Path) : List String :=
  match read file with
  | some text => Script.exportNames (Script.Dialect.ofExtension file.extension?) text
  | none => []

lemma exportsFrom_join {read₁ read₂ : Path → Option String} {root₁ root₂ q : Path}
    (hq : q.isAbsolute = false) (hname : q.fileName?.isSome = true)
    (hread : read₁ (root₁.join q) = read₂ (root₂.join q)) :
    exportsFrom read₁ (root₁.join q) = exportsFrom read₂ (root₂.join q) := by
  obtain ⟨n, hn⟩ := Option.isSome_iff_exists.1 hname
  have hextension : ∀ root : Path, (root.join q).extension? = q.extension? := fun root => by
    rw [Path.extension?, Path.fileName?_join root hq hn, Path.extension?, hn]
  rw [exportsFrom, exportsFrom, hread, hextension, hextension]

namespace Component

open Wrapper

/-- The wrapper of a component where `read` gives the texts of files. -/
def wrapperFrom (c : Component) (read : Path → Option String) (root : Path) (o : Options)
    (p : HygienePrefix) : String :=
  (Source.module ⟨c, root, o, exportsFrom read⟩).text p

/-- A file tree gives the texts that can be read there. -/
theorem wrapper_eq (c : Component) (t : FileTree) (root : Path) (o : Options)
    (p : HygienePrefix) : c.wrapper t root o p = c.wrapperFrom t.read? root o p := rfl

lemma wrapperFrom_within_root {c : Component} {read : Path → Option String} {root : Path}
    {exports : Path → List String} {o : Options} {p : HygienePrefix}
    (hrelative : ∀ q ∈ c.paths, q.isAbsolute = false)
    (hexports : ∀ q ∈ c.scripts, exportsFrom read (root.join q) = exports q) :
    (c.within root).wrapperFrom read root o p = (Source.module ⟨c, ⟨""⟩, o, exports⟩).text p := by
  have hwithin : Source.Within ⟨c.within root, root, o, exportsFrom read⟩ ⟨c, ⟨""⟩, o, exports⟩ :=
    ⟨rfl, rfl, rfl, hrelative, hexports⟩
  rw [wrapperFrom, hwithin.module_eq]

/-- **A wrapper does not depend on where its project lies.** At two roots, components whose paths
are the same below them have one wrapper, if the files that it depends on hold the same texts. -/
theorem wrapperFrom_within (c : Component) (read₁ read₂ : Path → Option String)
    (root₁ root₂ : Path) (o : Options) (p : HygienePrefix)
    (hrelative : ∀ q ∈ c.paths, q.isAbsolute = false)
    (hread : ∀ q ∈ c.scripts, q.fileName?.isSome = true ∧
      read₁ (root₁.join q) = read₂ (root₂.join q)) :
    (c.within root₁).wrapperFrom read₁ root₁ o p =
      (c.within root₂).wrapperFrom read₂ root₂ o p := by
  have hexports : ∀ q ∈ c.scripts,
      exportsFrom read₂ (root₂.join q) = exportsFrom read₁ (root₁.join q) := fun q hq =>
    exportsFrom_join (hrelative q (scripts_subset_paths c hq)) (hread q hq).1 (hread q hq).2.symm
  rw [wrapperFrom_within_root hrelative fun _ _ => rfl, wrapperFrom_within_root hrelative hexports]

/-- A component with a file of each kind. -/
def everything : Component where
  name := "feed"
  directory := ⟨"src/feed"⟩
  view := ⟨"src/feed/index.tsx"⟩
  concerns := ⟨some ⟨"src/feed/async.ts"⟩, some ⟨"src/feed/placeholder.tsx"⟩,
    some ⟨"src/feed/error.tsx"⟩, some ⟨"src/feed/i18n/en.json"⟩⟩
  skins := Dict.empty.insert "dark" ⟨"src/feed/skins/dark.css"⟩
  routes := [⟨"list", "list", ⟨"src/feed/[list]"⟩, some ⟨"src/feed/[list]/index.tsx"⟩,
    some ⟨"src/feed/[list]/./async.ts"⟩, some ⟨"src/feed/[list]/meta.ts"⟩, []⟩]

/-- The texts of its files, where it lies below `root`. -/
def textsBelow (root : Path) (file : Path) : Option String :=
  if file = root.join ⟨"src/feed/async.ts"⟩ then some "export const send = () => 1;"
  else if file = root.join ⟨"src/feed/[list]/./async.ts"⟩ then some "export const load = () => 1;"
  else none

/-- It has one wrapper at an absolute root and at a relative one with a slash behind it. -/
theorem wrapperFrom_within_everything :
    (∀ q ∈ everything.paths, q.isAbsolute = false) ∧
    (∀ q ∈ everything.scripts, q.fileName?.isSome = true ∧
      textsBelow ⟨"/srv/app"⟩ ((⟨"/srv/app"⟩ : Path).join q) =
        textsBelow ⟨"app/"⟩ ((⟨"app/"⟩ : Path).join q)) ∧
    (everything.within ⟨"/srv/app"⟩).wrapperFrom (textsBelow ⟨"/srv/app"⟩) ⟨"/srv/app"⟩ {}
        (.numbered 0) =
      (everything.within ⟨"app/"⟩).wrapperFrom (textsBelow ⟨"app/"⟩) ⟨"app/"⟩ {} (.numbered 0) := by
  have hrelative : ∀ q ∈ everything.paths, q.isAbsolute = false := by decide
  have hread : ∀ q ∈ everything.scripts, q.fileName?.isSome = true ∧
      textsBelow ⟨"/srv/app"⟩ ((⟨"/srv/app"⟩ : Path).join q) =
        textsBelow ⟨"app/"⟩ ((⟨"app/"⟩ : Path).join q) := by decide
  exact ⟨hrelative, hread, wrapperFrom_within everything _ _ _ _ _ _ hrelative hread⟩

end Component

end ViewLayers
