import Mathlib.Data.List.Basic
import Mathlib.Tactic.Tauto
import ViewLayers.Proofs.Wrapper.Mentions
import ViewLayers.Wrapper.Assembly

/-!
What the wrapper of a component binds: the roles of its imports, the async exports among them, and
the roles of its declarations.
-/

namespace ViewLayers.Wrapper

namespace Source

/-! ### Imports -/

/-- All that a wrapper can import from the libraries, and what each stands for. -/
def libraryNames : List (String × Role) :=
  [("createElement", .createElement), ("lazy", .lazy), ("Suspense", .suspense),
   ("useRoutes", .useRoutes), ("useDataPlane", .useDataPlane),
   ("useAsyncHandler", .useAsyncHandler), ("useRouteLoader", .useRouteLoader),
   ("useI18n", .useI18n), ("ErrorBoundary", .errorBoundary), ("skinned", .skinned)]

lemma frameworkNames_subset (s : Source) : s.frameworkNames ⊆ libraryNames := by
  intro x hx
  simp only [frameworkNames, libraryNames, List.mem_append, List.mem_cons, List.not_mem_nil,
    mem_optional, or_false] at hx ⊢
  tauto

lemma routerNames_subset (b : Bool) :
    optional b ("useRoutes", Role.useRoutes) ⊆ libraryNames := by
  intro x hx
  rw [(mem_optional.1 hx).2]
  decide

lemma runtimeNames_subset (s : Source) : s.runtimeNames ⊆ libraryNames := by
  intro x hx
  simp only [runtimeNames, libraryNames, List.mem_append, List.mem_cons, List.not_mem_nil,
    mem_optional, or_false] at hx ⊢
  tauto

/-- What is imported from the libraries. -/
def libraryRoles (s : Source) : List Role :=
  (s.frameworkNames ++ optional (!s.component.routes.isEmpty) ("useRoutes", Role.useRoutes)
    ++ s.runtimeNames).map Prod.snd

def routeImportRoles (r : NumberedRoute) : List Role :=
  optional r.route.loader.isSome (.routeLoader r.index)
    ++ optional r.route.metadata.isSome (.routeMeta r.index)

/-- What is imported from the files of the component, the async file apart. -/
def fileRoles (s : Source) : List Role :=
  optional (s.component.has .placeholder) .placeholder
    ++ optional (s.component.has .error) .errorFallback
    ++ optional (s.component.has .i18n) .i18nBundle
    ++ (List.range s.component.skins.values.length).map .skin
    ++ s.routes.flatMap routeImportRoles

lemma binds_importOwn (source : String) (names : List (String × Role)) :
    (importOwn source names).flatMap Import.binds = (names.map Prod.snd).map .own := by
  cases names with
  | nil => rfl
  | cons n ns => simp [importOwn, optional, Import.binds]

lemma binds_importFile (s : Source) (file : Option Path) (r : Role) :
    (s.importFile file r).flatMap Import.binds = (optional file.isSome r).map .own := by
  cases file <;> rfl

lemma binds_importBindings (s : Source) :
    s.importBindings.flatMap Import.binds = s.bindings.map .taken := by
  unfold importBindings
  split
  · rw [flatMap_optional]
    cases h : s.bindings <;> simp [Import.binds]
  · rename_i h
    simp [bindings, h]

lemma binds_importSkins (s : Source) :
    s.importSkins.flatMap Import.binds =
      ((List.range s.component.skins.values.length).map Role.skin).map .own := by
  have hskin : ∀ skins : List (Path × Nat),
      (skins.map fun skin => Import.default (s.specifier skin.1) (.skin skin.2)).flatMap
        Import.binds = ((skins.map Prod.snd).map Role.skin).map .own := by
    intro skins
    induction skins with
    | nil => rfl
    | cons skin skins ih => rw [List.map_cons, List.flatMap_cons, ih]; rfl
  rw [List.range_eq_range', ← List.zipIdx_map_snd]
  exact hskin _

lemma binds_importRoute (s : Source) (r : NumberedRoute) :
    (s.importRoute r).flatMap Import.binds = (routeImportRoles r).map .own := by
  rw [importRoute, List.flatMap_append, binds_importFile, routeImportRoles, List.map_append]
  congr 1
  cases r.route.loader with
  | none => rfl
  | some file => cases r.loaderExport <;> rfl

lemma imported_module (s : Source) :
    s.module.imported =
      s.libraryRoles.map .own ++ s.bindings.map .taken ++ s.fileRoles.map .own := by
  have hroutes : (s.routes.flatMap s.importRoute).flatMap Import.binds =
      (s.routes.flatMap routeImportRoles).map .own := by
    rw [List.flatMap_assoc, List.map_flatMap]
    exact List.flatMap_congr fun r _ => binds_importRoute s r
  simp only [Module.imported, module, imports, List.flatMap_append, binds_importOwn,
    binds_importFile, binds_importBindings, binds_importSkins, hroutes, libraryRoles, fileRoles,
    List.map_append, List.append_assoc, Component.has]

/-! ### Declarations -/

def routeDeclRoles (r : NumberedRoute) : List Role :=
  if r.route.view.isSome then
    .routeView r.index :: optional r.route.loader.isSome (.route r.index)
  else []

def layerRoles (s : Source) : List Role :=
  if s.plan.split then
    optional s.plan.hookCore .core ++ optional s.plan.themed .themed ++ [s.exported]
  else [s.exported]

/-- What the wrapper declares, in order. -/
def declaredRoles (s : Source) : List Role :=
  .view :: (if s.component.has .i18n then [.i18nDefaults, .localeFiles] else [])
    ++ (if s.component.routes.isEmpty then [] else s.routes.flatMap routeDeclRoles ++ [.routes])
    ++ s.layerRoles

lemma decls_module (s : Source) :
    s.module.decls = s.viewSection ++ (s.routesSections.flatten ++ (s.layerSections.flatten ++
      [.displayName s.exported s.component.displayName, .exportDefault s.exported])) := by
  simp [Module.decls, module, sections]

lemma binds_routeSections (s : Source) (r : NumberedRoute) :
    (s.routeSections r).flatten.flatMap Decl.binds = (routeDeclRoles r).map .own := by
  unfold routeSections routeDeclRoles
  cases r.route.view with
  | none => rfl
  | some view => cases r.route.loader <;> rfl

lemma binds_flatMap_routeSections (s : Source) :
    (s.routes.flatMap s.routeSections).flatten.flatMap Decl.binds =
      (s.routes.flatMap routeDeclRoles).map .own := by
  induction s.routes with
  | nil => rfl
  | cons r rs ih =>
    simp only [List.flatMap_cons, List.flatten_append, List.flatMap_append, List.map_append,
      binds_routeSections, ih]

lemma binds_routesSections (s : Source) :
    s.routesSections.flatten.flatMap Decl.binds =
      (if s.component.routes.isEmpty then [] else
        s.routes.flatMap routeDeclRoles ++ [Role.routes]).map .own := by
  unfold routesSections
  split
  · rfl
  · rw [List.flatten_append, List.flatMap_append, binds_flatMap_routeSections, List.map_append]
    rfl

lemma binds_layerSections (s : Source) :
    s.layerSections.flatten.flatMap Decl.binds = s.layerRoles.map .own := by
  unfold layerSections layerRoles
  cases s.plan.split <;> cases s.plan.hookCore <;> cases s.plan.themed <;> rfl

lemma declared_module (s : Source) :
    s.module.decls.flatMap Decl.binds = s.declaredRoles.map .own := by
  have hview : s.viewSection.flatMap Decl.binds =
      (Role.view :: if s.component.has .i18n then [.i18nDefaults, .localeFiles] else []).map
        .own := by
    unfold viewSection
    cases s.component.has .i18n <;> rfl
  rw [decls_module]
  simp only [List.flatMap_append, hview, binds_routesSections, binds_layerSections,
    declaredRoles, List.map_append, List.append_assoc]
  simp [Decl.binds]

lemma own_mem_bound_iff (s : Source) (r : Role) :
    .own r ∈ s.module.bound ↔ r ∈ s.libraryRoles ∨ r ∈ s.fileRoles ∨ r ∈ s.declaredRoles := by
  simp [Module.bound, imported_module, declared_module]

lemma taken_mem_bound_iff (s : Source) (n : String) :
    .taken n ∈ s.module.bound ↔ n ∈ s.bindings := by
  simp [Module.bound, imported_module, declared_module]

/-! ### Which roles are bound -/

variable {s : Source} {r : Role}

lemma mem_libraryRoles_iff : r ∈ s.libraryRoles ↔
    r = .createElement ∨ r = .lazy ∨ (s.plan.suspense = true ∧ r = .suspense) ∨
    (s.component.routes ≠ [] ∧ r = .useRoutes) ∨
    ((s.bindings ≠ [] ∨ s.component.hasRouteLoaders = true) ∧ r = .useDataPlane) ∨
    (s.bindings ≠ [] ∧ r = .useAsyncHandler) ∨
    (s.component.hasRouteLoaders = true ∧ r = .useRouteLoader) ∨
    (s.component.has .i18n = true ∧ r = .useI18n) ∨
    (s.plan.errorBoundary = true ∧ r = .errorBoundary) ∨
    (s.plan.themed = true ∧ r = .skinned) := by
  simp [libraryRoles, frameworkNames, runtimeNames]

lemma mem_fileRoles_iff : r ∈ s.fileRoles ↔
    (s.component.has .placeholder = true ∧ r = .placeholder) ∨
    (s.component.has .error = true ∧ r = .errorFallback) ∨
    (s.component.has .i18n = true ∧ r = .i18nBundle) ∨
    (∃ i < s.component.skins.values.length, Role.skin i = r) ∨
    ∃ q ∈ s.routes, r ∈ routeImportRoles q := by
  simp [fileRoles]

lemma mem_declaredRoles_iff : r ∈ s.declaredRoles ↔
    r = .view ∨ (s.component.has .i18n = true ∧ (r = .i18nDefaults ∨ r = .localeFiles)) ∨
    (s.component.routes ≠ [] ∧ ((∃ q ∈ s.routes, r ∈ routeDeclRoles q) ∨ r = .routes)) ∨
    (s.plan.split = true ∧ (s.plan.hookCore = true ∧ r = .core ∨
      s.plan.themed = true ∧ r = .themed)) ∨ r = s.exported := by
  unfold declaredRoles layerRoles
  cases s.component.has .i18n <;> cases h : s.component.routes <;> cases s.plan.split <;>
    simp [or_assoc]

end Source

end ViewLayers.Wrapper
