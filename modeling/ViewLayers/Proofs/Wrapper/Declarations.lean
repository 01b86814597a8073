import Mathlib.Data.List.Basic
import ViewLayers.Proofs.Wrapper.Bound
import ViewLayers.Proofs.Wrapper.Numbering

/-!
The declarations of a wrapper, and what each of them mentions.
-/

namespace ViewLayers.Wrapper.Source

variable {b : Bool}

/-! ### Routes -/

lemma mem_routes_iff {s : Source} {r : NumberedRoute} :
    r ∈ s.routes ↔ ∃ p ∈ (Route.preorderOfList s.component.routes).zipIdx,
      r = ⟨p.2, p.1, p.1.loader.bind fun file => (s.exportsOf file).head?⟩ := by
  simp only [routes, List.mem_map, eq_comm, Prod.exists]

lemma hasRouteLoaders_of_mem {s : Source} {r : NumberedRoute} (h : r ∈ s.routes)
    (hl : r.route.loader.isSome = true) : s.component.hasRouteLoaders = true := by
  obtain ⟨⟨route, i⟩, hp, rfl⟩ := mem_routes_iff.1 h
  rw [Component.hasRouteLoaders, Route.anyHasLoader_eq_any, List.any_eq_true]
  exact ⟨route, (List.mem_zipIdx' hp).2 ▸ List.getElem_mem _, hl⟩

/-! ### The list of declarations -/

lemma mem_routeSections_iff {s : Source} {r : NumberedRoute} {d : Decl} :
    d ∈ (s.routeSections r).flatten ↔ ∃ view, r.route.view = some view ∧
      (d = s.lazyDecl (.routeView r.index) view ∨
        r.route.loader.isSome = true ∧ d = routeFunction r.index) := by
  unfold routeSections
  cases r.route.view with
  | none => simp
  | some view => cases r.route.loader <;> simp [optional]

lemma mem_routesSections_iff {s : Source} {d : Decl} :
    d ∈ s.routesSections.flatten ↔ s.component.routes ≠ [] ∧
      ((∃ r ∈ s.routes, d ∈ (s.routeSections r).flatten) ∨
        d = .const .routes (.list (routeObjects 0 s.component.routes))) := by
  unfold routesSections
  split
  · rename_i h
    simp [List.isEmpty_iff.1 h]
  · rename_i h
    rw [List.isEmpty_iff] at h
    simp only [List.flatten_append, List.mem_append, List.mem_flatten, List.mem_flatMap]
    constructor
    · rintro (⟨ds, ⟨r, hr, hds⟩, hd⟩ | ⟨ds, hds, hd⟩)
      · exact ⟨h, .inl ⟨r, hr, ds, hds, hd⟩⟩
      · rw [List.mem_singleton] at hds
        subst hds
        exact ⟨h, .inr (List.mem_singleton.1 hd)⟩
    · rintro ⟨-, ⟨r, hr, ds, hds, hd⟩ | rfl⟩
      · exact .inl ⟨ds, ⟨r, hr, hds⟩, hd⟩
      · exact .inr ⟨_, List.mem_singleton_self _, List.mem_singleton_self _⟩

lemma mem_viewSection_iff {s : Source} {d : Decl} :
    d ∈ s.viewSection ↔ d = s.lazyDecl .view s.component.view ∨
      s.component.has .i18n = true ∧ (d = .const .i18nDefaults (.thunk (.own .i18nBundle)) ∨
        d = .const .localeFiles s.localeFiles) := by
  unfold viewSection
  split <;> simp_all

/-- The function that the theme is put on, when it is put on one. -/
def inner (s : Source) : Role := if s.plan.hookCore then .core else .view

/-- The function that renders the boundaries around what the others make. -/
def outerFunction (s : Source) : Decl :=
  .function s.exported []
    (s.bounded (element (if s.plan.themed then .themed else .core) (some (.own .props))))

lemma mem_layerSections_iff {s : Source} {d : Decl} :
    d ∈ s.layerSections.flatten ↔
      s.plan.split = false ∧ d = s.hookFunction s.exported s.bounded ∨
      s.plan.split = true ∧ (s.plan.hookCore = true ∧ d = s.hookFunction .core id ∨
        s.plan.themed = true ∧ d = s.themedDecl s.inner ∨ d = s.outerFunction) := by
  unfold layerSections
  cases s.plan.split with
  | false => simp
  | true =>
    cases hc : s.plan.hookCore <;> cases ht : s.plan.themed <;>
      simp [optional, inner, outerFunction, hc, ht]

inductive Declares (s : Source) : Decl → Prop
  | view : Declares s (s.lazyDecl .view s.component.view)
  | i18nDefaults (h : s.component.has .i18n = true) :
      Declares s (.const .i18nDefaults (.thunk (.own .i18nBundle)))
  | localeFiles (h : s.component.has .i18n = true) : Declares s (.const .localeFiles s.localeFiles)
  | routeView {q : NumberedRoute} {file : Path} (hq : q ∈ s.routes)
      (hv : q.route.view = some file) : Declares s (s.lazyDecl (.routeView q.index) file)
  | route {q : NumberedRoute} (hq : q ∈ s.routes) (hv : q.route.view.isSome = true)
      (hl : q.route.loader.isSome = true) : Declares s (routeFunction q.index)
  | routes (h : s.component.routes ≠ []) :
      Declares s (.const .routes (.list (routeObjects 0 s.component.routes)))
  /-- Boundaries and hooks are in one function. -/
  | whole (h : s.plan.split = false) : Declares s (s.hookFunction s.exported s.bounded)
  | core (h : s.plan.split = true) (hc : s.plan.hookCore = true) :
      Declares s (s.hookFunction .core id)
  | themed (h : s.plan.split = true) (ht : s.plan.themed = true) :
      Declares s (s.themedDecl s.inner)
  | outer (h : s.plan.split = true) : Declares s s.outerFunction
  | displayName : Declares s (.displayName s.exported s.component.displayName)
  | exportDefault : Declares s (.exportDefault s.exported)

lemma routes_ne_nil_of_mem {s : Source} {q : NumberedRoute} (hq : q ∈ s.routes) :
    s.component.routes ≠ [] := by
  intro h
  simp [routes, h, Route.preorderOfList] at hq

theorem mem_decls_iff {s : Source} {d : Decl} : d ∈ s.module.decls ↔ s.Declares d := by
  rw [decls_module, List.mem_append, List.mem_append, List.mem_append, mem_viewSection_iff,
    mem_routesSections_iff, mem_layerSections_iff]
  constructor
  · -- section by section: the view, the routes, the layers, and what is exported
    rintro ((rfl | ⟨h, rfl | rfl⟩) | ⟨hr, ⟨q, hq, hd⟩ | rfl⟩ |
      (⟨hs, rfl⟩ | ⟨hs, ⟨hc, rfl⟩ | ⟨ht, rfl⟩ | rfl⟩) | hd)
    · exact .view
    · exact .i18nDefaults h
    · exact .localeFiles h
    · obtain ⟨file, hv, rfl | ⟨hl, rfl⟩⟩ := mem_routeSections_iff.1 hd
      · exact .routeView hq hv
      · exact .route hq (by rw [hv]; rfl) hl
    · exact .routes hr
    · exact .whole hs
    · exact .core hs hc
    · exact .themed hs ht
    · exact .outer hs
    · rcases List.mem_cons.1 hd with rfl | hd
      · exact .displayName
      · obtain rfl := List.mem_singleton.1 hd
        exact .exportDefault
  · intro h
    cases h with
    | view => exact .inl (.inl rfl)
    | i18nDefaults h => exact .inl (.inr ⟨h, .inl rfl⟩)
    | localeFiles h => exact .inl (.inr ⟨h, .inr rfl⟩)
    | routeView hq hv =>
      exact .inr (.inl ⟨routes_ne_nil_of_mem hq,
        .inl ⟨_, hq, mem_routeSections_iff.2 ⟨_, hv, .inl rfl⟩⟩⟩)
    | route hq hv hl =>
      obtain ⟨file, hv⟩ := Option.isSome_iff_exists.1 hv
      exact .inr (.inl ⟨routes_ne_nil_of_mem hq,
        .inl ⟨_, hq, mem_routeSections_iff.2 ⟨file, hv, .inr ⟨hl, rfl⟩⟩⟩⟩)
    | routes h => exact .inr (.inl ⟨h, .inr rfl⟩)
    | whole h => exact .inr (.inr (.inl (.inl ⟨h, rfl⟩)))
    | core h hc => exact .inr (.inr (.inl (.inr ⟨h, .inl ⟨hc, rfl⟩⟩)))
    | themed h ht => exact .inr (.inr (.inl (.inr ⟨h, .inr (.inl ⟨ht, rfl⟩)⟩)))
    | outer h => exact .inr (.inr (.inl (.inr ⟨h, .inr (.inr rfl)⟩)))
    | displayName => exact .inr (.inr (.inr List.mem_cons_self))
    | exportDefault => exact .inr (.inr (.inr (List.mem_cons_of_mem _ (List.mem_singleton_self _))))

/-! ### What they mention -/

lemma mentions_element (c : Role) (props : Option Expr) :
    (element c props).mentions b =
      .own .createElement :: .own c :: props.toList.flatMap (Expr.mentions b) := by
  simp [element]

lemma mem_mentions_withProps {fields : List (String × Expr)} {x : Ident} :
    x ∈ (withProps fields).mentions b ↔
      x = .own .props ∨ ∃ f ∈ fields, x ∈ f.2.mentions b := by
  unfold withProps
  split
  · rename_i h
    simp [List.isEmpty_iff.1 h]
  · rw [Expr.mentions, Expr.mentionsOfFields_eq, List.flatMap_cons, List.flatMap_map,
      Expr.mentions_own, List.mem_append, List.mem_singleton, List.mem_flatMap]

lemma mentions_lazyDecl (s : Source) (r : Role) (file : Path) :
    (s.lazyDecl r file).mentions = [.own .lazy] := by
  simp [lazyDecl, Decl.mentions]

lemma mentions_localeFiles (s : Source) : s.localeFiles.mentions b = [] := by
  unfold localeFiles
  split <;> simp

lemma mentions_themed (s : Source) (target : Role) :
    (s.themedDecl target).mentions = .own .skinned :: .own target
      :: (List.range s.component.skins.keys.length).map fun i => .own (.skin i) := by
  have hskin : ∀ keys : List (String × Nat),
      (keys.map fun key => (Key.text key.1, Expr.own (.skin key.2))).flatMap
        (fun f => f.2.mentions true) = (keys.map Prod.snd).map fun i => .own (.skin i) := by
    intro keys
    induction keys with
    | nil => rfl
    | cons key keys ih => rw [List.map_cons, List.flatMap_cons, ih]; simp
  rw [List.range_eq_range', ← List.zipIdx_map_snd, ← hskin, themedDecl, Decl.mentions,
    Expr.mentions, Expr.mentionsOfList_eq, List.flatMap_cons, List.flatMap_singleton,
    Expr.mentions_own, Expr.mentions, Expr.mentionsOfFields_eq]
  rfl

lemma mem_hookLocals_iff {s : Source} {l : Role × Expr} :
    l ∈ s.hookLocals ↔
      (s.bindings ≠ [] ∧ l = (.dataPlane, .call (.own .useDataPlane) [])) ∨
      (∃ n ∈ s.bindings, l = (.binding n,
        .call (.own .useAsyncHandler) [.ident (.taken n), .own .dataPlane])) ∨
      (s.component.has .i18n = true ∧ l = (.messages, .call (.own .useI18n)
        [.own .i18nDefaults, .text s.component.name, .own .localeFiles])) ∨
      (s.component.routes ≠ [] ∧ l = (.routed, .call (.own .useRoutes) [.own .routes])) := by
  unfold hookLocals
  cases h : s.bindings <;> simp [or_assoc, eq_comm (b := l)]

/-- The view, with the incoming props and those that the hooks make. -/
def rendered (s : Source) : Expr := element .view (some (withProps s.viewProps))

lemma mem_mentions_rendered_iff {s : Source} {x : Ident} : x ∈ s.rendered.mentions b ↔
    x = .own .createElement ∨ x = .own .view ∨ x = .own .props ∨
      (∃ n ∈ s.bindings, x = .own (.binding n)) ∨
      (s.component.has .i18n = true ∧ x = .own .messages) ∨
      (s.component.routes ≠ [] ∧ x = .own .routed) := by
  rw [rendered, mentions_element, Option.toList_some, List.flatMap_singleton, List.mem_cons,
    List.mem_cons, mem_mentions_withProps]
  have hprops : (∃ f ∈ s.viewProps, x ∈ f.2.mentions b) ↔
      (∃ n ∈ s.bindings, x = .own (.binding n)) ∨
      (s.component.has .i18n = true ∧ x = .own .messages) ∨
      (s.component.routes ≠ [] ∧ x = .own .routed) := by
    simp [viewProps, or_and_right, exists_or]
  rw [hprops]

lemma mem_mentions_bounded_iff {s : Source} {e : Expr} {x : Ident} :
    x ∈ (s.bounded e).mentions b ↔ x ∈ e.mentions b ∨
      s.plan.suspense = true ∧ (x = .own .createElement ∨ x = .own .suspense ∨
        s.component.has .placeholder = true ∧ x = .own .placeholder) ∨
      s.plan.errorBoundary = true ∧
        (x = .own .createElement ∨ x = .own .errorBoundary ∨ x = .own .errorFallback) := by
  unfold bounded
  cases s.plan.suspense <;> cases s.plan.errorBoundary <;> cases s.component.has .placeholder <;>
    simp only [Bool.false_eq_true, if_true, if_false, Expr.mentions, mentions_element,
      Expr.mentions_own, List.mem_cons, List.mem_append, List.not_mem_nil] <;> grind

end ViewLayers.Wrapper.Source
