import Mathlib.Data.List.Basic
import ViewLayers.Proofs.Wrapper.Declarations
import ViewLayers.Proofs.Wrapper.Printed

/-!
Every wrapper is closed. What it mentions is imported, declared at the top of the module, or
introduced earlier in the function; and what it looks up while it is loaded is there by then.
-/

namespace ViewLayers.Wrapper

/-! ### Scopes -/

/-- Constants that mention only what is known before them, and a result after them. -/
def BodyClosed (known : List Ident) : List (Role × Expr) → Expr → Prop
  | [], result => result.mentions true ⊆ known
  | (r, e) :: locals, result =>
    e.mentions true ⊆ known ∧ BodyClosed (known ++ [.own r]) locals result

/-- A declaration that mentions only what is known, its own parameter, and its own constants. -/
def Decl.Closed (known : List Ident) : Decl → Prop
  | .function _ locals result => BodyClosed (known ++ [.own .props]) locals result
  | d => d.mentions ⊆ known

/-- What a declaration looks up when its module is loaded. -/
def Decl.mentionsAtLoad : Decl → List Ident
  | .const _ e => e.mentions false
  | .function _ _ _ => []
  | .displayName r _ | .exportDefault r => [.own r]

lemma Decl.mentionsAtLoad_subset (d : Decl) : d.mentionsAtLoad ⊆ d.mentions := by
  cases d with
  | const r e => exact (Expr.mentions_false_sublist e).subset
  | function r locals result => exact List.nil_subset _
  | displayName r s => exact List.Subset.refl _
  | exportDefault r => exact List.Subset.refl _

/-- Declarations that run one after the other, each with what those above it bind. -/
def LoadsInOrder (known : List Ident) : List Decl → Prop
  | [] => True
  | d :: ds => d.mentionsAtLoad ⊆ known ∧ LoadsInOrder (known ++ d.binds) ds

lemma loadsInOrder_append {known : List Ident} {ds ds' : List Decl} :
    LoadsInOrder known (ds ++ ds') ↔
      LoadsInOrder known ds ∧ LoadsInOrder (known ++ ds.flatMap Decl.binds) ds' := by
  induction ds generalizing known with
  | nil => simp [LoadsInOrder]
  | cons d ds ih => simp [LoadsInOrder, ih, and_assoc]

lemma bodyClosed_of_forall {known : List Ident} {locals : List (Role × Expr)} {result : Expr}
    (h : ∀ l ∈ locals, l.2.mentions true ⊆ known)
    (hr : result.mentions true ⊆ known ++ locals.map fun l => .own l.1) :
    BodyClosed known locals result := by
  induction locals generalizing known with
  | nil => simpa [BodyClosed] using hr
  | cons l locals ih =>
    refine ⟨h l List.mem_cons_self, ih (fun l' hl' => ?_) (by simpa using hr)⟩
    exact List.Subset.trans (h l' (List.mem_cons_of_mem _ hl')) (List.subset_append_left _ _)

lemma loadsInOrder_of_forall {known : List Ident} {ds : List Decl}
    (h : ∀ d ∈ ds, d.mentionsAtLoad ⊆ known) : LoadsInOrder known ds := by
  induction ds generalizing known with
  | nil => trivial
  | cons d ds ih =>
    refine ⟨h d List.mem_cons_self, ih fun d' hd' => ?_⟩
    exact List.Subset.trans (h d' (List.mem_cons_of_mem _ hd')) (List.subset_append_left _ _)

namespace Source

variable {s : Source} {r : Role}

/-! ### What is bound when -/

lemma mem_roles_of_mem_shownRoles {p : Route × Nat}
    (hp : p ∈ (Route.preorderOfList s.component.routes).zipIdx) (h : r ∈ shownRoles p) :
    ∃ q ∈ s.routes, r ∈ routeImportRoles q ∨ r ∈ routeDeclRoles q := by
  refine ⟨_, mem_routes_iff.2 ⟨p, hp, rfl⟩, ?_⟩
  rcases List.mem_append.1 h with h | h
  · exact .inl (List.mem_append_right _ h)
  · obtain ⟨hv, rfl⟩ := mem_optional.1 h
    refine .inr ?_
    rw [routeDeclRoles, if_pos hv]
    split
    · rename_i hl
      exact List.mem_cons_of_mem _ (mem_optional.2 ⟨hl, rfl⟩)
    · exact List.mem_cons_self

lemma mem_fileRoles_of_route {q : NumberedRoute} (hq : q ∈ s.routes)
    (h : r ∈ routeImportRoles q) : r ∈ s.fileRoles :=
  mem_fileRoles_iff.2 (.inr (.inr (.inr (.inr ⟨q, hq, h⟩))))

lemma mem_declaredRoles_of_route {q : NumberedRoute} (hq : q ∈ s.routes)
    (h : r ∈ routeDeclRoles q) : r ∈ s.declaredRoles :=
  mem_declaredRoles_iff.2 (.inr (.inr (.inl ⟨routes_ne_nil_of_mem hq, .inl ⟨q, hq, h⟩⟩)))

lemma mem_libraryRoles_bound (h : r ∈ s.libraryRoles) : .own r ∈ s.module.bound :=
  (own_mem_bound_iff s r).2 (.inl h)

lemma mem_fileRoles_bound (h : r ∈ s.fileRoles) : .own r ∈ s.module.bound :=
  (own_mem_bound_iff s r).2 (.inr (.inl h))

lemma mem_declaredRoles_bound (h : r ∈ s.declaredRoles) : .own r ∈ s.module.bound :=
  (own_mem_bound_iff s r).2 (.inr (.inr h))

lemma createElement_bound (s : Source) : .own .createElement ∈ s.module.bound :=
  mem_libraryRoles_bound (by simp [mem_libraryRoles_iff])

lemma lazy_bound (s : Source) : .own .lazy ∈ s.module.bound :=
  mem_libraryRoles_bound (by simp [mem_libraryRoles_iff])

/-! ### Closed declarations -/

lemma mentions_boundaries_subset {e : Expr} {known : List Ident} (hk : s.module.bound ⊆ known)
    (h : e.mentions true ⊆ known) : (s.bounded e).mentions true ⊆ known := by
  intro x hx
  rcases mem_mentions_bounded_iff.1 hx with hx | ⟨hs, rfl | rfl | ⟨hp, rfl⟩⟩ | ⟨he, rfl | rfl | rfl⟩
  · exact h hx
  · exact hk (createElement_bound s)
  · exact hk (mem_libraryRoles_bound (by simp [mem_libraryRoles_iff, hs]))
  · exact hk (mem_fileRoles_bound (by simp [mem_fileRoles_iff, hp]))
  · exact hk (createElement_bound s)
  · exact hk (mem_libraryRoles_bound (by simp [mem_libraryRoles_iff, he]))
  · have he' : s.component.has .error = true := he
    exact hk (mem_fileRoles_bound (by simp [mem_fileRoles_iff, he']))

/-- Only the bindings of the async exports use a constant before them, which is the data plane. -/
lemma bodyClosed_hookLocals {known : List Ident} {result : Expr} (hk : s.module.bound ⊆ known)
    (hr : result.mentions true ⊆ known ++ s.hookLocals.map fun l => .own l.1) :
    BodyClosed known s.hookLocals result := by
  have hlocals : ∀ l ∈ s.hookLocals, ∀ x ∈ l.2.mentions true,
      x ∈ known ∨ s.bindings ≠ [] ∧ x = .own .dataPlane := by
    intro l hl x hx
    -- the data plane, the bindings, the messages and the routes
    rcases mem_hookLocals_iff.1 hl with ⟨hb, rfl⟩ | ⟨n, hn, rfl⟩ | ⟨hi, rfl⟩ | ⟨hr, rfl⟩
    · obtain rfl : x = .own .useDataPlane := by simpa using hx
      exact .inl (hk (mem_libraryRoles_bound (by simp [mem_libraryRoles_iff, hb])))
    · have hb : s.bindings ≠ [] := List.ne_nil_of_mem hn
      rcases (by simpa using hx : x = .own .useAsyncHandler ∨ x = .taken n ∨ x = .own .dataPlane)
        with rfl | rfl | rfl
      · exact .inl (hk (mem_libraryRoles_bound (by simp [mem_libraryRoles_iff, hb])))
      · exact .inl (hk ((taken_mem_bound_iff s n).2 hn))
      · exact .inr ⟨hb, rfl⟩
    · rcases (by simpa using hx : x = .own .useI18n ∨ x = .own .i18nDefaults ∨
        x = .own .localeFiles) with rfl | rfl | rfl
      · exact .inl (hk (mem_libraryRoles_bound (by simp [mem_libraryRoles_iff, hi])))
      · exact .inl (hk (mem_declaredRoles_bound (by simp [mem_declaredRoles_iff, hi])))
      · exact .inl (hk (mem_declaredRoles_bound (by simp [mem_declaredRoles_iff, hi])))
    · rcases (by simpa using hx : x = .own .useRoutes ∨ x = .own .routes) with rfl | rfl
      · exact .inl (hk (mem_libraryRoles_bound (by simp [mem_libraryRoles_iff, hr])))
      · exact .inl (hk (mem_declaredRoles_bound (by simp [mem_declaredRoles_iff, hr])))
  by_cases hb : s.bindings = []
  · refine bodyClosed_of_forall (fun l hl x hx => ?_) hr
    exact (hlocals l hl x hx).resolve_right fun h => h.1 hb
  · obtain ⟨locals, hs⟩ : ∃ locals, s.hookLocals =
        (.dataPlane, .call (.own .useDataPlane) []) :: locals := by
      simp [hookLocals, hb]
    rw [hs] at hlocals hr ⊢
    refine ⟨fun x hx => ?_, bodyClosed_of_forall (fun l hl x hx => ?_) (by simpa using hr)⟩
    · obtain rfl : x = .own .useDataPlane := by simpa using hx
      exact hk (mem_libraryRoles_bound (by simp [mem_libraryRoles_iff, hb]))
    · rcases hlocals l (List.mem_cons_of_mem _ hl) x hx with h | ⟨-, rfl⟩
      · exact List.mem_append_left _ h
      · exact List.mem_append_right _ (List.mem_singleton_self _)

lemma mentions_rendered_subset (s : Source) : s.rendered.mentions true ⊆
    s.module.bound ++ [.own .props] ++ s.hookLocals.map fun l => .own l.1 := by
  have hlocal : ∀ l ∈ s.hookLocals, (.own l.1 : Ident) ∈
      s.module.bound ++ [.own .props] ++ s.hookLocals.map fun l => .own l.1 :=
    fun l hl => List.mem_append_right _ (List.mem_map.2 ⟨l, hl, rfl⟩)
  have hbound : s.module.bound ⊆
      s.module.bound ++ [.own .props] ++ s.hookLocals.map fun l => .own l.1 := by simp
  intro x hx
  rcases mem_mentions_rendered_iff.1 hx with rfl | rfl | rfl | ⟨n, hn, rfl⟩ | ⟨hi, rfl⟩ | ⟨hr, rfl⟩
  · exact hbound (createElement_bound s)
  · exact hbound (mem_declaredRoles_bound (by simp [mem_declaredRoles_iff]))
  · simp
  · exact hlocal _ (mem_hookLocals_iff.2 (.inr (.inl ⟨n, hn, rfl⟩)))
  · exact hlocal _ (mem_hookLocals_iff.2 (.inr (.inr (.inl ⟨hi, rfl⟩))))
  · exact hlocal _ (mem_hookLocals_iff.2 (.inr (.inr (.inr ⟨hr, rfl⟩))))

lemma closed_hookFunction {around : Expr → Expr}
    (h : ∀ known e, s.module.bound ⊆ known → e.mentions true ⊆ known →
      (around e).mentions true ⊆ known) (name : Role) :
    (s.hookFunction name around).Closed s.module.bound :=
  bodyClosed_hookLocals (by simp) (h _ _ (by simp) (mentions_rendered_subset s))

lemma closed_routeFunction {q : NumberedRoute} (hq : q ∈ s.routes)
    (hv : q.route.view.isSome = true) (hl : q.route.loader.isSome = true) :
    (routeFunction q.index).Closed s.module.bound := by
  have hloads := hasRouteLoaders_of_mem hq hl
  have hload : Role.routeLoader q.index ∈ routeImportRoles q :=
    List.mem_append_left _ (mem_optional.2 ⟨hl, rfl⟩)
  have hview : Role.routeView q.index ∈ routeDeclRoles q := by
    rw [routeDeclRoles, if_pos hv]
    exact List.mem_cons_self
  have hplane : (.own .useDataPlane : Ident) ∈ s.module.bound :=
    mem_libraryRoles_bound (by simp [mem_libraryRoles_iff, hloads])
  have huse : (.own .useRouteLoader : Ident) ∈ s.module.bound :=
    mem_libraryRoles_bound (by simp [mem_libraryRoles_iff, hloads])
  have hload' : (.own (.routeLoader q.index) : Ident) ∈ s.module.bound :=
    mem_fileRoles_bound (mem_fileRoles_of_route hq hload)
  have hview' : (.own (.routeView q.index) : Ident) ∈ s.module.bound :=
    mem_declaredRoles_bound (mem_declaredRoles_of_route hq hview)
  simp [routeFunction, Decl.Closed, BodyClosed, mentions_element, withProps, hplane, huse, hload',
    hview', createElement_bound]

lemma mentions_lazyDecl_subset (r : Role) (file : Path) :
    (s.lazyDecl r file).mentions ⊆ s.module.bound := by
  rw [mentions_lazyDecl]
  exact List.cons_subset.2 ⟨lazy_bound s, List.nil_subset _⟩

lemma mentions_routes_subset : (Decl.const .routes (.list
    (routeObjects 0 s.component.routes))).mentions ⊆ s.module.bound := by
  intro x hx
  rcases mem_mentions_routeObjects s.component.routes (by simpa [Decl.mentions] using hx) with
    rfl | ⟨p, hp, role, hrole, rfl⟩
  · exact createElement_bound s
  · obtain ⟨q, hq, hi | hd⟩ := mem_roles_of_mem_shownRoles hp hrole
    · exact mem_fileRoles_bound (mem_fileRoles_of_route hq hi)
    · exact mem_declaredRoles_bound (mem_declaredRoles_of_route hq hd)

/-- The theme is put on something that the module has. -/
lemma inner_mem_declaredRoles (h : s.plan.split = true) : s.inner ∈ s.declaredRoles := by
  unfold inner
  split
  · rename_i hc
    simp [mem_declaredRoles_iff, h, hc]
  · simp [mem_declaredRoles_iff]

/-- So are the boundaries, if they have a function of their own: without a theme it is there for
localization, and then the hooks have a function as well. -/
lemma outer_mem_declaredRoles (h : s.plan.split = true) :
    (if s.plan.themed then Role.themed else .core) ∈ s.declaredRoles := by
  have hsplit : s.plan.split = (s.component.has .i18n || s.plan.themed) := rfl
  have hcore : s.component.has .i18n = true → s.plan.hookCore = true := by
    intro hi
    simp [plan, Component.plan, hi]
  rw [mem_declaredRoles_iff]
  refine .inr (.inr (.inr (.inl ⟨h, ?_⟩)))
  split
  · rename_i ht
    exact .inr ⟨ht, rfl⟩
  · rename_i ht
    rw [hsplit, Bool.or_eq_true] at h
    exact .inl ⟨hcore (h.resolve_right ht), rfl⟩

lemma skin_mem_fileRoles {i : Nat} (h : i < s.component.skins.keys.length) :
    Role.skin i ∈ s.fileRoles := by
  have hi : i < s.component.skins.values.length := by
    simpa [Dict.keys, Dict.values] using h
  rw [mem_fileRoles_iff]
  exact .inr (.inr (.inr (.inl ⟨i, hi, rfl⟩)))

lemma mentions_themed_subset (h : s.plan.split = true) (ht : s.plan.themed = true) :
    (s.themedDecl s.inner).mentions ⊆ s.module.bound := by
  rw [mentions_themed]
  refine List.cons_subset.2 ⟨mem_libraryRoles_bound (by simp [mem_libraryRoles_iff, ht]),
    List.cons_subset.2 ⟨mem_declaredRoles_bound (inner_mem_declaredRoles h), fun x hx => ?_⟩⟩
  obtain ⟨i, hi, rfl⟩ := List.mem_map.1 hx
  exact mem_fileRoles_bound (skin_mem_fileRoles (List.mem_range.1 hi))

theorem closed_decls (s : Source) : ∀ d ∈ s.module.decls, d.Closed s.module.bound := by
  intro d hd
  have hexported : (.own s.exported : Ident) ∈ s.module.bound :=
    mem_declaredRoles_bound (by simp [mem_declaredRoles_iff])
  cases mem_decls_iff.1 hd with
  | view => exact mentions_lazyDecl_subset .view s.component.view
  | i18nDefaults h =>
    have hbundle : (.own .i18nBundle : Ident) ∈ s.module.bound :=
      mem_fileRoles_bound (by simp [mem_fileRoles_iff, h])
    simpa [Decl.Closed, Decl.mentions] using hbundle
  | localeFiles => simp [Decl.Closed, Decl.mentions, mentions_localeFiles]
  | @routeView q file => exact mentions_lazyDecl_subset (.routeView q.index) file
  | route hq hv hl => exact closed_routeFunction hq hv hl
  | routes => exact mentions_routes_subset
  | whole => exact closed_hookFunction (fun _ _ => mentions_boundaries_subset) s.exported
  | core => exact closed_hookFunction (fun _ _ _ he => he) .core
  | themed h ht => exact mentions_themed_subset h ht
  | outer h =>
    have houter := mem_declaredRoles_bound (outer_mem_declaredRoles h)
    refine mentions_boundaries_subset (by simp) ?_
    simp [mentions_element, createElement_bound, houter]
  | displayName => simpa [Decl.Closed, Decl.mentions] using hexported
  | exportDefault => simpa [Decl.Closed, Decl.mentions] using hexported

/-! ### The order of loading -/

variable {known : List Ident}

lemma mem_libraryRoles_imported (h : r ∈ s.libraryRoles) : .own r ∈ s.module.imported := by
  simp [imported_module, h]

lemma mem_fileRoles_imported (h : r ∈ s.fileRoles) : .own r ∈ s.module.imported := by
  simp [imported_module, h]

lemma hoists_subset {d : Decl} (h : s.Declares d) :
    d.hoists ⊆ s.module.decls.flatMap Decl.hoists :=
  fun _ hx => List.mem_flatMap.2 ⟨d, mem_decls_iff.2 h, hx⟩

lemma exported_mem_hoists (s : Source) :
    .own s.exported ∈ s.module.decls.flatMap Decl.hoists := by
  cases hs : s.plan.split with
  | false => exact hoists_subset (.whole hs) (List.mem_singleton_self _)
  | true => exact hoists_subset (.outer hs) (List.mem_singleton_self _)

lemma lazyDecl_mentionsAtLoad_subset (hk : s.module.imported ⊆ known) (file : Path) :
    (s.lazyDecl r file).mentionsAtLoad ⊆ known := by
  refine List.Subset.trans (Decl.mentionsAtLoad_subset _) ?_
  rw [mentions_lazyDecl]
  exact List.cons_subset.2 ⟨hk (mem_libraryRoles_imported (by simp [mem_libraryRoles_iff])),
    List.nil_subset _⟩

lemma loads_viewSection (hk : s.module.imported ⊆ known) : LoadsInOrder known s.viewSection := by
  refine loadsInOrder_of_forall fun d hd => ?_
  rcases mem_viewSection_iff.1 hd with rfl | ⟨-, rfl | rfl⟩
  · exact lazyDecl_mentionsAtLoad_subset hk _
  · simp [Decl.mentionsAtLoad]
  · simp [Decl.mentionsAtLoad, mentions_localeFiles]

lemma loads_routesSections (hk : s.module.imported ⊆ known) :
    LoadsInOrder known s.routesSections.flatten := by
  unfold routesSections
  split
  · trivial
  · rw [List.flatten_append, loadsInOrder_append, binds_flatMap_routeSections]
    refine ⟨loadsInOrder_of_forall fun d hd => ?_, ?_, trivial⟩
    · obtain ⟨ds, hds, hd⟩ := List.mem_flatten.1 hd
      obtain ⟨q, hq, hds⟩ := List.mem_flatMap.1 hds
      obtain ⟨view, -, rfl | ⟨-, rfl⟩⟩ :=
        mem_routeSections_iff.1 (List.mem_flatten.2 ⟨ds, hds, hd⟩)
      · exact lazyDecl_mentionsAtLoad_subset hk _
      · exact List.nil_subset _
    · intro x hx
      rcases mem_mentions_routeObjects s.component.routes
        (by simpa [Decl.mentionsAtLoad] using hx) with rfl | ⟨p, hp, role, hrole, rfl⟩
      · refine List.mem_append_left _ (hk (mem_libraryRoles_imported ?_))
        simp [mem_libraryRoles_iff]
      · obtain ⟨q, hq, hi | hd⟩ := mem_roles_of_mem_shownRoles hp hrole
        · exact List.mem_append_left _
            (hk (mem_fileRoles_imported (mem_fileRoles_of_route hq hi)))
        · exact List.mem_append_right _
            (List.mem_map.2 ⟨role, List.mem_flatMap.2 ⟨q, hq, hd⟩, rfl⟩)

lemma loads_layerSections (hk : s.module.imported ⊆ known) (hv : .own .view ∈ known)
    (hf : s.module.decls.flatMap Decl.hoists ⊆ known) :
    LoadsInOrder known s.layerSections.flatten := by
  refine loadsInOrder_of_forall fun d hd => ?_
  rcases mem_layerSections_iff.1 hd with ⟨-, rfl⟩ | ⟨hs, ⟨-, rfl⟩ | ⟨ht, rfl⟩ | rfl⟩
  · exact List.nil_subset _
  · exact List.nil_subset _
  · have hinner : .own s.inner ∈ known := by
      unfold inner
      split
      · rename_i hc
        exact hf (hoists_subset (.core hs hc) (List.mem_singleton_self _))
      · exact hv
    refine List.Subset.trans (Decl.mentionsAtLoad_subset _) ?_
    rw [mentions_themed]
    refine List.cons_subset.2 ⟨?_, List.cons_subset.2 ⟨hinner, fun x hx => ?_⟩⟩
    · exact hk (mem_libraryRoles_imported (by simp [mem_libraryRoles_iff, ht]))
    · obtain ⟨i, hi, rfl⟩ := List.mem_map.1 hx
      exact hk (mem_fileRoles_imported (skin_mem_fileRoles (List.mem_range.1 hi)))
  · exact List.nil_subset _

theorem loads_decls (s : Source) :
    LoadsInOrder (s.module.imported ++ s.module.decls.flatMap Decl.hoists) s.module.decls := by
  have hexported := exported_mem_hoists s
  obtain ⟨known, hknown⟩ :
    ∃ known, known = s.module.imported ++ s.module.decls.flatMap Decl.hoists := ⟨_, rfl⟩
  have hi : s.module.imported ⊆ known := by simp [hknown]
  have hf : s.module.decls.flatMap Decl.hoists ⊆ known := by simp [hknown]
  have hview : .own .view ∈ s.viewSection.flatMap Decl.binds := by
    simp [viewSection, lazyDecl, Decl.binds]
  rw [← hknown, decls_module, loadsInOrder_append, loadsInOrder_append, loadsInOrder_append]
  refine ⟨loads_viewSection hi, loads_routesSections ?_, loads_layerSections ?_ ?_ ?_, ?_⟩
  · exact List.Subset.trans hi (by simp)
  · exact List.Subset.trans hi (by simp)
  · exact List.mem_append_left _ (List.mem_append_right _ hview)
  · exact List.Subset.trans hf (by simp)
  · refine loadsInOrder_of_forall fun d hd => ?_
    have hd' : d.mentionsAtLoad = [.own s.exported] := by
      rcases (by simpa using hd : d = .displayName s.exported s.component.displayName ∨
        d = .exportDefault s.exported) with rfl | rfl <;> rfl
    rw [hd']
    simp [hf hexported]

/-- **A wrapper is closed.** Each declaration mentions what is in scope, and its text names nothing
else with the prefix but what it introduces; and the module loads without looking up what is not
there yet. -/
theorem closed_and_loads (s : Source) :
    (∀ d ∈ s.module.decls, d.Closed s.module.bound ∧ d.pieces.Names (suffixes d.occurrences)) ∧
      LoadsInOrder (s.module.imported ++ s.module.decls.flatMap Decl.hoists) s.module.decls :=
  ⟨fun d hd => ⟨closed_decls s d hd, d.names_pieces⟩, loads_decls s⟩

end Source

end ViewLayers.Wrapper
