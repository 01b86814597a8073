import Mathlib.Data.List.Nodup
import ViewLayers.Proofs.Wrapper.Declarations
import ViewLayers.Proofs.Wrapper.Suffixes

/-!
What a wrapper introduces at the top of its module goes by different names. Only names that it takes
from the async file can come twice.
-/

namespace ViewLayers.Wrapper

inductive Place where
  | library | file | declaration | function
deriving DecidableEq

def Role.place : Role → Place
  | .createElement | .lazy | .suspense | .useRoutes | .useDataPlane | .useAsyncHandler
  | .useRouteLoader | .useI18n | .errorBoundary | .skinned => .library
  | .placeholder | .errorFallback | .i18nBundle | .skin _ | .routeLoader _ | .routeMeta _ => .file
  | .view | .i18nDefaults | .localeFiles | .routeView _ | .route _ | .routes | .core | .themed
  | .component _ => .declaration
  | .props | .dataPlane | .load | .messages | .routed | .binding _ => .function

/-- The number of the route that a role belongs to. -/
def Role.route? : Role → Option Nat
  | .routeLoader i | .routeMeta i | .routeView i | .route i => some i
  | _ => none

namespace Source

variable {s : Source} {r : Role}

/-! ### Routes have numbers of their own -/

lemma nodup_index_routes (s : Source) : (s.routes.map NumberedRoute.index).Nodup := by
  have h : s.routes.map NumberedRoute.index =
      ((Route.preorderOfList s.component.routes).zipIdx).map Prod.snd := by
    simp [routes, Function.comp_def]
  rw [h, List.zipIdx_map_snd]
  exact List.nodup_range'

/-- Roles that come from routes are as different as these, if each has its route's number. -/
lemma nodup_flatMap_routes {f : NumberedRoute → List Role} (hf : ∀ q, (f q).Nodup)
    (hi : ∀ q, ∀ r ∈ f q, r.route? = some q.index) : (s.routes.flatMap f).Nodup := by
  refine List.nodup_flatMap.2 ⟨fun q _ => hf q, ?_⟩
  have hp := List.pairwise_map.1 (nodup_index_routes s)
  refine hp.imp fun {q q'} hne => List.disjoint_left.2 fun r hr hr' => ?_
  have hq := hi q r hr
  rw [hi q' r hr'] at hq
  exact hne (Option.some.inj hq).symm

lemma route?_of_mem_routeImportRoles {q : NumberedRoute} (h : r ∈ routeImportRoles q) :
    r.route? = some q.index := by
  simp only [routeImportRoles, List.mem_append, mem_optional] at h
  rcases h with ⟨-, rfl⟩ | ⟨-, rfl⟩ <;> rfl

lemma route?_of_mem_routeDeclRoles {q : NumberedRoute} (h : r ∈ routeDeclRoles q) :
    r.route? = some q.index := by
  unfold routeDeclRoles at h
  split at h
  · rcases List.mem_cons.1 h with rfl | h
    · rfl
    · obtain ⟨-, rfl⟩ := mem_optional.1 h
      rfl
  · simp at h

lemma nodup_routeImportRoles (s : Source) : (s.routes.flatMap routeImportRoles).Nodup := by
  refine nodup_flatMap_routes (fun q => ?_) fun q r => route?_of_mem_routeImportRoles
  unfold routeImportRoles
  cases q.route.loader <;> cases q.route.metadata <;> simp [optional]

lemma nodup_routeDeclRoles (s : Source) : (s.routes.flatMap routeDeclRoles).Nodup := by
  refine nodup_flatMap_routes (fun q => ?_) fun q r => route?_of_mem_routeDeclRoles
  unfold routeDeclRoles
  cases q.route.view <;> cases q.route.loader <;> simp [optional]

/-! ### No role is bound twice -/

lemma nodup_libraryRoles (s : Source) : s.libraryRoles.Nodup := by
  have hsub : ∀ (b : Bool) (r : Role), List.Sublist (optional b r) [r] := by
    intro b r
    cases b <;> simp [optional]
  have h : List.Sublist s.libraryRoles [.createElement, .lazy, .suspense, .useRoutes,
      .useDataPlane, .useAsyncHandler, .useRouteLoader, .useI18n, .errorBoundary, .skinned] := by
    simp only [libraryRoles, frameworkNames, runtimeNames, List.map_append, map_optional]
    exact ((List.Sublist.refl [.createElement, .lazy]).append (hsub _ _)).append (hsub _ _)
      |>.append ((((((hsub _ _).append (hsub _ _)).append (hsub _ _)).append (hsub _ _)).append
        (hsub _ _)).append (hsub _ _))
  exact h.nodup (by decide)

lemma nodup_fileRoles (s : Source) : s.fileRoles.Nodup := by
  have hskins : ((List.range s.component.skins.values.length).map Role.skin).Nodup :=
    List.nodup_range.map fun i j h => by injection h
  have hnone : ∀ r ∈ s.routes.flatMap routeImportRoles, r.route? ≠ none := by
    intro r hr
    obtain ⟨q, -, hq⟩ := List.mem_flatMap.1 hr
    simp [route?_of_mem_routeImportRoles hq]
  unfold fileRoles
  refine List.nodup_append.2 ⟨?_, nodup_routeImportRoles s, fun r hr r' hr' => ?_⟩
  · cases s.component.has .placeholder <;> cases s.component.has .error <;>
      cases s.component.has .i18n <;> simp [optional, hskins]
  · rintro rfl
    refine hnone r hr' ?_
    simp only [List.mem_append, mem_optional, List.mem_map] at hr
    rcases hr with ((⟨-, rfl⟩ | ⟨-, rfl⟩) | ⟨-, rfl⟩) | ⟨i, -, rfl⟩ <;> rfl

lemma nodup_declaredRoles (s : Source) : s.declaredRoles.Nodup := by
  have hnodup := nodup_routeDeclRoles s
  have hne : ∀ r ∈ s.routes.flatMap routeDeclRoles, ∀ r' : Role, r'.route? = none → r ≠ r' := by
    rintro r hr r' hr' rfl
    obtain ⟨q, -, hq⟩ := List.mem_flatMap.1 hr
    rw [route?_of_mem_routeDeclRoles hq] at hr'
    contradiction
  have hlayers : s.layerRoles.Nodup := by
    unfold layerRoles
    cases s.plan.split <;> cases s.plan.hookCore <;> cases s.plan.themed <;>
      simp [optional, exported]
  have hmem : ∀ r ∈ s.layerRoles, r = .core ∨ r = .themed ∨ r = s.exported := by
    unfold layerRoles
    cases s.plan.split <;> cases s.plan.hookCore <;> cases s.plan.themed <;> simp [optional]
  unfold declaredRoles
  generalize s.routes.flatMap routeDeclRoles = rs at hnodup hne ⊢
  have hview : ∀ r ∈ Role.view :: (if s.component.has .i18n then [.i18nDefaults, .localeFiles]
      else []), r = .view ∨ r = .i18nDefaults ∨ r = .localeFiles := by
    split <;> simp
  have hroutes : ∀ r ∈ (if s.component.routes.isEmpty then [] else rs ++ [Role.routes]),
      r ∈ rs ∨ r = .routes := by
    split <;> simp
  refine List.nodup_append.2 ⟨List.nodup_append.2 ⟨?_, ?_, fun r hr r' hr' => ?_⟩, hlayers,
    fun r hr r' hr' => ?_⟩
  · split <;> simp
  · split
    · exact List.nodup_nil
    · refine List.nodup_append.2 ⟨hnodup, by simp, fun r hr r' hr' => ?_⟩
      exact hne r hr r' (by rw [List.mem_singleton.1 hr']; rfl)
  · rcases hroutes r' hr' with h | rfl
    · rcases hview r hr with rfl | rfl | rfl <;> exact (hne r' h _ rfl).symm
    · rcases hview r hr with rfl | rfl | rfl <;> decide
  · rcases List.mem_append.1 hr with hr | hr
    · rcases hview r hr with rfl | rfl | rfl <;>
        rcases hmem r' hr' with rfl | rfl | rfl <;> simp [exported]
    · rcases hroutes r hr with h | rfl
      · rcases hmem r' hr' with rfl | rfl | rfl <;> exact hne r h _ rfl
      · rcases hmem r' hr' with rfl | rfl | rfl <;> simp [exported]

/-- What is introduced at the top of the module. -/
def topRoles (s : Source) : List Role := s.libraryRoles ++ s.fileRoles ++ s.declaredRoles

lemma place_of_mem_libraryRoles (h : r ∈ s.libraryRoles) : r.place = .library := by
  rcases mem_libraryRoles_iff.1 h with rfl | rfl | ⟨-, rfl⟩ | ⟨-, rfl⟩ | ⟨-, rfl⟩ | ⟨-, rfl⟩ |
    ⟨-, rfl⟩ | ⟨-, rfl⟩ | ⟨-, rfl⟩ | ⟨-, rfl⟩ <;> rfl

lemma place_of_mem_fileRoles (h : r ∈ s.fileRoles) : r.place = .file := by
  rcases mem_fileRoles_iff.1 h with ⟨-, rfl⟩ | ⟨-, rfl⟩ | ⟨-, rfl⟩ | ⟨i, -, rfl⟩ | ⟨q, -, hq⟩
  · rfl
  · rfl
  · rfl
  · rfl
  · simp only [routeImportRoles, List.mem_append, mem_optional] at hq
    rcases hq with ⟨-, rfl⟩ | ⟨-, rfl⟩ <;> rfl

lemma place_of_mem_declaredRoles (h : r ∈ s.declaredRoles) : r.place = .declaration := by
  rcases mem_declaredRoles_iff.1 h with rfl | ⟨-, rfl | rfl⟩ | ⟨-, ⟨q, -, hq⟩ | rfl⟩ |
    ⟨-, ⟨-, rfl⟩ | ⟨-, rfl⟩⟩ | rfl
  · rfl
  · rfl
  · rfl
  · unfold routeDeclRoles at hq
    split at hq
    · rcases List.mem_cons.1 hq with rfl | hq
      · rfl
      · obtain ⟨-, rfl⟩ := mem_optional.1 hq
        rfl
    · simp at hq
  · rfl
  · rfl
  · rfl
  · rfl

theorem nodup_topRoles (s : Source) : s.topRoles.Nodup := by
  refine List.nodup_append.2 ⟨List.nodup_append.2 ⟨nodup_libraryRoles s, nodup_fileRoles s, ?_⟩,
    nodup_declaredRoles s, ?_⟩
  · rintro r hr _ hr' rfl
    have h := place_of_mem_libraryRoles hr
    rw [place_of_mem_fileRoles hr'] at h
    contradiction
  · rintro r hr _ hr' rfl
    have h := place_of_mem_declaredRoles hr'
    rcases List.mem_append.1 hr with hr | hr
    · rw [place_of_mem_libraryRoles hr] at h
      contradiction
    · rw [place_of_mem_fileRoles hr] at h
      contradiction

/-! ### Names -/

lemma named_of_mem_topRoles (h : r ∈ s.topRoles) : r.Named := by
  rcases List.mem_append.1 h with h | h
  · have hp : r.place = .library ∨ r.place = .file := by
      rcases List.mem_append.1 h with h | h
      · exact .inl (place_of_mem_libraryRoles h)
      · exact .inr (place_of_mem_fileRoles h)
    cases r <;> first | trivial | simp [Role.place] at hp
  · rcases mem_declaredRoles_iff.1 h with rfl | ⟨-, rfl | rfl⟩ | ⟨-, ⟨q, -, hq⟩ | rfl⟩ |
      ⟨-, ⟨-, rfl⟩ | ⟨-, rfl⟩⟩ | rfl
    all_goals first | trivial | exact ⟨_, rfl⟩ | skip
    have hn := route?_of_mem_routeDeclRoles hq
    cases r <;> trivial

variable {p : HygienePrefix}

/-- What is introduced at the top goes by different names, whatever the prefix. -/
theorem nodup_names_topRoles (s : Source) (p : HygienePrefix) :
    (s.topRoles.map fun r => p.ident r.suffix).Nodup :=
  (nodup_topRoles s).map_on fun _ hr _ hr' h =>
    Role.ident_inj (named_of_mem_topRoles hr) (named_of_mem_topRoles hr') h

/-- A module binds no name twice if the names from the async file differ from each other, and from
those that it introduces. -/
theorem nodup_names_bound_iff (s : Source) (p : HygienePrefix) :
    (s.module.bound.map (Ident.name p)).Nodup ↔
      s.bindings.Nodup ∧ ∀ n ∈ s.bindings, ∀ r ∈ s.topRoles, n ≠ p.ident r.suffix := by
  have hnames : s.module.bound.map (Ident.name p) =
      s.libraryRoles.map (fun r => p.ident r.suffix) ++ s.bindings
        ++ (s.fileRoles ++ s.declaredRoles).map (fun r => p.ident r.suffix) := by
    simp [Module.bound, imported_module, declared_module, Function.comp_def, Ident.name]
  have hperm : List.Perm (s.module.bound.map (Ident.name p))
      (s.bindings ++ s.topRoles.map fun r => p.ident r.suffix) := by
    rw [hnames]
    simp only [topRoles, List.map_append, List.append_assoc]
    exact List.perm_append_comm_assoc _ _ _
  rw [hperm.nodup_iff, List.nodup_append]
  simp [nodup_names_topRoles]

end Source

end ViewLayers.Wrapper
