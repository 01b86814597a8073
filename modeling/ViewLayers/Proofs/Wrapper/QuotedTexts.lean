import ViewLayers.Proofs.Component.Naming
import ViewLayers.Proofs.Wrapper.Composition
import ViewLayers.Proofs.Wrapper.Quoting

/-!
What a wrapper quotes. All text from outside that is no identifier stands in literals, in an order
that the shape of the component decides; and the code around them depends on that shape alone.
-/

namespace ViewLayers

namespace Route

mutual

/-- Routes with files of the same kinds, and the same forest below them. -/
def SameShape : Route → Route → Prop
  | ⟨_, _, _, v, l, m, cs⟩, ⟨_, _, _, v', l', m', cs'⟩ =>
    v.isSome = v'.isSome ∧ l.isSome = l'.isSome ∧ m.isSome = m'.isSome ∧ SameShapes cs cs'

def SameShapes : List Route → List Route → Prop
  | [], [] => True
  | r :: rs, r' :: rs' => SameShape r r' ∧ SameShapes rs rs'
  | _, _ => False

end

/-- Routes with files of the same kinds. -/
def SameFiles (r r' : Route) : Prop :=
  r.view.isSome = r'.view.isSome ∧ r.loader.isSome = r'.loader.isSome ∧
    r.metadata.isSome = r'.metadata.isSome

lemma SameShapes.isEmpty_eq {rs rs' : List Route} (h : SameShapes rs rs') :
    rs.isEmpty = rs'.isEmpty := by
  cases rs <;> cases rs' <;> simp_all [SameShapes]

mutual

theorem SameShape.preorder : (r r' : Route) → SameShape r r' →
    List.Forall₂ SameFiles r.preorder r'.preorder
  | ⟨_, _, _, _, _, _, cs⟩, ⟨_, _, _, _, _, _, cs'⟩, ⟨hv, hl, hm, hc⟩ =>
    .cons ⟨hv, hl, hm⟩ (SameShapes.preorder cs cs' hc)

theorem SameShapes.preorder : (rs rs' : List Route) → SameShapes rs rs' →
    List.Forall₂ SameFiles (preorderOfList rs) (preorderOfList rs')
  | [], [], _ => .nil
  | r :: rs, r' :: rs', ⟨h, hs⟩ =>
    List.rel_append (SameShape.preorder r r' h) (SameShapes.preorder rs rs' hs)

end

end Route

namespace Wrapper

open Script

/-- A text of characters that identifiers of a script are made of. -/
def IsIdentifier (name : String) : Prop :=
  ∃ c cs, name.toList = c :: cs ∧ Text.isIdentifierStart c = true ∧
    cs.all Text.isIdentifierPart = true

lemma IsIdentifier.isCode {name : String} (h : IsIdentifier name) : IsCode name := by
  obtain ⟨c, cs, hname, hc, hcs⟩ := h
  have hstart : Text.isIdentifierStart '"' = false := by decide
  have hpart : Text.isIdentifierPart '"' = false := by decide
  intro hq
  rw [hname] at hq
  rcases List.mem_cons.1 hq with rfl | hq
  · rw [hstart] at hc
    exact Bool.false_ne_true hc
  · have := List.all_eq_true.1 hcs _ hq
    rw [hpart] at this
    exact Bool.false_ne_true this

namespace Source

/-- Sources whose wrappers have the same code: they differ only in texts that are quoted. -/
structure SameShape (s s' : Source) : Prop where
  concerns : ∀ k, s.component.has k = s'.component.has k
  skins : s.component.skins.entries.length = s'.component.skins.entries.length
  routes : Route.SameShapes s.component.routes s'.component.routes
  displayName : s.component.displayName = s'.component.displayName
  bindings : s.bindings = s'.bindings
  loaderExports : s.routes.map NumberedRoute.loaderExport = s'.routes.map NumberedRoute.loaderExport
  identifiers : ∀ q ∈ s.routes, ∀ name, q.loaderExport = some name → IsIdentifier name
  globs : s.options.globsLocaleFiles = s'.options.globsLocaleFiles

/-! ### The texts -/

/-- The modules that a wrapper imports from. -/
def importedTexts (s : Source) : List String :=
  [s.options.frameworkModule]
    ++ optional (!s.component.routes.isEmpty) s.options.routerModule
    ++ optional (!s.runtimeNames.isEmpty) s.options.runtimeModule
    ++ (if s.bindings.isEmpty then [] else
        (s.component.concerns.get .async).toList.map s.specifier)
    ++ ([.placeholder, .error, .i18n].flatMap fun k =>
        (s.component.concerns.get k).toList.map s.specifier)
    ++ s.component.skins.values.map s.specifier
    ++ (Route.preorderOfList s.component.routes).flatMap fun r =>
        r.loader.toList.map s.specifier ++ r.metadata.toList.map s.specifier

/-- The views that a wrapper loads, the files that it globs, and the patterns of its routes. -/
def declaredTexts (s : Source) : List String :=
  s.specifier s.component.view
    :: (if s.component.has .i18n && s.options.globsLocaleFiles then
        [s.localeFilesPattern, "?url", "default"] else [])
    ++ ((Route.preorderOfList s.component.routes).flatMap fun r => r.view.toList.map s.specifier)
    ++ (Route.preorderOfList s.component.routes).map Route.pattern

/-- The names that a wrapper shows: of the component, where its messages are asked for; of its
skins; and the display name. -/
def shownTexts (s : Source) : List String :=
  optional (s.component.has .i18n) s.component.name
    ++ s.component.skins.keys
    ++ [s.component.displayName]

/-- What stands in the literals of a wrapper, in order. -/
def quotedTexts (s : Source) : List String := s.importedTexts ++ s.declaredTexts ++ s.shownTexts

variable {s s' : Source}

/-! ### What the shape decides -/

lemma forall₂_zipIdx {α β : Type} {R : α → β → Prop} {as : List α} {bs : List β} (n : Nat)
    (h : List.Forall₂ R as bs) :
    List.Forall₂ (fun x y => x.2 = y.2 ∧ R x.1 y.1) (as.zipIdx n) (bs.zipIdx n) := by
  induction h generalizing n with
  | nil => exact .nil
  | cons h _ ih => exact .cons ⟨rfl, h⟩ (ih (n + 1))

lemma forall₂_zipIdx_of_length {α β : Type} {as : List α} {bs : List β}
    (h : as.length = bs.length) :
    List.Forall₂ (fun x y => x.2 = y.2) as.zipIdx bs.zipIdx := by
  have hall : List.Forall₂ (fun _ _ => True) as bs := List.forall₂_iff_zip.2 ⟨h, fun _ => trivial⟩
  exact (forall₂_zipIdx 0 hall).imp fun _ _ hxy => hxy.1

lemma map_zipIdx_fst {α β : Type} (as : List α) (f : α → β) :
    (as.zipIdx.map fun x => f x.1) = as.map f := by
  have h := congrArg (List.map f) (List.zipIdx_map_fst 0 as)
  rwa [List.map_map] at h

lemma forall₂_of_mem {α β : Type} {R S : α → β → Prop} {as : List α} {bs : List β}
    (h : List.Forall₂ R as bs) (hS : ∀ a b, a ∈ as → R a b → S a b) : List.Forall₂ S as bs := by
  induction h with
  | nil => exact .nil
  | cons h _ ih =>
    exact .cons (hS _ _ List.mem_cons_self h)
      (ih fun a b ha => hS a b (List.mem_cons_of_mem _ ha))

lemma map_route (s : Source) :
    s.routes.map NumberedRoute.route = Route.preorderOfList s.component.routes := by
  rw [Source.routes, List.map_map]
  exact map_zipIdx_fst _ id |>.trans (List.map_id _)

lemma forall₂_of_map_eq {α β γ : Type} {f : α → γ} {g : β → γ} {as : List α} {bs : List β}
    (h : as.map f = bs.map g) : List.Forall₂ (fun a b => f a = g b) as bs := by
  rw [← List.forall₂_eq_eq_eq, List.forall₂_map_left_iff, List.forall₂_map_right_iff] at h
  exact h

namespace SameShape

lemma isEmpty_skins (h : s.SameShape s') :
    s.component.skins.isEmpty = s'.component.skins.isEmpty := by
  have hlen := h.skins
  unfold Dict.isEmpty
  cases hs : s.component.skins.entries <;> cases hs' : s'.component.skins.entries <;>
    simp_all

lemma plan_eq (h : s.SameShape s') : s.plan = s'.plan := by
  simp only [plan, Component.plan, h.concerns, h.bindings, h.isEmpty_skins, h.routes.isEmpty_eq]

lemma hasRouteLoaders_eq (h : s.SameShape s') :
    s.component.hasRouteLoaders = s'.component.hasRouteLoaders := by
  rw [Component.hasRouteLoaders, Component.hasRouteLoaders, Route.anyHasLoader_eq_any,
    Route.anyHasLoader_eq_any]
  generalize Route.preorderOfList s.component.routes = rs,
    Route.preorderOfList s'.component.routes = rs', Route.SameShapes.preorder _ _ h.routes = hf
  induction hf with
  | nil => rfl
  | cons hr _ ih => rw [List.any_cons, List.any_cons, hr.2.1, ih]

lemma frameworkNames_eq (h : s.SameShape s') : s.frameworkNames = s'.frameworkNames := by
  rw [frameworkNames, frameworkNames, h.plan_eq]

lemma runtimeNames_eq (h : s.SameShape s') : s.runtimeNames = s'.runtimeNames := by
  simp only [runtimeNames, h.plan_eq, h.bindings, h.hasRouteLoaders_eq, h.concerns]

lemma routes_forall₂ (h : s.SameShape s') :
    List.Forall₂ (fun q q' : NumberedRoute => (q.index = q'.index ∧
      Route.SameFiles q.route q'.route) ∧ q.loaderExport = q'.loaderExport) s.routes s'.routes := by
  have hfiles := forall₂_zipIdx 0 (Route.SameShapes.preorder _ _ h.routes)
  have hexports : List.Forall₂ (fun q q' : NumberedRoute => q.loaderExport = q'.loaderExport)
      s.routes s'.routes := forall₂_of_map_eq h.loaderExports
  refine List.Forall₂.mp (fun _ _ => And.intro) ?_ hexports
  rw [Source.routes, Source.routes, List.forall₂_map_left_iff, List.forall₂_map_right_iff]
  exact hfiles

end SameShape

/-! ### Names that come from outside -/

lemma isCode_displayName (name : String) : IsCode (ViewLayers.displayName name) := fun hquote =>
  absurd (isWordChar_of_mem_displayName hquote) (by decide)

lemma isCode_of_mem_bindings {n : String} (h : n ∈ s.bindings) : IsCode n := by
  unfold bindings at h
  split at h
  · have hu := (List.mem_filter.1 h).2
    rw [isUsable, Bool.and_eq_true] at hu
    exact isCode_of_isAsciiIdentifier hu.1
  · simp at h

lemma plain_exported (s : Source) : s.exported.Plain := isCode_displayName _

/-! ### Imports -/

variable {p : HygienePrefix}

lemma plain_of_mem_libraryNames {x : String × Role} (h : x ∈ libraryNames) :
    IsCode x.1 ∧ x.2.Plain := by
  simp only [libraryNames, List.mem_cons, List.not_mem_nil, or_false] at h
  rcases h with rfl | rfl | rfl | rfl | rfl | rfl | rfl | rfl | rfl | rfl <;>
    exact ⟨by decide, trivial⟩

lemma alike_importOwn (p : HygienePrefix) (t u : String) {names : List (String × Role)}
    (h : names ⊆ libraryNames) :
    ImportsAlike p (importOwn t names) (importOwn u names)
      (optional (!names.isEmpty) t) (optional (!names.isEmpty) u) := by
  have hnames : ∀ x ∈ names.map fun x => (x.1, Ident.own x.2),
      IsCode x.1 ∧ Pieces.Alike x.2.pieces x.2.pieces [] [] := by
    intro x hx
    obtain ⟨y, hy, rfl⟩ := List.mem_map.1 hx
    obtain ⟨hcode, hplain⟩ := plain_of_mem_libraryNames (h hy)
    exact ⟨hcode, Pieces.Alike.role hplain⟩
  have hnamed := alike_named p hnames t u
  unfold importOwn ImportsAlike
  cases names with
  | nil => exact .nil
  | cons n ns => exact .singleton hnamed

lemma forall₂_toList {α : Type} {o o' : Option α} (h : o.isSome = o'.isSome) :
    List.Forall₂ (fun _ _ => True) o.toList o'.toList := by
  cases o <;> cases o' <;> simp_all

lemma alike_map {α β : Type} {f : α → Import} {g : β → Import} {t : α → String} {u : β → String}
    {as : List α} {bs : List β} (h : List.Forall₂ (fun a b =>
      Pieces.Alike ((f a).pieces p) ((g b).pieces p) [t a] [u b]) as bs) :
    ImportsAlike p (as.map f) (bs.map g) (as.map t) (bs.map u) := by
  unfold ImportsAlike
  rw [List.map_map, List.map_map]
  exact .map_singleton h

lemma isEmpty_optional {α : Type} (b : Bool) (a : α) : (optional b a).isEmpty = !b := by
  cases b <;> rfl

lemma importFile_eq (s : Source) (file : Option Path) (r : Role) :
    s.importFile file r = file.toList.map fun file => .default (s.specifier file) r := by
  cases file <;> rfl

lemma importBindings_eq (s : Source) :
    s.importBindings = if s.bindings.isEmpty then [] else
      (s.component.concerns.get .async).toList.map fun file =>
        .named (s.specifier file) (s.bindings.map fun n => (n, .taken n)) := by
  unfold importBindings
  cases h : s.component.concerns.get .async <;> cases hb : s.bindings <;> simp [optional]

lemma alike_importFile (s s' : Source) (p : HygienePrefix) {r : Role} (hr : r.Plain)
    {file file' : Option Path} (h : file.isSome = file'.isSome) :
    ImportsAlike p (s.importFile file r) (s'.importFile file' r)
      (file.toList.map s.specifier) (file'.toList.map s'.specifier) := by
  rw [importFile_eq, importFile_eq]
  exact alike_map ((forall₂_toList h).imp fun _ _ _ => alike_default p hr _ _)

namespace SameShape

lemma alike_importBindings (h : s.SameShape s') :
    ImportsAlike p s.importBindings s'.importBindings
      (if s.bindings.isEmpty then [] else
        (s.component.concerns.get .async).toList.map s.specifier)
      (if s'.bindings.isEmpty then [] else
        (s'.component.concerns.get .async).toList.map s'.specifier) := by
  have hnames : ∀ x ∈ s.bindings.map fun n => (n, Ident.taken n),
      IsCode x.1 ∧ Pieces.Alike x.2.pieces x.2.pieces [] [] := by
    intro x hx
    obtain ⟨n, hn, rfl⟩ := List.mem_map.1 hx
    have hcode := isCode_of_mem_bindings hn
    exact ⟨hcode, Pieces.Alike.nil.fixed hcode⟩
  rw [importBindings_eq, importBindings_eq, ← h.bindings]
  split
  · exact .nil
  · exact alike_map ((forall₂_toList (h.concerns .async)).imp fun _ _ _ => alike_named p hnames _ _)

lemma alike_importSkins (h : s.SameShape s') :
    ImportsAlike p s.importSkins s'.importSkins
      (s.component.skins.values.map s.specifier) (s'.component.skins.values.map s'.specifier) := by
  have hlen : s.component.skins.values.length = s'.component.skins.values.length := by
    simpa [Dict.values] using h.skins
  rw [← map_zipIdx_fst s.component.skins.values, ← map_zipIdx_fst s'.component.skins.values]
  refine alike_map ((forall₂_zipIdx_of_length hlen).imp ?_)
  rintro ⟨file, i⟩ ⟨file', i'⟩ rfl
  exact alike_default p (r := .skin i) trivial _ _

lemma alike_importRoute (h : s.SameShape s') {q q' : NumberedRoute} (hq : q ∈ s.routes)
    (hi : q.index = q'.index) (hf : Route.SameFiles q.route q'.route)
    (he : q.loaderExport = q'.loaderExport) :
    ImportsAlike p (s.importRoute q) (s'.importRoute q')
      (q.route.loader.toList.map s.specifier ++ q.route.metadata.toList.map s.specifier)
      (q'.route.loader.toList.map s'.specifier ++ q'.route.metadata.toList.map s'.specifier) := by
  have hmeta := alike_importFile s s' p (r := .routeMeta q.index) trivial hf.2.2
  unfold ImportsAlike at hmeta ⊢
  rw [importRoute, importRoute, ← hi, ← he, List.map_append, List.map_append]
  refine Pieces.AllAlike.append ?_ hmeta
  have hloader := hf.2.1
  cases hl : q.route.loader with
  | none =>
    obtain hl' : q'.route.loader = none := by simpa [hl] using hloader.symm
    rw [hl']
    exact .nil
  | some file =>
    obtain ⟨file', hl'⟩ := Option.isSome_iff_exists.1 (hloader.symm.trans (by rw [hl]; rfl))
    rw [hl']
    cases hn : q.loaderExport with
    | none => exact .singleton (alike_default p (r := .routeLoader q.index) trivial _ _)
    | some name =>
      refine .singleton (alike_named p (fun x hx => ?_) _ _)
      rw [List.mem_singleton.1 hx]
      exact ⟨(h.identifiers q hq name hn).isCode, Pieces.Alike.role trivial⟩

lemma alike_importRoutes (h : s.SameShape s') :
    ImportsAlike p (s.routes.flatMap s.importRoute) (s'.routes.flatMap s'.importRoute)
      ((Route.preorderOfList s.component.routes).flatMap fun r =>
        r.loader.toList.map s.specifier ++ r.metadata.toList.map s.specifier)
      ((Route.preorderOfList s'.component.routes).flatMap fun r =>
        r.loader.toList.map s'.specifier ++ r.metadata.toList.map s'.specifier) := by
  unfold ImportsAlike
  rw [← map_route s, ← map_route s', List.flatMap_map, List.flatMap_map, List.map_flatMap,
    List.map_flatMap]
  refine .flatMap (forall₂_of_mem h.routes_forall₂ ?_)
  rintro q q' hq ⟨⟨hi, hf⟩, he⟩
  exact h.alike_importRoute hq hi hf he

lemma alike_imports (h : s.SameShape s') :
    ImportsAlike p s.imports s'.imports s.importedTexts s'.importedTexts := by
  have hframework : ImportsAlike p (importOwn s.options.frameworkModule s.frameworkNames)
      (importOwn s'.options.frameworkModule s'.frameworkNames) [s.options.frameworkModule]
      [s'.options.frameworkModule] := by
    rw [← h.frameworkNames_eq]
    exact alike_importOwn p _ _ s.frameworkNames_subset
  have hrouter := alike_importOwn p s.options.routerModule s'.options.routerModule
    (routerNames_subset (!s.component.routes.isEmpty))
  have hruntime := alike_importOwn p s.options.runtimeModule s'.options.runtimeModule
    s.runtimeNames_subset
  have hplaceholder := alike_importFile s s' p (r := .placeholder) trivial (h.concerns .placeholder)
  have herror := alike_importFile s s' p (r := .errorFallback) trivial (h.concerns .error)
  have hi18n := alike_importFile s s' p (r := .i18nBundle) trivial (h.concerns .i18n)
  have hall := (((((((hframework.append hrouter).append hruntime).append
    h.alike_importBindings).append hplaceholder).append herror).append hi18n).append
    h.alike_importSkins).append h.alike_importRoutes
  rw [imports, imports, importedTexts, importedTexts, ← h.runtimeNames_eq, ← h.routes.isEmpty_eq]
  simpa only [isEmpty_optional, Bool.not_not, List.flatMap_cons, List.flatMap_nil, List.append_nil,
    List.append_assoc] using hall

end SameShape

/-! ### Elements -/

variable {e e' : Expr} {ts us : List String}

lemma alike_element_none {r : Role} (hr : r.Plain) :
    Expr.Alike (element r none) (element r none) [] [] :=
  .call (r := .createElement) trivial (.cons_own hr .nil)

lemma alike_element_some {r : Role} (hr : r.Plain) (h : Expr.Alike e e' ts us) :
    Expr.Alike (element r (some e)) (element r (some e')) ts us :=
  .call (r := .createElement) trivial (.cons_own hr (.singleton h))

lemma alike_withProps {fields : List (String × Expr)}
    (h : ∀ x ∈ fields, IsCode x.1 ∧ Expr.Alike x.2 x.2 [] []) :
    Expr.Alike (withProps fields) (withProps fields) [] [] := by
  have hfields : Expr.FieldsAlike (fields.map fun x => (Key.name x.1, x.2))
      (fields.map fun x => (Key.name x.1, x.2)) [] [] := by
    induction fields with
    | nil => exact .nil
    | cons x xs ih =>
      obtain ⟨hk, he⟩ := h x List.mem_cons_self
      exact .name (hk.append (by decide)) he (ih fun y hy => h y (List.mem_cons_of_mem _ hy))
  unfold withProps
  split
  · exact .own (r := .props) trivial
  · exact .object (.spread (.own (r := .props) trivial) hfields)

lemma SameShape.alike_bounded (h : s.SameShape s') (he : Expr.Alike e e' ts us) :
    Expr.Alike (s.bounded e) (s'.bounded e') ts us := by
  have hfallback : Expr.Alike
      (if s.component.has .placeholder then element .placeholder none else .null)
      (if s.component.has .placeholder then element .placeholder none else .null) [] [] := by
    split
    · exact alike_element_none (r := .placeholder) trivial
    · exact .null
  have hsuspense : Expr.Alike
      (if s.plan.suspense then .boundary .suspense
        (if s.component.has .placeholder then element .placeholder none else .null) e else e)
      (if s.plan.suspense then .boundary .suspense
        (if s.component.has .placeholder then element .placeholder none else .null) e' else e')
      ts us := by
    split
    · exact .boundary (r := .suspense) trivial hfallback he
    · exact he
  rw [bounded, bounded, ← h.plan_eq, ← h.concerns]
  split
  · exact .boundary (r := .errorBoundary) trivial (.own (r := .errorFallback) trivial) hsuspense
  · exact hsuspense

/-! ### The view and its messages -/

lemma alike_lazyDecl (s s' : Source) {r : Role} (hr : r.Plain) (file file' : Path) :
    Decl.Alike (s.lazyDecl r file) (s'.lazyDecl r file') [s.specifier file]
      [s'.specifier file'] :=
  .const hr (.call (r := .lazy) trivial (.singleton (.thunk (.load _ _))))

namespace SameShape

lemma alike_localeFiles (h : s.SameShape s') : Expr.Alike s.localeFiles s'.localeFiles
    (if s.options.globsLocaleFiles then [s.localeFilesPattern, "?url", "default"] else [])
    (if s'.options.globsLocaleFiles then [s'.localeFilesPattern, "?url", "default"] else []) := by
  have hoptions : Expr.Alike
      (.object [(.name "query", .text "?url"), (.name "import", .text "default"),
        (.name "eager", .yes)])
      (.object [(.name "query", .text "?url"), (.name "import", .text "default"),
        (.name "eager", .yes)]) ["?url", "default"] ["?url", "default"] :=
    .object (.name (by decide) (.text _ _) (.name (by decide) (.text _ _)
      (.name (by decide) .yes .nil)))
  rw [localeFiles, localeFiles, ← h.globs]
  split
  · exact .glob (.cons (.text _ _) (.singleton hoptions))
  · exact .object .nil

lemma alike_viewSection (h : s.SameShape s') : DeclsAlike s.viewSection s'.viewSection
    (s.specifier s.component.view
      :: if s.component.has .i18n && s.options.globsLocaleFiles then
        [s.localeFilesPattern, "?url", "default"] else [])
    (s'.specifier s'.component.view
      :: if s'.component.has .i18n && s'.options.globsLocaleFiles then
        [s'.localeFilesPattern, "?url", "default"] else []) := by
  have hview := alike_lazyDecl s s' (r := .view) trivial s.component.view
    s'.component.view
  have hdefaults : Decl.Alike (.const .i18nDefaults (.thunk (.own .i18nBundle)))
      (.const .i18nDefaults (.thunk (.own .i18nBundle))) [] [] :=
    .const (r := .i18nDefaults) trivial (.thunk (.own (r := .i18nBundle) trivial))
  have hfiles : Decl.Alike (.const .localeFiles s.localeFiles) (.const .localeFiles s'.localeFiles)
    _ _ := .const (r := .localeFiles) trivial h.alike_localeFiles
  unfold viewSection
  rw [← h.concerns .i18n]
  cases s.component.has .i18n with
  | false => exact .singleton hview
  | true => exact .cons hview (.cons hdefaults (.singleton hfiles))

end SameShape

/-! ### Routes -/

mutual

theorem routeCount_eq_of_sameShape : (r r' : Route) → Route.SameShape r r' →
    routeCount r = routeCount r'
  | ⟨_, _, _, _, _, _, cs⟩, ⟨_, _, _, _, _, _, cs'⟩, ⟨_, _, _, h⟩ => by
    rw [routeCount, routeCount, routeCounts_eq_of_sameShapes cs cs' h]

theorem routeCounts_eq_of_sameShapes : (rs rs' : List Route) → Route.SameShapes rs rs' →
    routeCounts rs = routeCounts rs'
  | [], [], _ => rfl
  | r :: rs, r' :: rs', ⟨h, hs⟩ => by
    rw [routeCounts, routeCounts, routeCount_eq_of_sameShape r r' h,
      routeCounts_eq_of_sameShapes rs rs' hs]

end

mutual

/-- The objects of routes of one shape are alike around the patterns of the routes. -/
theorem alike_routeObject (i : Nat) : (r r' : Route) → Route.SameShape r r' →
    Expr.Alike (routeObject i r) (routeObject i r') (r.preorder.map Route.pattern)
      (r'.preorder.map Route.pattern)
  | ⟨_, pattern, _, view, loader, metadata, cs⟩, ⟨_, pattern', _, view', loader', metadata', cs'⟩,
    ⟨hv, hl, hm, hc⟩ => by
    have hpath : Expr.Alike
        (if metadata.isSome then .orElse (.member (.own (.routeMeta i)) "path") (.text pattern)
          else .text pattern)
        (if metadata.isSome then .orElse (.member (.own (.routeMeta i)) "path") (.text pattern')
          else .text pattern') [pattern] [pattern'] := by
      split
      · exact .orElse (.member (.own (r := .routeMeta i) trivial) (by decide)) (.text _ _)
      · exact .text _ _
    have hshown : (if loader.isSome then Role.route i else .routeView i).Plain := by
      split <;> trivial
    have hchildren : Expr.FieldsAlike
        (optional (!cs.isEmpty) (Key.name "children", .list (routeObjects (i + 1) cs)))
        (optional (!cs.isEmpty) (Key.name "children", .list (routeObjects (i + 1) cs')))
        ((Route.preorderOfList cs).map Route.pattern)
        ((Route.preorderOfList cs').map Route.pattern) := by
      have hlist := alike_routeObjects (i + 1) cs cs' hc
      cases cs with
      | nil =>
        obtain rfl : cs' = [] := List.isEmpty_iff.1 hc.isEmpty_eq.symm
        exact .nil
      | cons c cs => simpa [optional] using Expr.FieldsAlike.name (by decide) (.list hlist) .nil
    rw [routeObject, routeObject, Route.preorder, Route.preorder, ← hv, ← hl, ← hm,
      ← hc.isEmpty_eq]
    refine .object (.name (by decide) hpath ?_)
    cases view.isSome with
    | false => exact hchildren
    | true => exact .name (by decide) (alike_element_none hshown) hchildren

theorem alike_routeObjects (i : Nat) : (rs rs' : List Route) → Route.SameShapes rs rs' →
    Expr.AllAlike (routeObjects i rs) (routeObjects i rs')
      ((Route.preorderOfList rs).map Route.pattern) ((Route.preorderOfList rs').map Route.pattern)
  | [], [], _ => .nil
  | r :: rs, r' :: rs', ⟨h, hs⟩ => by
    rw [routeObjects, routeObjects, ← routeCount_eq_of_sameShape r r' h, Route.preorderOfList,
      Route.preorderOfList, List.map_append, List.map_append]
    exact .cons (alike_routeObject i r r' h) (alike_routeObjects _ rs rs' hs)

end

lemma alike_routeSections {q q' : NumberedRoute} (hi : q.index = q'.index)
    (hf : Route.SameFiles q.route q'.route) :
    SectionsAlike (s.routeSections q) (s'.routeSections q')
      (q.route.view.toList.map s.specifier) (q'.route.view.toList.map s'.specifier) := by
  have hfunction : Decl.Alike (routeFunction q.index) (routeFunction q.index) [] [] := by
    have hplane :
        Expr.Alike (.call (.own .useDataPlane) []) (.call (.own .useDataPlane) []) [] [] :=
      .call (r := .useDataPlane) trivial .nil
    have hload : Expr.Alike
        (.call (.own .useRouteLoader) [.own (.routeLoader q.index), .own .dataPlane])
        (.call (.own .useRouteLoader) [.own (.routeLoader q.index), .own .dataPlane]) [] [] :=
      .call (r := .useRouteLoader) trivial (.cons_own (r := .routeLoader q.index) trivial
        (.cons_own (r := .dataPlane) trivial .nil))
    have hprops : Expr.Alike (withProps [("load", .own .load)]) (withProps [("load", .own .load)])
        [] [] := by
      refine alike_withProps fun x hx => ?_
      rw [List.mem_singleton.1 hx]
      exact ⟨by decide, .own (r := .load) trivial⟩
    exact .function (r := .route q.index) trivial
      (.cons (r := .dataPlane) trivial hplane (.cons (r := .load) trivial hload .nil))
      (alike_element_some (r := .routeView q.index) trivial hprops)
  have hview := hf.1
  unfold routeSections
  rw [← hi, ← hf.2.1]
  cases hq : q.route.view with
  | none =>
    obtain hq' : q'.route.view = none := by simpa [hq] using hview.symm
    rw [hq']
    exact .nil
  | some view =>
    obtain ⟨view', hq'⟩ := Option.isSome_iff_exists.1 (hview.symm.trans (by rw [hq]; rfl))
    rw [hq']
    have hlazy := alike_lazyDecl s s' (r := .routeView q.index) trivial view view'
    cases q.route.loader.isSome with
    | false => exact .singleton (.singleton hlazy)
    | true => exact .append (.singleton (.singleton hlazy)) (.singleton (.singleton hfunction))

lemma SameShape.alike_routesSections (h : s.SameShape s') :
    SectionsAlike s.routesSections s'.routesSections
      (((Route.preorderOfList s.component.routes).flatMap fun r => r.view.toList.map s.specifier)
        ++ (Route.preorderOfList s.component.routes).map Route.pattern)
      (((Route.preorderOfList s'.component.routes).flatMap fun r => r.view.toList.map s'.specifier)
        ++ (Route.preorderOfList s'.component.routes).map Route.pattern) := by
  have hsections : SectionsAlike (s.routes.flatMap s.routeSections)
      (s'.routes.flatMap s'.routeSections)
      ((Route.preorderOfList s.component.routes).flatMap fun r => r.view.toList.map s.specifier)
      ((Route.preorderOfList s'.component.routes).flatMap fun r =>
        r.view.toList.map s'.specifier) := by
    unfold SectionsAlike
    rw [← map_route s, ← map_route s', List.flatMap_map, List.flatMap_map, List.map_flatMap,
      List.map_flatMap]
    exact .flatMap (h.routes_forall₂.imp fun _ _ hq => alike_routeSections hq.1.1 hq.1.2)
  have hlist : Decl.Alike (.const .routes (.list (routeObjects 0 s.component.routes)))
      (.const .routes (.list (routeObjects 0 s'.component.routes))) _ _ :=
    .const (r := .routes) trivial (.list (alike_routeObjects 0 _ _ h.routes))
  unfold routesSections
  rw [← h.routes.isEmpty_eq]
  split
  · rename_i he
    have he' := h.routes.isEmpty_eq.symm.trans he
    rw [List.isEmpty_iff.1 he, List.isEmpty_iff.1 he']
    exact .nil
  · exact hsections.append (.singleton (.singleton hlist))

/-! ### Layers -/

namespace SameShape

lemma alike_hookLocals (h : s.SameShape s') :
    LocalsAlike s.hookLocals s'.hookLocals
      (optional (s.component.has .i18n) s.component.name)
      (optional (s'.component.has .i18n) s'.component.name) := by
  have hbindings : LocalsAlike
      (if s.bindings.isEmpty then [] else
        (.dataPlane, .call (.own .useDataPlane) []) :: s.bindings.map fun n =>
          (.binding n, .call (.own .useAsyncHandler) [.ident (.taken n), .own .dataPlane]))
      (if s.bindings.isEmpty then [] else
        (.dataPlane, .call (.own .useDataPlane) []) :: s.bindings.map fun n =>
          (.binding n, .call (.own .useAsyncHandler) [.ident (.taken n), .own .dataPlane]))
      [] [] := by
    have hplane : LocalsAlike [(.dataPlane, .call (.own .useDataPlane) [])]
        [(.dataPlane, .call (.own .useDataPlane) [])] [] [] :=
      .cons (r := .dataPlane) trivial (.call (r := .useDataPlane) trivial .nil) .nil
    split
    · exact .nil
    · refine hplane.append (.same fun l hl => ?_)
      obtain ⟨n, hn, rfl⟩ := List.mem_map.1 hl
      have hcode := isCode_of_mem_bindings hn
      exact ⟨hcode, .call (r := .useAsyncHandler) trivial
        (.cons (.taken hcode) (.cons_own (r := .dataPlane) trivial .nil))⟩
  have hmessages : LocalsAlike
      (optional (s.component.has .i18n) (.messages, .call (.own .useI18n)
        [.own .i18nDefaults, .text s.component.name, .own .localeFiles]))
      (optional (s.component.has .i18n) (.messages, .call (.own .useI18n)
        [.own .i18nDefaults, .text s'.component.name, .own .localeFiles]))
      (optional (s.component.has .i18n) s.component.name)
      (optional (s.component.has .i18n) s'.component.name) := by
    cases s.component.has .i18n with
    | false => exact .nil
    | true =>
      exact .cons (r := .messages) trivial (.call (r := .useI18n) trivial
        (.cons_own (r := .i18nDefaults) trivial (.cons (.text _ _)
          (.cons_own (r := .localeFiles) trivial .nil)))) .nil
  have hrouted : LocalsAlike
      (optional (!s.component.routes.isEmpty) (.routed, .call (.own .useRoutes) [.own .routes]))
      (optional (!s.component.routes.isEmpty) (.routed, .call (.own .useRoutes) [.own .routes]))
      [] [] := by
    refine .same fun l hl => ?_
    obtain ⟨-, rfl⟩ := mem_optional.1 hl
    exact ⟨trivial, .call (r := .useRoutes) trivial (.cons_own (r := .routes) trivial .nil)⟩
  rw [hookLocals, hookLocals, ← h.bindings, ← h.concerns .i18n, ← h.routes.isEmpty_eq]
  simpa using (hbindings.append hmessages).append hrouted

lemma viewProps_eq (h : s.SameShape s') : s.viewProps = s'.viewProps := by
  rw [viewProps, viewProps, h.bindings, h.concerns .i18n, h.routes.isEmpty_eq]

end SameShape

lemma plain_viewProps {x : String × Expr} (hx : x ∈ s.viewProps) :
    IsCode x.1 ∧ Expr.Alike x.2 x.2 [] [] := by
  simp only [viewProps, List.mem_append, List.mem_map, mem_optional] at hx
  obtain (⟨n, hn, rfl⟩ | ⟨-, rfl⟩) | ⟨-, rfl⟩ := hx
  · have hcode := isCode_of_mem_bindings hn
    exact ⟨hcode, .own (r := .binding n) hcode⟩
  · exact ⟨by decide, .own (r := .messages) trivial⟩
  · exact ⟨by decide, .own (r := .routed) trivial⟩

lemma SameShape.alike_hookFunction (h : s.SameShape s') {name : Role} (hn : name.Plain)
    {around around' : Expr → Expr}
    (ha : ∀ e, Expr.Alike e e [] [] → Expr.Alike (around e) (around' e) [] []) :
    Decl.Alike (s.hookFunction name around) (s'.hookFunction name around')
      (optional (s.component.has .i18n) s.component.name)
      (optional (s'.component.has .i18n) s'.component.name) := by
  have hview := alike_element_some (r := .view) trivial
    (alike_withProps fun x hx => plain_viewProps (s := s) hx)
  rw [hookFunction, hookFunction, ← h.viewProps_eq]
  simpa using Decl.Alike.function hn h.alike_hookLocals (ha _ hview)

lemma alike_skinFields (n : Nat) {ks ks' : List String} (h : ks.length = ks'.length) :
    Expr.FieldsAlike ((ks.zipIdx n).map fun x => (.text x.1, .own (.skin x.2)))
      ((ks'.zipIdx n).map fun x => (.text x.1, .own (.skin x.2))) ks ks' := by
  induction ks generalizing n ks' with
  | nil =>
    obtain rfl := List.eq_nil_of_length_eq_zero h.symm
    exact .nil
  | cons k ks ih =>
    obtain ⟨k', ks', rfl⟩ := List.exists_cons_of_length_eq_add_one h.symm
    exact .text k k' (.own (r := .skin n) trivial) (ih (n + 1) (Nat.succ.inj h))

namespace SameShape

lemma alike_themedDecl (h : s.SameShape s') {target : Role} (ht : target.Plain) :
    Decl.Alike (s.themedDecl target) (s'.themedDecl target) s.component.skins.keys
      s'.component.skins.keys := by
  have hlen : s.component.skins.keys.length = s'.component.skins.keys.length := by
    simpa [Dict.keys] using h.skins
  have hargs := Expr.AllAlike.cons_own ht (.singleton (.object (alike_skinFields 0 hlen)))
  exact .const (r := .themed) trivial (.call (r := .skinned) trivial hargs)

lemma exported_eq (h : s.SameShape s') : s'.exported = s.exported :=
  congrArg Role.component h.displayName.symm

lemma keys_eq_nil (h : s.SameShape s') (hs : s.component.skins.isEmpty = true) :
    s.component.skins.keys = [] ∧ s'.component.skins.keys = [] := by
  have hs' := h.isEmpty_skins.symm.trans hs
  rw [Dict.isEmpty, List.isEmpty_iff] at hs hs'
  exact ⟨congrArg (List.map Prod.fst) hs, congrArg (List.map Prod.fst) hs'⟩

lemma alike_coreSection (h : s.SameShape s') :
    SectionsAlike (optional s.plan.hookCore [s.hookFunction .core id])
      (optional s.plan.hookCore [s'.hookFunction .core id])
      (optional (s.component.has .i18n) s.component.name)
      (optional (s'.component.has .i18n) s'.component.name) := by
  have hcore : Decl.Alike (s.hookFunction .core id) (s'.hookFunction .core id) _ _ :=
    h.alike_hookFunction (show Role.core.Plain from trivial) fun _ he => he
  cases hc : s.plan.hookCore with
  | true => exact .singleton (.singleton hcore)
  | false =>
    have hi18n : s.component.has .i18n = false := by
      have hnot := mt hookCore_iff.2 (Bool.not_eq_true _ ▸ hc)
      simp only [Hooked, not_or, Bool.not_eq_true] at hnot
      exact hnot.2.1
    rw [← h.concerns .i18n, hi18n]
    exact .nil

lemma alike_themedSection (h : s.SameShape s') {target : Role} (ht : target.Plain) :
    SectionsAlike (optional s.plan.themed [s.themedDecl target])
      (optional s.plan.themed [s'.themedDecl target]) s.component.skins.keys
      s'.component.skins.keys := by
  cases hc : s.plan.themed with
  | true => exact .singleton (.singleton (h.alike_themedDecl ht))
  | false =>
    have hempty : s.component.skins.isEmpty = true := by
      simpa [hc] using (themed_iff (s := s)).not
    obtain ⟨hkeys, hkeys'⟩ := h.keys_eq_nil hempty
    rw [hkeys, hkeys']
    exact .nil

lemma alike_layerSections (h : s.SameShape s') :
    SectionsAlike s.layerSections s'.layerSections
      (optional (s.component.has .i18n) s.component.name ++ s.component.skins.keys)
      (optional (s'.component.has .i18n) s'.component.name ++ s'.component.skins.keys) := by
  have hbounded : ∀ e, Expr.Alike e e [] [] → Expr.Alike (s.bounded e) (s'.bounded e) [] [] :=
    fun _ he => h.alike_bounded he
  rw [layerSections, layerSections, ← h.plan_eq, h.exported_eq]
  cases hsplit : s.plan.split with
  | true =>
    have hinner : (if s.plan.hookCore then Role.core else .view).Plain := by
      split <;> trivial
    have hshown : (if s.plan.themed then Role.themed else .core).Plain := by
      split <;> trivial
    have houter := Decl.Alike.function s.plain_exported LocalsAlike.nil
      (hbounded _ (alike_element_some hshown (.own (r := .props) trivial)))
    simpa using (h.alike_coreSection.append (h.alike_themedSection hinner)).append
      (.singleton (.singleton houter))
  | false =>
    have hskins := (not_apart_iff.1 (split_eq_false_iff.1 hsplit)).1
    obtain ⟨hkeys, hkeys'⟩ := h.keys_eq_nil hskins
    rw [hkeys, hkeys', List.append_nil, List.append_nil]
    exact .singleton (.singleton (h.alike_hookFunction s.plain_exported hbounded))

lemma alike_sections (h : s.SameShape s') :
    SectionsAlike s.sections s'.sections (s.declaredTexts ++ s.shownTexts)
      (s'.declaredTexts ++ s'.shownTexts) := by
  have hlast : DeclsAlike
      [.displayName s.exported s.component.displayName, .exportDefault s.exported]
      [.displayName s.exported s'.component.displayName, .exportDefault s.exported]
      [s.component.displayName] [s'.component.displayName] :=
    .cons (.displayName s.plain_exported _ _) (.singleton (.exportDefault s.plain_exported))
  have hall := (((SectionsAlike.singleton h.alike_viewSection).append
    h.alike_routesSections).append h.alike_layerSections).append (.singleton hlast)
  rw [sections, sections, h.exported_eq]
  simpa only [declaredTexts, shownTexts, List.cons_append, List.nil_append, List.append_assoc]
    using hall

end SameShape

/-- **Text from outside never leaves its quotes**: sources of one shape give one code, and the
literals in it hold the texts of each source, as they are and in order. -/
theorem text_stays_quoted (h : s.SameShape s') (p : HygienePrefix) : ∃ code,
    cut (s.module.text p).toList = some (code, s.quotedTexts) ∧
      cut (s'.module.text p).toList = some (code, s'.quotedTexts) := by
  have hmodule := alike_module p s.module s'.module h.alike_imports h.alike_sections
  simpa only [Module.text, quotedTexts, List.append_assoc] using hmodule.exists_cut p

/-- A source that holds a text wherever a wrapper quotes one. -/
def holding (t : String) : Source where
  component := {
    name := t ++ "feed" ++ t
    directory := ⟨t⟩
    view := ⟨t ++ "/index.tsx"⟩
    concerns := ⟨some ⟨t⟩, none, some ⟨t⟩, some ⟨t ++ "/i18n/en.json"⟩⟩
    skins := Dict.empty.insert t ⟨t ++ ".tsx"⟩
    routes := [⟨t, t, ⟨t⟩, some ⟨t⟩, some ⟨t⟩, none, [⟨t, t, ⟨t⟩, none, none, some ⟨t⟩, []⟩]⟩] }
  root := ⟨t⟩
  options := ⟨t, t, t, true⟩
  exportsOf _ := ["load"]

/-- A text that ends a literal and begins a statement stays in quotes like a blank. -/
theorem text_stays_quoted_of_holding :
    (holding " ").SameShape (holding "\";\n\\\u2028//") ∧ ∃ code,
      cut ((holding " ").module.text (.numbered 0)).toList =
        some (code, (holding " ").quotedTexts) ∧
      cut ((holding "\";\n\\\u2028//").module.text (.numbered 0)).toList =
        some (code, (holding "\";\n\\\u2028//").quotedTexts) := by
  have hidentifiers : ∀ q ∈ (holding " ").routes, ∀ name, q.loaderExport = some name →
      IsIdentifier name := by
    intro q hq
    simp only [holding, routes, Route.preorderOfList, Route.preorder, List.append_nil,
      List.zipIdx_cons, List.zipIdx_nil, List.map_cons, List.map_nil, List.mem_cons,
      List.not_mem_nil, or_false] at hq
    rcases hq with rfl | rfl
    · rintro name ⟨⟩
      exact ⟨'l', ['o', 'a', 'd'], rfl, by decide, by decide⟩
    · rintro name ⟨⟩
  have hshape : (holding " ").SameShape (holding "\";\n\\\u2028//") :=
    { concerns := fun k => by cases k <;> rfl
      skins := rfl
      routes := ⟨⟨rfl, rfl, rfl, ⟨rfl, rfl, rfl, trivial⟩, trivial⟩, trivial⟩
      displayName := rfl
      bindings := rfl
      loaderExports := rfl
      identifiers := hidentifiers
      globs := rfl }
  exact ⟨hshape, text_stays_quoted hshape _⟩

end Source

end Wrapper

end ViewLayers
