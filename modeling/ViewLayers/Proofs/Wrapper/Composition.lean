import Mathlib.Data.List.Basic
import ViewLayers.Proofs.Wrapper.Declarations
import ViewLayers.Wrapper.Printer

/-!
How a wrapper composes its layers. The exported function returns one nest of boundaries, and inside
it the theme, the function that runs the hooks, or the view; what is inside is there, and the hooks
run where the view is rendered.
-/

namespace ViewLayers.Wrapper

/-! ### Nests -/

namespace Expr

/-- The boundaries of a nest with their fallbacks, from the outside in. -/
def layers : Expr → List (Role × Expr)
  | boundary component fallback inner => (component, fallback) :: inner.layers
  | _ => []

/-- What stands inside all boundaries of a nest. -/
def innermost : Expr → Expr
  | boundary _ _ inner => inner.innermost
  | e => e

/-- The text that opens boundaries, each on a line of its own inside the one before. -/
def openings (level : Nat) : List (Role × Expr) → Pieces
  | [] => []
  | (component, fallback) :: rest =>
    Role.createElement.pieces ++ .fixed "(" :: component.pieces
      ++ .fixed ", \x7b fallback: " :: fallback.pieces level
      ++ .fixed (" \x7d,\n" ++ indent (level + 1)) :: openings (level + 1) rest

/-- The text of a nest is balanced: what opens its boundaries, what stands inside them, and a
parenthesis for each of them. -/
theorem pieces_eq_nest (level : Nat) (e : Expr) :
    e.pieces level = openings level e.layers
      ++ (e.innermost.pieces (level + e.layers.length)
        ++ List.replicate e.layers.length (.fixed ")")) := by
  induction e using layers.induct generalizing level with
  | case1 component fallback inner ih =>
    have hlevel : level + 1 + inner.layers.length = level + (inner.layers.length + 1) := by omega
    rw [pieces, ih, layers, innermost, openings, List.length_cons, List.replicate_succ', hlevel]
    simp only [List.append_assoc, List.cons_append]
  | case2 e h =>
    have hl : e.layers = [] := by cases e <;> simp_all [layers]
    have hi : e.innermost = e := by cases e <;> simp_all [innermost]
    simp [hl, hi, openings]

end Expr

namespace Source

variable {s : Source}

/-- The boundaries that the concerns and the skins of a component ask for. -/
def boundaries (s : Source) : List (Role × Expr) :=
  optional (s.component.has .error) (.errorBoundary, .own .errorFallback)
    ++ optional (s.component.has .placeholder || s.component.has .i18n
        || !s.component.skins.isEmpty)
      (.suspense, if s.component.has .placeholder then element .placeholder none else .null)

lemma layers_bounded {e : Expr} (h : e.layers = []) : (s.bounded e).layers = s.boundaries := by
  have hsuspense : s.plan.suspense = (s.component.has .placeholder || s.component.has .i18n
    || !s.component.skins.isEmpty) := rfl
  have herror : s.plan.errorBoundary = s.component.has .error := rfl
  rw [bounded, boundaries, hsuspense, herror]
  split <;> split <;> simp_all [Expr.layers, optional]

lemma innermost_bounded (e : Expr) : (s.bounded e).innermost = e.innermost := by
  unfold bounded
  cases s.plan.suspense <;> cases s.plan.errorBoundary <;> rfl

/-! ### The layers in their places -/

/-- Whether a component has something for hooks to do. -/
def Hooked (s : Source) : Prop :=
  s.bindings ≠ [] ∨ s.component.has .i18n = true ∨ s.component.routes ≠ []

/-- Whether boundaries and hooks stand apart. -/
def Apart (s : Source) : Prop :=
  s.component.has .i18n = true ∨ s.component.skins.isEmpty = false

instance (s : Source) : Decidable s.Hooked := inferInstanceAs (Decidable (_ ∨ _ ∨ _))

instance (s : Source) : Decidable s.Apart := inferInstanceAs (Decidable (_ ∨ _))

lemma hookCore_iff : s.plan.hookCore = true ↔ s.Hooked := by
  simp [plan, Component.plan, Hooked, List.length_pos_iff, or_assoc]

lemma split_iff : s.plan.split = true ↔ s.Apart := by
  simp [plan, Component.plan, Apart]

lemma themed_iff : s.plan.themed = true ↔ s.component.skins.isEmpty = false := by
  simp [plan, Component.plan]

/-- What stands inside the boundaries: the theme, the function that runs the hooks, or the view. -/
def inside (s : Source) : Expr :=
  if s.component.skins.isEmpty = false then element .themed (some (.own .props))
  else if s.component.has .i18n then element .core (some (.own .props))
  else s.rendered

/-- The function that renders the view, if one does. -/
def hooking (s : Source) : Role := if s.Apart then .core else s.exported

structure Composed (s : Source) (ds : List Decl) : Prop where
  /-- The exported function returns a nest, whose text is balanced. -/
  exported : ∃ locals result, .function s.exported locals result ∈ ds ∧
    (∀ d ∈ ds, .own s.exported ∈ d.binds → d = .function s.exported locals result) ∧
    result.layers = s.boundaries ∧ result.innermost = s.inside ∧
    ∀ level, result.pieces level = Expr.openings level s.boundaries
      ++ (s.inside.pieces (level + s.boundaries.length)
        ++ List.replicate s.boundaries.length (.fixed ")"))
  exportDefault : ∀ r, .exportDefault r ∈ ds ↔ r = s.exported
  /-- The theme is there for skins, and put on the function that runs the hooks, if there is one. -/
  themed : ∀ d, d ∈ ds ∧ .own .themed ∈ d.binds ↔
    s.component.skins.isEmpty = false ∧ d = s.themedDecl (if s.Hooked then .core else .view)
  /-- A function for the hooks alone has no boundaries. -/
  core : ∀ d, d ∈ ds ∧ .own .core ∈ d.binds ↔
    s.Apart ∧ s.Hooked ∧ d = .function .core s.hookLocals s.rendered
  /-- The hooks run where the view is rendered. -/
  hooks : ∀ d ∈ ds, ∀ h ∈ [Role.useAsyncHandler, .useI18n, .useRoutes], .own h ∈ d.mentions →
    ∃ result, d = .function s.hooking s.hookLocals result ∧ result.innermost = s.rendered
  /-- The view is rendered in one place. -/
  view : ∀ name locals result, .function name locals result ∈ ds →
    .own .view ∈ result.mentions true → name = s.hooking

/-! ### Where they are found -/

lemma not_apart_iff : ¬ s.Apart ↔ s.component.skins.isEmpty = true ∧
    s.component.has .i18n = false := by
  simp [Apart, and_comm]

lemma split_eq_false_iff : s.plan.split = false ↔ ¬ s.Apart := by
  rw [← split_iff, Bool.not_eq_true]

lemma inside_of_apart (h : s.Apart) :
    s.inside = element (if s.plan.themed then .themed else .core) (some (.own .props)) := by
  by_cases ht : s.component.skins.isEmpty = false
  · rw [inside, if_pos ht, if_pos (themed_iff.2 ht)]
  · rw [inside, if_neg ht, if_neg (mt themed_iff.1 ht), if_pos (h.resolve_right ht)]

lemma inside_of_not_apart (h : ¬ s.Apart) : s.inside = s.rendered := by
  obtain ⟨hskins, hi18n⟩ := not_apart_iff.1 h
  simp [inside, hskins, hi18n]

lemma exists_exported (s : Source) : ∃ locals,
    .function s.exported locals (s.bounded s.inside) ∈ s.module.decls ∧
    ∀ d ∈ s.module.decls, .own s.exported ∈ d.binds →
      d = .function s.exported locals (s.bounded s.inside) := by
  by_cases ha : s.Apart
  · refine ⟨[], ?_, fun d hd hb => ?_⟩
    · rw [inside_of_apart ha]
      exact mem_decls_iff.2 (.outer (split_iff.2 ha))
    · rw [inside_of_apart ha]
      cases mem_decls_iff.1 hd with
      | outer => rfl
      | whole h => exact absurd ha (split_eq_false_iff.1 h)
      | _ => simp [Decl.binds, lazyDecl, routeFunction, hookFunction, themedDecl, exported] at hb
  · refine ⟨s.hookLocals, ?_, fun d hd hb => ?_⟩
    · rw [inside_of_not_apart ha]
      exact mem_decls_iff.2 (.whole (split_eq_false_iff.2 ha))
    · rw [inside_of_not_apart ha]
      cases mem_decls_iff.1 hd with
      | whole => rfl
      | outer h => exact absurd (split_iff.1 h) ha
      | _ => simp [Decl.binds, lazyDecl, routeFunction, hookFunction, themedDecl, exported] at hb

lemma core_mem_iff (d : Decl) : d ∈ s.module.decls ∧ .own .core ∈ d.binds ↔
    s.Apart ∧ s.Hooked ∧ d = .function .core s.hookLocals s.rendered := by
  constructor
  · rintro ⟨hd, hb⟩
    cases mem_decls_iff.1 hd with
    | core h hc => exact ⟨split_iff.1 h, hookCore_iff.1 hc, rfl⟩
    | _ => simp [Decl.binds, lazyDecl, routeFunction, hookFunction, themedDecl, outerFunction,
        exported] at hb
  · rintro ⟨ha, hh, rfl⟩
    exact ⟨mem_decls_iff.2 (.core (split_iff.2 ha) (hookCore_iff.2 hh)), List.mem_singleton_self _⟩

lemma themed_mem_iff (d : Decl) : d ∈ s.module.decls ∧ .own .themed ∈ d.binds ↔
    s.component.skins.isEmpty = false ∧ d = s.themedDecl (if s.Hooked then .core else .view) := by
  have hinner : s.inner = if s.Hooked then .core else .view := by
    simp only [inner, hookCore_iff]
  rw [← hinner]
  constructor
  · rintro ⟨hd, hb⟩
    cases mem_decls_iff.1 hd with
    | themed h ht => exact ⟨themed_iff.1 ht, rfl⟩
    | _ => simp [Decl.binds, lazyDecl, routeFunction, hookFunction, outerFunction, exported] at hb
  · rintro ⟨ht, rfl⟩
    exact ⟨mem_decls_iff.2 (.themed (split_iff.2 (.inr ht)) (themed_iff.2 ht)),
      List.mem_singleton_self _⟩

/-! ### Where hooks run -/

lemma routeObjects_mentions {r : Role}
    (hr : r ∈ [Role.useAsyncHandler, .useI18n, .useRoutes, .view]) :
    .own r ∉ (routeObjects 0 s.component.routes).flatMap (Expr.mentions true) := by
  intro hm
  rcases mem_mentions_routeObjects s.component.routes hm with h | ⟨p, -, role, hrole, h⟩
  · obtain rfl : r = .createElement := by simpa using h
    simp at hr
  · obtain rfl : r = role := by simpa using h
    rcases List.mem_append.1 hrole with h | h
    · obtain ⟨-, rfl⟩ := mem_optional.1 h
      simp at hr
    · obtain ⟨-, rfl⟩ := mem_optional.1 h
      split at hr <;> simp at hr

lemma outerFunction_mentions {r : Role}
    (hr : r ∈ [Role.useAsyncHandler, .useI18n, .useRoutes, .view]) :
    .own r ∉ s.outerFunction.mentions := by
  intro hm
  have hm' : .own r ∈ (s.bounded (element (if s.plan.themed then .themed else .core)
      (some (.own .props)))).mentions true := by
    simpa [outerFunction, Decl.mentions] using hm
  simp only [List.mem_cons, List.not_mem_nil, or_false] at hr
  rcases mem_mentions_bounded_iff.1 hm' with h | ⟨-, h | h | ⟨-, h⟩⟩ | ⟨-, h | h | h⟩
  · rw [mentions_element] at h
    split at h <;> rcases hr with rfl | rfl | rfl | rfl <;> simp at h
  all_goals rcases hr with rfl | rfl | rfl | rfl <;> simp at h

/-- What mentions a hook is the function that runs them. The view is mentioned besides by the theme
that is put on it. -/
lemma hookFunction_of_mentions {d : Decl} (hd : d ∈ s.module.decls) {r : Role}
    (hr : r ∈ [Role.useAsyncHandler, .useI18n, .useRoutes, .view]) (hm : .own r ∈ d.mentions) :
    (∃ result, d = .function s.hooking s.hookLocals result ∧ result.innermost = s.rendered) ∨
      r = .view ∧ d = s.themedDecl .view := by
  have hr' : r = .useAsyncHandler ∨ r = .useI18n ∨ r = .useRoutes ∨ r = .view := by
    simpa using hr
  cases mem_decls_iff.1 hd with
  | whole h =>
    refine .inl ⟨s.bounded s.rendered, ?_, innermost_bounded s.rendered⟩
    rw [hooking, if_neg (split_eq_false_iff.1 h)]
    rfl
  | core h hc =>
    refine .inl ⟨s.rendered, ?_, rfl⟩
    rw [hooking, if_pos (split_iff.1 h)]
    rfl
  | themed h ht =>
    rw [mentions_themed] at hm
    unfold inner at hm ⊢
    split at hm <;> rcases hr' with rfl | rfl | rfl | rfl <;> simp_all
  | routes h => exact absurd (by simpa [Decl.mentions] using hm) (routeObjects_mentions hr)
  | outer h => exact absurd hm (outerFunction_mentions hr)
  | _ => rcases hr' with rfl | rfl | rfl | rfl <;>
      simp [Decl.mentions, lazyDecl, routeFunction, mentions_element, withProps,
        mentions_localeFiles, exported] at hm

lemma view_mem {name : Role} {locals : List (Role × Expr)} {result : Expr}
    (hd : .function name locals result ∈ s.module.decls)
    (hm : .own .view ∈ result.mentions true) : name = s.hooking := by
  rcases hookFunction_of_mentions hd (r := .view) (by simp) (List.mem_append_right _ hm) with
    ⟨_, h, -⟩ | ⟨-, h⟩
  · injection h
  · simp [themedDecl] at h

/-- **A wrapper composes its layers in a fixed order.** -/
theorem composed_module (s : Source) : Composed s s.module.decls where
  exported := by
    obtain ⟨locals, hmem, huniq⟩ := exists_exported s
    have hlayers : (s.bounded s.inside).layers = s.boundaries := by
      refine layers_bounded ?_
      unfold inside
      split
      · rfl
      · split <;> rfl
    have hinner : (s.bounded s.inside).innermost = s.inside := by
      rw [innermost_bounded]
      unfold inside
      split
      · rfl
      · split <;> rfl
    refine ⟨locals, s.bounded s.inside, hmem, huniq, hlayers, hinner, fun level => ?_⟩
    rw [Expr.pieces_eq_nest, hlayers, hinner]
  exportDefault r := by
    constructor
    · intro hr
      obtain ⟨d, hd⟩ : ∃ d, d = Decl.exportDefault r := ⟨_, rfl⟩
      rw [← hd] at hr
      cases mem_decls_iff.1 hr with
      | exportDefault => injection hd with h; exact h.symm
      | _ => simp [lazyDecl, routeFunction, hookFunction, themedDecl, outerFunction] at hd
    · rintro rfl
      exact mem_decls_iff.2 .exportDefault
  themed := themed_mem_iff
  core := core_mem_iff
  hooks d hd h hh hm := by
    rcases hookFunction_of_mentions hd (List.mem_append_left [Role.view] hh) hm with
      hf | ⟨rfl, -⟩
    · exact hf
    · simp at hh
  view _ _ _ hd hm := view_mem hd hm

end Source

end ViewLayers.Wrapper
