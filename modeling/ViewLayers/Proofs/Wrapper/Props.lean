import Mathlib.Data.List.Nodup
import ViewLayers.Proofs.Wrapper.Bindings
import ViewLayers.Proofs.Wrapper.Objects

/-!
What the view is given. The function that runs the hooks hands their results to the view, over the
props that it was given itself. Exports go by their own names there, and so does what localization
and routes add; an export of such a name is not seen by the view.
-/

namespace ViewLayers.Wrapper

/-! ### Props over props -/

lemma fields_withProps {fields : List (String × Expr)} (h : fields ≠ []) :
    (Source.withProps fields).fields =
      (.spread, .own .props) :: fields.map fun f => (.name f.1, f.2) := by
  rw [Source.withProps, if_neg (by simpa using h)]
  rfl

lemma keys_withProps (fields : List (String × Expr)) :
    (Source.withProps fields).keys = fields.map Prod.fst := by
  by_cases h : fields = []
  · subst h
    rfl
  · rw [Expr.keys, fields_withProps h, List.filterMap_cons_none rfl, List.filterMap_map]
    exact congrFun (List.filterMap_eq_map (f := Prod.fst)) fields

lemma prop?_withProps (fields : List (String × Expr)) (key : String) :
    (Source.withProps fields).prop? key = if key = "__proto__" then none
      else ((fields.filter fun f => f.1 = key).getLast?).map Prod.snd := by
  by_cases h : fields = []
  · subst h
    simp [Source.withProps, Expr.prop?, Expr.fields, Expr.own]
  · have hfilter : ((Source.withProps fields).fields.filter fun f => f.1.name? = some key) =
        (fields.filter fun f => f.1 = key).map fun f => (.name f.1, f.2) := by
      rw [fields_withProps h, List.filter_cons_of_neg (by simp [Key.name?]), List.filter_map]
      simp [Function.comp_def, Key.name?]
    rw [Expr.prop?, hfilter, List.getLast?_map, Option.map_map]
    rfl

namespace Source

variable {s : Source}

lemma getLast?_filter_bindings (names : List String) (key : String) :
    ((names.map fun n => (n, Expr.own (.binding n))).filter fun f => f.1 = key).getLast? =
      if key ∈ names then some (key, .own (.binding key)) else none := by
  induction names with
  | nil => rfl
  | cons n names ih =>
    rw [List.map_cons, List.filter_cons]
    by_cases h : n = key
    · subst h
      simp [List.getLast?_cons, ih]
      split <;> rfl
    · have hkey : key ∈ n :: names ↔ key ∈ names := by simp [Ne.symm h]
      simp only [h, hkey, decide_false, Bool.false_eq_true, if_false, ih]

/-- Whether messages or routes go by a name among the props of the view. -/
def Overwritten (s : Source) (name : String) : Prop :=
  name = "i18n" ∧ s.component.has .i18n = true ∨ name = "routes" ∧ s.component.routes ≠ []

lemma viewProps_eq_nil_iff : s.viewProps = [] ↔ ¬ s.Hooked := by
  simp [viewProps, Hooked, optional]

lemma keys_viewProps (s : Source) : s.viewProps.map Prod.fst =
    s.bindings ++ optional (s.component.has .i18n) "i18n"
      ++ optional (!s.component.routes.isEmpty) "routes" := by
  simp [viewProps, Function.comp_def]

lemma nodup_keys_viewProps_iff : (s.viewProps.map Prod.fst).Nodup ↔
    s.bindings.Nodup ∧ ∀ n ∈ s.bindings, ¬ s.Overwritten n := by
  rw [keys_viewProps, List.append_assoc, List.nodup_append]
  have hown : (optional (s.component.has .i18n) "i18n"
      ++ optional (!s.component.routes.isEmpty) "routes").Nodup := by
    cases s.component.has .i18n <;> cases s.component.routes.isEmpty <;> decide
  have hmem : ∀ n, n ∈ optional (s.component.has .i18n) "i18n"
      ++ optional (!s.component.routes.isEmpty) "routes" ↔ s.Overwritten n := by
    intro n
    simp [Overwritten, and_comm]
  simp only [hown, true_and, hmem]
  refine and_congr_right fun _ => ⟨fun h n hn ho => h n hn n ho rfl, ?_⟩
  rintro h n hn _ ho rfl
  exact h n hn ho

lemma prop?_viewProps (s : Source) (key : String) : (withProps s.viewProps).prop? key =
    if key = "__proto__" then none
    else if key = "routes" ∧ s.component.routes ≠ [] then some (.own .routed)
    else if key = "i18n" ∧ s.component.has .i18n = true then some (.own .messages)
    else if key ∈ s.bindings then some (.own (.binding key))
    else none := by
  have hoptional : ∀ (b : Bool) (k : String) (e : Expr),
      ((optional b (k, e)).filter fun f => f.1 = key).getLast? =
        if key = k ∧ b = true then some (k, e) else none := by
    intro b k e
    by_cases h : key = k <;> cases b <;> simp [optional, h, Ne.symm]
  rw [prop?_withProps, viewProps, List.filter_append, List.filter_append, List.getLast?_append,
    List.getLast?_append, hoptional, hoptional, getLast?_filter_bindings]
  have hroutes : (!s.component.routes.isEmpty) = true ↔ s.component.routes ≠ [] := by simp
  simp only [hroutes]
  -- from the end of the literal to its start
  by_cases hr : key = "routes" ∧ s.component.routes ≠ []
  · simp only [if_pos hr, Option.some_or, Option.map_some]
  · by_cases hi : key = "i18n" ∧ s.component.has .i18n = true
    · simp only [if_neg hr, if_pos hi, Option.none_or, Option.some_or, Option.map_some]
    · simp only [if_neg hr, if_neg hi, Option.none_or]
      by_cases hb : key ∈ s.bindings <;> simp [hb]

lemma prop?_viewProps_eq_binding_iff {n : String} (hn : n ∈ s.bindings) :
    (withProps s.viewProps).prop? n = some (.own (.binding n)) ↔
      ¬ s.Overwritten n ∧ n ≠ "__proto__" := by
  rw [prop?_viewProps]
  by_cases hp : n = "__proto__"
  · rw [if_pos hp]
    exact iff_of_false nofun fun h => h.2 hp
  · rw [if_neg hp]
    by_cases hr : n = "routes" ∧ s.component.routes ≠ []
    · rw [if_pos hr]
      exact iff_of_false (by simp [Expr.own]) fun h => h.1 (.inr hr)
    · rw [if_neg hr]
      by_cases hi : n = "i18n" ∧ s.component.has .i18n = true
      · rw [if_pos hi]
        exact iff_of_false (by simp [Expr.own]) fun h => h.1 (.inl hi)
      · rw [if_neg hi, if_pos hn]
        exact iff_of_true rfl ⟨fun h => h.elim hi hr, hp⟩

/-! ### The function that runs the hooks -/

structure Gives (s : Source) (locals : List (Role × Expr)) (props : Expr) : Prop where
  /-- An object, if there is something to give: the incoming props, and over them the exports by
  their names, the messages and the routes; -/
  literal : s.Hooked → props = .object ((.spread, .own .props)
    :: (s.bindings.map fun n => (.name n, .own (.binding n)))
      ++ optional (s.component.has .i18n) (.name "i18n", .own .messages)
      ++ optional (!s.component.routes.isEmpty) (.name "routes", .own .routed))
  /-- and else the incoming props as they are. -/
  plain : ¬ s.Hooked → props = .own .props
  /-- The hooks have made them. -/
  bindings : ∀ n ∈ s.bindings,
    (.binding n, .call (.own .useAsyncHandler) [.ident (.taken n), .own .dataPlane]) ∈ locals
  messages : s.component.has .i18n = true → (.messages, .call (.own .useI18n)
    [.own .i18nDefaults, .text s.component.name, .own .localeFiles]) ∈ locals
  routed : s.component.routes ≠ [] → (.routed, .call (.own .useRoutes) [.own .routes]) ∈ locals
  /-- Keys differ if exports do, and none is overwritten. -/
  distinct : props.keys.Nodup ↔ s.bindings.Nodup ∧ ∀ n ∈ s.bindings, ¬ s.Overwritten n
  /-- An export reaches the view under its name if it is not, and its name makes a property. -/
  reaches : ∀ n ∈ s.bindings, props.prop? n = some (.own (.binding n)) ↔
    ¬ s.Overwritten n ∧ n ≠ "__proto__"
  /-- Messages and routes always do. -/
  reachesOwn : (s.component.has .i18n = true → props.prop? "i18n" = some (.own .messages)) ∧
    (s.component.routes ≠ [] → props.prop? "routes" = some (.own .routed))

lemma gives_viewProps (s : Source) : s.Gives s.hookLocals (withProps s.viewProps) where
  literal h := by
    have hne : s.viewProps ≠ [] := fun hnil => viewProps_eq_nil_iff.1 hnil h
    rw [withProps, if_neg (by simpa using hne), viewProps]
    simp [Function.comp_def]
  plain h := by rw [viewProps_eq_nil_iff.2 h]; rfl
  bindings n hn := mem_hookLocals_iff.2 (.inr (.inl ⟨n, hn, rfl⟩))
  messages h := mem_hookLocals_iff.2 (.inr (.inr (.inl ⟨h, rfl⟩)))
  routed h := mem_hookLocals_iff.2 (.inr (.inr (.inr ⟨h, rfl⟩)))
  distinct := by rw [keys_withProps, nodup_keys_viewProps_iff]
  reaches n := prop?_viewProps_eq_binding_iff
  reachesOwn := by
    refine ⟨fun h => ?_, fun h => ?_⟩
    · rw [prop?_viewProps, if_neg (by decide), if_neg (by simp), if_pos ⟨rfl, h⟩]
    · rw [prop?_viewProps, if_neg (by decide), if_pos ⟨rfl, h⟩]

/-- **An export reaches the view unless its name is taken**, by messages or routes that the view is
given as well, or by what objects inherit from. -/
theorem gives_props (s : Source) :
    (s.Hooked → ∃ d ∈ s.module.decls, .own s.hooking ∈ d.binds) ∧
    ∀ d ∈ s.module.decls, .own s.hooking ∈ d.binds → ∃ locals result props,
      d = .function s.hooking locals result ∧
      result.innermost = .call (.own .createElement) [.own .view, props] ∧
      s.Gives locals props := by
  refine ⟨exists_hooking_of_hooked, fun d hd hb => ?_⟩
  refine ⟨_, _, _, hookFunction_of_binds hd hb, ?_, gives_viewProps s⟩
  rw [innermost_around]
  rfl

/-- A component with a route and an export of that name. -/
def mapped : Source where
  component := ⟨"feed", ⟨"c/feed"⟩, ⟨"c/feed/index.tsx"⟩,
    Concerns.none.set .async ⟨"c/feed/async.ts"⟩, ∅, [Route.bare "home" ⟨"c/feed/[routes]/[home]"⟩]⟩
  root := ⟨""⟩
  options := {}
  exportsOf _ := ["routes", "save"]

/-- Its key is there twice, and the export is lost. -/
theorem gives_props_mapped : ∃ locals result props,
    .function mapped.exported locals result ∈ mapped.module.decls ∧
    result.innermost = .call (.own .createElement) [.own .view, props] ∧
    mapped.Gives locals props ∧ props.keys = ["routes", "save", "routes"] ∧
    props.prop? "routes" = some (.own .routed) := by
  have hroutes : mapped.component.routes ≠ [] := by simp [mapped]
  have hhooked : mapped.Hooked := .inr (.inr hroutes)
  have hbindings : mapped.bindings = ["routes", "save"] := by decide
  obtain ⟨d, hd, hb⟩ := (gives_props mapped).1 hhooked
  obtain ⟨locals, result, props, rfl, hinner, hgives⟩ := (gives_props mapped).2 d hd hb
  refine ⟨locals, result, props, hd, hinner, hgives, ?_, hgives.reachesOwn.2 hroutes⟩
  rw [hgives.literal hhooked, hbindings]
  rfl

end Source

end ViewLayers.Wrapper
