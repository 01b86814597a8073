import Mathlib.Data.List.Nodup
import ViewLayers.Proofs.Wrapper.Composition
import ViewLayers.Proofs.Wrapper.Distinct

/-!
What becomes of the exports of the async file. Each is imported, bound by a constant, and handed to
the view as often as the file lists it. So a wrapper is a module that redeclares no name only where
no name is listed twice, as the overloads of a function are.
-/

namespace ViewLayers.Wrapper

/-! ### Where exports occur -/

def Ident.taken? : Ident → Option String
  | .taken n => some n
  | .own _ => none

/-- The export that a constant is named for. -/
def Role.export? : Role → Option String
  | .binding n => some n
  | _ => none

/-- The export that is handed to the hook for async handlers. -/
def Expr.handled? : Expr → Option String
  | .call (.own .useAsyncHandler) (.ident (.taken n) :: _) => some n
  | _ => none

/-- The key of a prop with a binding in it, and the export that it is for. -/
def boundProp? : Key × Expr → Option (String × String)
  | (.name k, .ident (.own (.binding n))) => some (k, n)
  | _ => none

/-- The props with bindings in them that an element is given. -/
def Expr.boundProps : Expr → List (String × String)
  | .call _ [_, .object fields] => fields.filterMap boundProp?
  | _ => []

namespace Decl

def locals : Decl → List (Role × Expr)
  | .function _ locals _ => locals
  | _ => []

/-- The parameter and the constants of a function, which share a scope. -/
def localRoles : Decl → List Role
  | .function _ locals _ => .props :: locals.map Prod.fst
  | _ => []

def boundProps : Decl → List (String × String)
  | .function _ _ result => result.innermost.boundProps
  | _ => []

end Decl

/-- A module with an import, a constant, a call and a prop for each of a list of exports, in the
order of the list. -/
structure Module.Binds (m : Module) (names : List String) : Prop where
  imports : m.imported.filterMap Ident.taken? = names
  constants : (m.decls.flatMap Decl.locals).filterMap (fun l => l.1.export?) = names
  handled : (m.decls.flatMap Decl.locals).filterMap (fun l => l.2.handled?) = names
  calls : (m.decls.flatMap Decl.mentions).count (.own .useAsyncHandler) = names.length
  props : m.decls.flatMap Decl.boundProps = names.map fun n => (n, n)

structure Module.Distinct (p : HygienePrefix) (m : Module) : Prop where
  top : (m.bound.map (Ident.name p)).Nodup
  inside : ∀ d ∈ m.decls, (d.localRoles.map fun r => p.ident r.suffix).Nodup

/-! ### Repeated names -/

lemma nodup_eraseDups (n : Nat) : ∀ names : List String, names.length ≤ n →
    names.eraseDups.Nodup := by
  induction n with
  | zero =>
    intro names h
    rw [List.length_eq_zero_iff.1 (Nat.le_zero.1 h)]
    exact List.nodup_nil
  | succ n ih =>
    intro names h
    cases names with
    | nil => exact List.nodup_nil
    | cons name names =>
      rw [List.eraseDups_cons]
      refine List.nodup_cons.2 ⟨fun hm => ?_, ih _ ?_⟩
      · simpa using (List.mem_filter.1 (List.mem_eraseDups.1 hm)).2
      · have hf := List.length_filter_le (fun b => !b == name) names
        rw [List.length_cons] at h
        omega

lemma eraseDups_eq_self_iff {names : List String} : names.eraseDups = names ↔ names.Nodup := by
  constructor
  · intro h
    rw [← h]
    exact nodup_eraseDups _ names (Nat.le_refl _)
  · intro h
    induction names with
    | nil => rfl
    | cons name names ih =>
      obtain ⟨hn, hnodup⟩ := List.nodup_cons.1 h
      have hf : names.filter (fun b => !b == name) = names := by
        refine List.filter_eq_self.2 fun b hb => ?_
        have hne : b ≠ name := fun h => hn (h ▸ hb)
        simpa using hne
      rw [List.eraseDups_cons, hf, ih hnodup]

namespace Source

variable {s : Source}

/-! ### Occurrences in a wrapper -/

/-- What the function that runs the hooks puts around the view. -/
def around (s : Source) : Expr → Expr := if s.Apart then id else s.bounded

lemma innermost_around (e : Expr) : (s.around e).innermost = e.innermost := by
  unfold around
  split
  · rfl
  · exact innermost_bounded e

lemma hookFunction_of_binds {d : Decl} (hd : d ∈ s.module.decls)
    (hb : .own s.hooking ∈ d.binds) : d = s.hookFunction s.hooking s.around := by
  unfold hooking at hb ⊢
  unfold around
  cases mem_decls_iff.1 hd with
  | whole h => rw [if_neg (split_eq_false_iff.1 h), if_neg (split_eq_false_iff.1 h)]
  | core h => rw [if_pos (split_iff.1 h), if_pos (split_iff.1 h)]
  | outer h =>
    rw [if_pos (split_iff.1 h)] at hb
    simp [outerFunction, Decl.binds, exported] at hb
  | _ => split at hb <;>
      simp [Decl.binds, lazyDecl, routeFunction, themedDecl, exported] at hb

lemma hooking_mem_binds_whole (h : s.plan.split = false) :
    .own s.hooking ∈ (s.hookFunction s.exported s.bounded).binds := by
  rw [hooking, if_neg (split_eq_false_iff.1 h)]
  exact List.mem_singleton_self _

lemma hooking_mem_binds_core (h : s.plan.split = true) :
    .own s.hooking ∈ (s.hookFunction .core id).binds := by
  rw [hooking, if_pos (split_iff.1 h)]
  exact List.mem_singleton_self _

lemma exists_hooking_of_hooked (h : s.Hooked) : ∃ d ∈ s.module.decls, .own s.hooking ∈ d.binds := by
  by_cases ha : s.Apart
  · have hs := split_iff.2 ha
    exact ⟨_, mem_decls_iff.2 (.core hs (hookCore_iff.2 h)), hooking_mem_binds_core hs⟩
  · have hs := split_eq_false_iff.2 ha
    exact ⟨_, mem_decls_iff.2 (.whole hs), hooking_mem_binds_whole hs⟩

/-- What only the function that runs the hooks has, a wrapper has as often as that function, since
there is one function of that name. -/
lemma flatMap_decls {α : Type} {f : Decl → List α} {xs : List α}
    (hf : f (s.hookFunction s.hooking s.around) = xs)
    (ho : ∀ d ∈ s.module.decls, .own s.hooking ∉ d.binds → f d = []) (hn : ¬ s.Hooked → xs = []) :
    s.module.decls.flatMap f = xs := by
  by_cases hd : ∃ d ∈ s.module.decls, .own s.hooking ∈ d.binds
  · obtain ⟨d, hd, hb⟩ := hd
    obtain ⟨ds, ds', hds⟩ := List.append_of_mem hd
    have hnodup : (s.module.decls.flatMap Decl.binds).Nodup := by
      rw [declared_module]
      exact (nodup_declaredRoles s).map fun r r' h => by injection h
    rw [hds, List.flatMap_append, List.flatMap_cons] at hnodup
    obtain ⟨-, hnodup, hbefore⟩ := List.nodup_append.1 hnodup
    obtain ⟨-, -, hafter⟩ := List.nodup_append.1 hnodup
    have hnil : ds.flatMap f = [] := by
      refine List.flatMap_eq_nil_iff.2 fun d' hd' => ho d' (by simp [hds, hd']) fun hb' => ?_
      exact hbefore _ (List.mem_flatMap.2 ⟨d', hd', hb'⟩) _ (List.mem_append_left _ hb) rfl
    have hnil' : ds'.flatMap f = [] := by
      refine List.flatMap_eq_nil_iff.2 fun d' hd' => ho d' (by simp [hds, hd']) fun hb' => ?_
      exact hafter _ hb _ (List.mem_flatMap.2 ⟨d', hd', hb'⟩) rfl
    rw [hds, List.flatMap_append, List.flatMap_cons, hnil, hnil', hookFunction_of_binds hd hb, hf,
      List.nil_append, List.append_nil]
  · rw [hn fun hh => hd (exists_hooking_of_hooked hh), List.flatMap_eq_nil_iff]
    exact fun d hd' => ho d hd' fun hb => hd ⟨d, hd', hb⟩

lemma bindings_eq_nil_of_not_hooked (h : ¬ s.Hooked) : s.bindings = [] :=
  not_not.1 fun hb => h (.inl hb)

/-- What a function has in its constants, once for each binding and for nothing else. -/
lemma filterMap_locals {g : Role × Expr → Option String}
    (hb : ∀ n, g (.binding n,
      .call (.own .useAsyncHandler) [.ident (.taken n), .own .dataPlane]) = some n)
    (ho : ∀ r f args, r.export? = none → f ≠ .useAsyncHandler → g (r, .call (.own f) args) = none) :
    (s.module.decls.flatMap Decl.locals).filterMap g = s.bindings := by
  have hplane : g (.dataPlane, .call (.own .useDataPlane) []) = none :=
    ho _ _ _ rfl (by decide)
  have hmessages : ∀ args, g (.messages, .call (.own .useI18n) args) = none :=
    fun args => ho _ _ args rfl (by decide)
  have hrouted : ∀ args, g (.routed, .call (.own .useRoutes) args) = none :=
    fun args => ho _ _ args rfl (by decide)
  have hload : ∀ args, g (.load, .call (.own .useRouteLoader) args) = none :=
    fun args => ho _ _ args rfl (by decide)
  have hlocals : s.hookLocals.filterMap g = s.bindings := by
    have hmap : (s.bindings.map fun n => (Role.binding n, Expr.call (.own .useAsyncHandler)
        [.ident (.taken n), .own .dataPlane])).filterMap g = s.bindings := by
      simp [List.filterMap_map, hb]
    unfold hookLocals
    cases h : s.bindings with
    | nil =>
      cases s.component.has .i18n <;> cases s.component.routes <;>
        simp [optional, hmessages, hrouted]
    | cons n ns =>
      rw [← h, if_neg (by simp [h]), List.filterMap_append, List.filterMap_append,
        List.filterMap_cons_none hplane, hmap]
      cases s.component.has .i18n <;> cases s.component.routes <;>
        simp [optional, hmessages, hrouted]
  rw [List.filterMap_flatMap]
  refine flatMap_decls hlocals (fun d hd hb => ?_) bindings_eq_nil_of_not_hooked
  cases mem_decls_iff.1 hd with
  | whole h => exact absurd (hooking_mem_binds_whole h) hb
  | core h => exact absurd (hooking_mem_binds_core h) hb
  | route => simp [routeFunction, Decl.locals, hplane, hload]
  | _ => rfl

lemma boundProps_rendered (s : Source) :
    s.rendered.boundProps = s.bindings.map fun n => (n, n) := by
  have hbindings : (s.bindings.map fun n => (Key.name n, Expr.own (.binding n))).filterMap
      boundProp? = s.bindings.map fun n => (n, n) := by
    rw [List.filterMap_map]
    exact congrFun (List.filterMap_eq_map (f := fun n => (n, n))) s.bindings
  have hprops : (s.viewProps.map fun f => (Key.name f.1, f.2)).filterMap boundProp? =
      s.bindings.map fun n => (n, n) := by
    rw [viewProps, List.map_append, List.map_append, List.map_map, List.filterMap_append,
      List.filterMap_append]
    refine Eq.trans ?_ hbindings
    cases s.component.has .i18n <;> cases s.component.routes <;>
      simp [optional, Expr.own, boundProp?, Function.comp_def]
  unfold rendered withProps
  split
  · rename_i h
    rw [← hprops, List.isEmpty_iff.1 h]
    rfl
  · rw [← hprops]
    rfl

lemma boundProps_decls (s : Source) :
    s.module.decls.flatMap Decl.boundProps = s.bindings.map fun n => (n, n) := by
  refine flatMap_decls ?_ (fun d hd hb => ?_) fun h => by rw [bindings_eq_nil_of_not_hooked h]; rfl
  · rw [hookFunction, Decl.boundProps, innermost_around]
    exact boundProps_rendered s
  · cases mem_decls_iff.1 hd with
    | whole h => exact absurd (hooking_mem_binds_whole h) hb
    | core h => exact absurd (hooking_mem_binds_core h) hb
    | outer =>
      rw [outerFunction, Decl.boundProps, innermost_bounded]
      rfl
    | _ => rfl

lemma useAsyncHandler_notMem_rendered (s : Source) :
    .own .useAsyncHandler ∉ s.rendered.mentions true := by
  rw [mem_mentions_rendered_iff]
  rintro (h | h | h | ⟨n, -, h⟩ | ⟨-, h⟩ | ⟨-, h⟩) <;> simp at h

lemma useAsyncHandler_notMem_around (s : Source) :
    .own .useAsyncHandler ∉ (s.around s.rendered).mentions true := by
  unfold around
  split
  · exact useAsyncHandler_notMem_rendered s
  · intro h
    rcases mem_mentions_bounded_iff.1 h with h | ⟨-, h | h | ⟨-, h⟩⟩ | ⟨-, h | h | h⟩
    · exact useAsyncHandler_notMem_rendered s h
    all_goals simp at h

/-- The calls of the hook for async handlers among what is mentioned. -/
def callsOf (is : List Ident) : List Ident := is.filter (· == .own .useAsyncHandler)

lemma callsOf_eq_nil {is : List Ident} (h : .own .useAsyncHandler ∉ is) : callsOf is = [] := by
  refine List.filter_eq_nil_iff.2 fun i hi hi' => ?_
  rw [eq_of_beq hi'] at hi
  exact h hi

lemma callsOf_hookFunction (s : Source) :
    callsOf (s.hookFunction s.hooking s.around).mentions =
      List.replicate s.bindings.length (.own .useAsyncHandler) := by
  have hbindings : callsOf ((s.bindings.map fun n => (Role.binding n,
      Expr.call (.own .useAsyncHandler) [.ident (.taken n), .own .dataPlane])).flatMap
        fun l => l.2.mentions true) =
      List.replicate s.bindings.length (.own .useAsyncHandler) := by
    induction s.bindings with
    | nil => rfl
    | cons n ns ih =>
      rw [callsOf] at ih ⊢
      rw [List.map_cons, List.flatMap_cons, List.filter_append, ih, List.length_cons,
        List.replicate_succ]
      simp
  have hlocals : callsOf (s.hookLocals.flatMap fun l => l.2.mentions true) =
      List.replicate s.bindings.length (.own .useAsyncHandler) := by
    rw [← hbindings, hookLocals]
    cases hb : s.bindings <;> cases s.component.has .i18n <;> cases s.component.routes <;>
      simp [callsOf, optional]
  change callsOf (s.hookLocals.flatMap (fun l => l.2.mentions true)
    ++ (s.around s.rendered).mentions true) = _
  rw [callsOf, List.filter_append, ← callsOf, ← callsOf, hlocals,
    callsOf_eq_nil (useAsyncHandler_notMem_around s), List.append_nil]

lemma count_calls (s : Source) :
    (s.module.decls.flatMap Decl.mentions).count (.own .useAsyncHandler) = s.bindings.length := by
  have hcalls : s.module.decls.flatMap (fun d => callsOf d.mentions) =
      List.replicate s.bindings.length (.own .useAsyncHandler) := by
    refine flatMap_decls (callsOf_hookFunction s) (fun d hd hb => callsOf_eq_nil fun hm => ?_)
      fun h => by rw [bindings_eq_nil_of_not_hooked h]; rfl
    rcases hookFunction_of_mentions hd (by simp) hm with ⟨result, rfl, -⟩ | ⟨h, -⟩
    · exact hb (List.mem_singleton_self _)
    · simp at h
  rw [List.count_eq_length_filter, List.filter_flatMap]
  exact (congrArg List.length hcalls).trans List.length_replicate

lemma taken_imported (s : Source) : s.module.imported.filterMap Ident.taken? = s.bindings := by
  have hown : ∀ rs : List Role, (rs.map Ident.own).filterMap Ident.taken? = [] := by
    intro rs
    rw [List.filterMap_map]
    exact List.filterMap_eq_nil_iff.2 fun _ _ => rfl
  have htaken : (s.bindings.map Ident.taken).filterMap Ident.taken? = s.bindings := by
    rw [List.filterMap_map]
    exact List.filterMap_some
  rw [imported_module, List.filterMap_append, List.filterMap_append, hown, hown, htaken,
    List.nil_append, List.append_nil]

/-- A wrapper treats every listing of an export alike. -/
theorem binds_bindings (s : Source) : s.module.Binds s.bindings where
  imports := taken_imported s
  constants := filterMap_locals (fun _ => rfl) fun _ _ _ h _ => h
  handled := filterMap_locals (fun _ => rfl) fun _ _ _ _ h => by simp [Expr.handled?, h]
  calls := count_calls s
  props := boundProps_decls s

/-! ### Scopes -/

lemma nodup_localRoles_hookFunction (h : s.bindings.Nodup) (name : Role) (around : Expr → Expr) :
    (s.hookFunction name around).localRoles.Nodup := by
  have hmap : (s.bindings.map Role.binding).Nodup := h.map fun n m h => by injection h
  have hroles : s.hookLocals.map Prod.fst =
      (if s.bindings.isEmpty then [] else .dataPlane :: s.bindings.map .binding)
        ++ optional (s.component.has .i18n) .messages
        ++ optional (!s.component.routes.isEmpty) .routed := by
    unfold hookLocals
    cases hb : s.bindings <;> simp [Function.comp_def]
  change (Role.props :: s.hookLocals.map Prod.fst).Nodup
  rw [hroles]
  cases s.bindings.isEmpty <;> cases s.component.has .i18n <;> cases s.component.routes <;>
    simp [optional, hmap, List.nodup_append]

lemma function_of_localRoles {d : Decl} (hd : d ∈ s.module.decls) (h : d.localRoles ≠ []) :
    (∃ i, d = routeFunction i) ∨ (∃ name around, d = s.hookFunction name around) ∨
      d = s.outerFunction := by
  cases mem_decls_iff.1 hd with
  | @route q => exact .inl ⟨q.index, rfl⟩
  | whole => exact .inr (.inl ⟨_, _, rfl⟩)
  | core => exact .inr (.inl ⟨_, _, rfl⟩)
  | outer => exact .inr (.inr rfl)
  | _ => exact absurd rfl h

lemma place_of_mem_localRoles {d : Decl} (hd : d ∈ s.module.decls) {r : Role}
    (hr : r ∈ d.localRoles) : r.place = .function := by
  rcases function_of_localRoles hd (List.ne_nil_of_mem hr) with
    ⟨i, rfl⟩ | ⟨name, around, rfl⟩ | rfl
  · rcases (by simpa [routeFunction, Decl.localRoles] using hr :
      r = .props ∨ r = .dataPlane ∨ r = .load) with rfl | rfl | rfl <;> rfl
  · rcases List.mem_cons.1 hr with rfl | hr
    · rfl
    · obtain ⟨l, hl, rfl⟩ := List.mem_map.1 hr
      rcases mem_hookLocals_iff.1 hl with ⟨-, rfl⟩ | ⟨n, -, rfl⟩ | ⟨-, rfl⟩ | ⟨-, rfl⟩ <;> rfl
  · obtain rfl : r = .props := by simpa [outerFunction, Decl.localRoles] using hr
    rfl

lemma nodup_localRoles (h : s.bindings.Nodup) {d : Decl} (hd : d ∈ s.module.decls) :
    d.localRoles.Nodup := by
  by_cases hne : d.localRoles = []
  · rw [hne]
    exact List.nodup_nil
  · rcases function_of_localRoles hd hne with ⟨i, rfl⟩ | ⟨name, around, rfl⟩ | rfl
    · change [Role.props, .dataPlane, .load].Nodup
      decide
    · exact nodup_localRoles_hookFunction h name around
    · exact List.nodup_singleton _

/-- A wrapper redeclares a name exactly if the async file lists one twice, or one that the wrapper
introduces. -/
theorem distinct_iff (s : Source) (p : HygienePrefix) : s.module.Distinct p ↔
    s.bindings.Nodup ∧ ∀ n ∈ s.bindings, ∀ r ∈ s.topRoles, n ≠ p.ident r.suffix := by
  have hnamed : ∀ r : Role, r.place = .function → r.Named := by
    intro r hr
    cases r <;> trivial
  constructor
  · exact fun h => (nodup_names_bound_iff s p).1 h.top
  · intro h
    refine ⟨(nodup_names_bound_iff s p).2 h, fun d hd => ?_⟩
    refine (nodup_localRoles h.1 hd).map_on fun r hr r' hr' he => ?_
    exact Role.ident_inj (hnamed r (place_of_mem_localRoles hd hr))
      (hnamed r' (place_of_mem_localRoles hd hr')) he

/-- **An export is bound once exactly if it is listed once.** What a wrapper makes of the async file
is one import, constant, call and prop for every listing, in the order of the file. So these are as
many as there are names, each where it is first listed, exactly if no name is listed again; and then
the wrapper redeclares a name only if one of the async file is an identifier that it introduces. -/
theorem binds_once_iff (s : Source) : s.module.Binds s.bindings ∧
    (s.module.Binds s.bindings.eraseDups ↔ s.bindings.Nodup) ∧
    ∀ p, s.module.Distinct p ↔
      s.bindings.Nodup ∧ ∀ n ∈ s.bindings, ∀ r ∈ s.topRoles, n ≠ p.ident r.suffix := by
  refine ⟨binds_bindings s, ?_, distinct_iff s⟩
  constructor
  · intro h
    rw [← eraseDups_eq_self_iff, ← h.imports, taken_imported]
  · intro h
    rw [eraseDups_eq_self_iff.2 h]
    exact binds_bindings s

end Source

end ViewLayers.Wrapper
