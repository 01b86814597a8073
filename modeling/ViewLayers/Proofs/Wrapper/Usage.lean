import ViewLayers.Proofs.Wrapper.Hygiene

/-!
What a wrapper imports, it uses, but for the loaders of routes without a view: nothing runs them,
and then the hooks for loaders may be there for nothing as well.
-/

namespace ViewLayers.Wrapper

open Pieces

variable {x : Ident}

/-! ### Where identifiers stand -/

namespace Pieces

variable {ps qs rs : Pieces}

lemma infix_append_left (h : ps <:+: qs) : ps <:+: qs ++ rs :=
  h.trans (List.prefix_append qs rs).isInfix

lemma infix_append_right (h : ps <:+: rs) : ps <:+: qs ++ rs :=
  h.trans (List.suffix_append qs rs).isInfix

lemma infix_joined (sep : String) {pss : List Pieces} (hq : qs ∈ pss) (h : ps <:+: qs) :
    ps <:+: joined sep pss := by
  induction pss using joined.induct with
  | case1 => exact absurd hq List.not_mem_nil
  | case2 qs' =>
    obtain rfl := List.mem_singleton.1 hq
    exact h
  | case3 qs' pss hne ih =>
    have hjoined : joined sep (qs' :: pss) = qs' ++ .fixed sep :: joined sep pss := by
      cases pss with
      | nil => exact absurd rfl hne
      | cons _ _ => rfl
    rw [hjoined]
    rcases List.mem_cons.1 hq with rfl | hq
    · exact infix_append_left h
    · exact infix_append_right (List.infix_cons (ih hq))

lemma named_cons_subset (q : Piece) (ps : Pieces) : named ps ⊆ named (q :: ps) := by
  cases q with
  | fixed t => exact List.Subset.refl _
  | literal t => exact List.Subset.refl _
  | hole =>
    cases ps with
    | nil => exact List.Subset.refl _
    | cons r ps =>
      cases r with
      | fixed t => exact List.subset_cons_self t (named ps)
      | hole => exact List.Subset.refl _
      | literal t => exact List.Subset.refl _

lemma mem_named_of_infix {t : String} (h : [.hole, .fixed t] <:+: ps) : t ∈ named ps := by
  obtain ⟨us, vs, rfl⟩ := h
  rw [List.append_assoc]
  induction us with
  | nil => exact List.mem_cons_self
  | cons u us ih => exact named_cons_subset u _ ih

end Pieces

namespace Expr

mutual

/-- An expression prints all that it mentions. -/
theorem infix_pieces (level : Nat) : (e : Expr) → x ∈ e.mentions true →
    x.pieces <:+: e.pieces level
  | ident i, h => by
    obtain rfl := List.mem_singleton.1 h
    exact List.infix_refl _
  | member e _, h => infix_append_left (infix_pieces level e h)
  | orElse e e', h => by
    rw [pieces]
    rcases List.mem_append.1 h with h | h
    · exact infix_append_left (infix_pieces level e h)
    · exact infix_append_right (List.infix_cons (infix_pieces level e' h))
  | call f args, h => by
    rw [pieces]
    rcases List.mem_cons.1 h with rfl | h
    · exact infix_append_left (infix_append_left (List.infix_refl _))
    · obtain ⟨ps, hps, hx⟩ := infix_piecesOfList level args h
      exact infix_append_left (infix_append_right (List.infix_cons (infix_joined _ hps hx)))
  | glob args, h => by
    obtain ⟨ps, hps, hx⟩ := infix_piecesOfList level args h
    exact infix_append_left (List.infix_cons (infix_joined _ hps hx))
  | thunk e, h => List.infix_cons (infix_pieces level e h)
  | object (f :: fs), h => by
    obtain ⟨ps, hps, hx⟩ := infix_piecesOfFields level (f :: fs) h
    rw [pieces]
    exact infix_append_left (List.infix_cons (infix_joined _ hps hx))
  | list (e :: es), h => by
    obtain ⟨ps, hps, hx⟩ := infix_piecesOfList (level + 1) (e :: es) h
    rw [pieces]
    exact infix_append_left (List.infix_cons (infix_joined _ hps hx))
  | boundary component fallback inner, h => by
    rw [pieces]
    rcases List.mem_cons.1 h with rfl | h
    · refine infix_append_left (infix_append_left (infix_append_left (infix_append_left ?_)))
      exact List.infix_refl _
    rcases List.mem_cons.1 h with rfl | h
    · refine infix_append_left (infix_append_left (infix_append_left (infix_append_right ?_)))
      exact List.infix_cons (List.infix_refl _)
    rcases List.mem_append.1 h with h | h
    · refine infix_append_left (infix_append_left (infix_append_right ?_))
      exact List.infix_cons (infix_pieces level fallback h)
    · refine infix_append_left (infix_append_right ?_)
      exact List.infix_cons (infix_pieces (level + 1) inner h)

theorem infix_piecesOfList (level : Nat) : (es : List Expr) → x ∈ mentionsOfList true es →
    ∃ ps ∈ piecesOfList level es, x.pieces <:+: ps
  | e :: es, h => by
    rcases List.mem_append.1 h with h | h
    · exact ⟨_, List.mem_cons_self, infix_pieces level e h⟩
    · obtain ⟨ps, hps, hx⟩ := infix_piecesOfList level es h
      exact ⟨ps, List.mem_cons_of_mem _ hps, hx⟩

theorem infix_piecesOfFields (level : Nat) : (fs : List (Key × Expr)) →
    x ∈ mentionsOfFields true fs → ∃ ps ∈ piecesOfFields level fs, x.pieces <:+: ps
  | (k, e) :: fs, h => by
    rcases List.mem_append.1 h with h | h
    · have he := infix_pieces level e h
      cases k with
      | name k => exact ⟨_, List.mem_cons_self, List.infix_cons he⟩
      | text k => exact ⟨_, List.mem_cons_self, List.infix_cons (List.infix_cons he)⟩
      | spread => exact ⟨_, List.mem_cons_self, List.infix_cons he⟩
    · obtain ⟨ps, hps, hx⟩ := infix_piecesOfFields level fs h
      refine ⟨ps, ?_, hx⟩
      cases k <;> exact List.mem_cons_of_mem _ hps

end

end Expr

lemma infix_constPieces (level : Nat) (r : Role) (e : Expr) (h : x ∈ .own r :: e.mentions true) :
    x.pieces <:+: constPieces level r e := by
  rcases List.mem_cons.1 h with rfl | h
  · exact infix_append_left (infix_append_left (List.infix_cons (List.infix_refl _)))
  · exact infix_append_left (infix_append_right (List.infix_cons (e.infix_pieces level h)))

/-- A declaration prints all that stands in it. -/
theorem Decl.infix_pieces {d : Decl} (h : x ∈ d.occurrences) : x.pieces <:+: d.pieces := by
  cases d with
  | const r e => exact infix_constPieces 0 r e h
  | function r locals result =>
    rcases List.mem_cons.1 h with rfl | h
    · refine infix_append_left (infix_append_left (infix_append_left ?_))
      exact List.infix_cons (List.infix_refl _)
    rcases List.mem_cons.1 h with rfl | h
    · refine infix_append_left (infix_append_left (infix_append_right ?_))
      exact List.infix_cons (List.infix_refl _)
    refine infix_append_left (infix_append_right (List.infix_cons ?_))
    rcases List.mem_append.1 h with h | h
    · obtain ⟨l, hl, h⟩ := List.mem_flatMap.1 h
      exact infix_joined _ (List.mem_append_left _ (List.mem_map.2 ⟨l, hl, rfl⟩))
        (infix_constPieces 1 l.1 l.2 h)
    · refine infix_joined _ (List.mem_append_right _ (List.mem_singleton_self _)) ?_
      exact infix_append_left (List.infix_cons (result.infix_pieces 1 h))
  | displayName r s =>
    obtain rfl := List.mem_singleton.1 h
    exact infix_append_left (List.infix_refl _)
  | exportDefault r =>
    obtain rfl := List.mem_singleton.1 h
    exact infix_append_left (List.infix_cons (List.infix_refl _))

lemma Decl.mentions_subset_occurrences (d : Decl) : d.mentions ⊆ d.occurrences := by
  cases d with
  | const r e => exact List.subset_cons_self _ _
  | function r locals result =>
    intro x hx
    refine List.mem_cons_of_mem _ (List.mem_cons_of_mem _ ?_)
    rcases List.mem_append.1 hx with hx | hx
    · obtain ⟨l, hl, hx⟩ := List.mem_flatMap.1 hx
      exact List.mem_append_left _ (List.mem_flatMap.2 ⟨l, hl, List.mem_cons_of_mem _ hx⟩)
    · exact List.mem_append_right _ hx
  | displayName r s => exact List.Subset.refl _
  | exportDefault r => exact List.Subset.refl _

/-! ### Loaders -/

/-- The roles that only running a loader takes, but for the data plane that bindings take too. -/
def Role.ForLoaders : Role → Prop
  | .useDataPlane | .useRouteLoader | .routeLoader _ => True
  | _ => False

/-- Whether an identifier is printed outside the imports of a module. -/
def Module.Prints (m : Module) (x : Ident) : Prop := ∃ d ∈ m.decls, x.pieces <:+: d.pieces

namespace Source

variable {s : Source} {r : Role}

lemma prints_of_mentions {d : Decl} (hd : d ∈ s.module.decls) (h : x ∈ d.mentions) :
    s.module.Prints x := ⟨d, hd, Decl.infix_pieces (d.mentions_subset_occurrences h)⟩

lemma occurs_of_infix {d : Decl} (hd : d ∈ s.module.decls) (hr : r ∈ s.topRoles)
    (h : r.pieces <:+: d.pieces) : .own r ∈ d.occurrences := by
  have hnamed : named d.pieces = suffixes d.occurrences := by
    simpa [named] using d.names_pieces []
  have hsuffix := mem_named_of_infix h
  rw [hnamed] at hsuffix
  obtain ⟨y, hy, hys⟩ := List.mem_filterMap.1 hsuffix
  cases y with
  | taken n => exact absurd hys nofun
  | own r' =>
    have hadmissible : r'.Admissible :=
      (introduced_of_mem_occurrences hd hy).elim admissible_of_mem_topRoles
        (admissible_of_mem_localRoles hd)
    rwa [← Role.suffix_inj hadmissible.named (named_of_mem_topRoles hr) (Option.some.inj hys)]

/-! ### What is printed -/

lemma prints_of_mem_inside (h : x ∈ (s.bounded s.inside).mentions true) : s.module.Prints x := by
  obtain ⟨locals, hd, -⟩ := exists_exported s
  exact prints_of_mentions hd (List.mem_append_right _ h)

lemma prints_of_mem_hookLocals {l : Role × Expr} (hl : l ∈ s.hookLocals) (hh : s.Hooked)
    (h : x ∈ l.2.mentions true) : s.module.Prints x := by
  obtain ⟨d, hd, hb⟩ := exists_hooking_of_hooked hh
  refine prints_of_mentions hd ?_
  rw [hookFunction_of_binds hd hb]
  exact List.mem_append_left _ (List.mem_flatMap.2 ⟨l, hl, h⟩)

lemma prints_route {q : NumberedRoute} (hq : q ∈ s.routes) (hv : q.route.view.isSome = true)
    (hl : q.route.loader.isSome = true) :
    s.module.Prints (.own .useDataPlane) ∧ s.module.Prints (.own .useRouteLoader) ∧
      s.module.Prints (.own (.routeLoader q.index)) := by
  have hd := mem_decls_iff.2 (.route hq hv hl)
  refine ⟨prints_of_mentions hd ?_, prints_of_mentions hd ?_, prints_of_mentions hd ?_⟩ <;>
    simp [Decl.mentions, routeFunction]

/-! ### What is idle -/

/-- A loader that is run belongs to a route with a view. -/
def RunsLoaders (s : Source) : Prop :=
  ∃ q ∈ s.routes, q.route.loader.isSome = true ∧ q.route.view.isSome = true

/-- What nothing uses: the loader of a route without a view, and the hooks for loaders if none is
run, the data plane only if there are no bindings either. -/
def Idle (s : Source) : Ident → Prop
  | .own (.routeLoader i) => ∀ q ∈ s.routes, q.index = i → q.route.view = none
  | .own .useRouteLoader => ¬ s.RunsLoaders
  | .own .useDataPlane => s.bindings = [] ∧ ¬ s.RunsLoaders
  | _ => False

lemma hasRouteLoaders_iff :
    s.component.hasRouteLoaders = true ↔ ∃ q ∈ s.routes, q.route.loader.isSome = true := by
  refine ⟨fun h => ?_, fun ⟨q, hq, hl⟩ => hasRouteLoaders_of_mem hq hl⟩
  rw [Component.hasRouteLoaders, Route.anyHasLoader_eq_any, List.any_eq_true] at h
  obtain ⟨route, hroute, hl⟩ := h
  obtain ⟨i, hi⟩ := List.mem_iff_getElem?.1 hroute
  exact ⟨_, mem_routes_iff.2 ⟨(route, i), List.mem_zipIdx_iff_getElem?.2 hi, rfl⟩, hl⟩

lemma eq_of_index_eq {q q' : NumberedRoute} (hq : q ∈ s.routes) (hq' : q' ∈ s.routes)
    (h : q.index = q'.index) : q = q' :=
  List.inj_on_of_nodup_map (nodup_index_routes s) hq hq' h

lemma not_forLoaders_of_eq {r' : Role} (h : Ident.own r = .own r') (hr : ¬ r'.ForLoaders) :
    ¬ r.ForLoaders := by
  rwa [Ident.own.inj h]

lemma not_forLoaders_of_mem_rendered (h : .own r ∈ s.rendered.mentions true) :
    ¬ r.ForLoaders := by
  rcases mem_mentions_rendered_iff.1 h with h | h | h | ⟨n, -, h⟩ | ⟨-, h⟩ | ⟨-, h⟩ <;>
    exact not_forLoaders_of_eq h id

lemma not_forLoaders_of_mem_bounded {e : Expr} (he : .own r ∈ e.mentions true → ¬ r.ForLoaders)
    (h : .own r ∈ (s.bounded e).mentions true) : ¬ r.ForLoaders := by
  rcases mem_mentions_bounded_iff.1 h with h | ⟨-, h | h | ⟨-, h⟩⟩ | ⟨-, h | h | h⟩
  · exact he h
  all_goals exact not_forLoaders_of_eq h id

lemma not_forLoaders_of_mem_routeObjects
    (h : .own r ∈ (routeObjects 0 s.component.routes).flatMap (Expr.mentions true)) :
    ¬ r.ForLoaders := by
  rcases mem_mentions_routeObjects s.component.routes h with h | ⟨q, -, role, hrole, h⟩
  · exact not_forLoaders_of_eq h id
  · refine not_forLoaders_of_eq h ?_
    rcases List.mem_append.1 hrole with hrole | hrole
    · rw [(mem_optional.1 hrole).2]
      exact id
    · rw [(mem_optional.1 hrole).2]
      split <;> exact id

lemma not_forLoaders_of_mem_themed {target : Role} (ht : ¬ target.ForLoaders)
    (h : .own r ∈ (s.themedDecl target).mentions) : ¬ r.ForLoaders := by
  rw [mentions_themed] at h
  rcases List.mem_cons.1 h with h | h
  · exact not_forLoaders_of_eq h id
  rcases List.mem_cons.1 h with h | h
  · exact not_forLoaders_of_eq h ht
  · obtain ⟨i, -, h⟩ := List.mem_map.1 h
    exact not_forLoaders_of_eq h.symm id

lemma useDataPlane_of_mem_hookLocals {l : Role × Expr} (hl : l ∈ s.hookLocals) (hr : r.ForLoaders)
    (h : .own r ∈ Ident.own l.1 :: l.2.mentions true) : r = .useDataPlane ∧ s.bindings ≠ [] := by
  rcases mem_hookLocals_iff.1 hl with ⟨hb, rfl⟩ | ⟨n, hn, rfl⟩ | ⟨-, rfl⟩ | ⟨-, rfl⟩
  · rcases (by simpa using h : r = .dataPlane ∨ r = .useDataPlane) with rfl | rfl
    · exact absurd hr id
    · exact ⟨rfl, hb⟩
  · rcases (by simpa using h : r = .binding n ∨ r = .useAsyncHandler ∨ r = .dataPlane) with
      rfl | rfl | rfl <;> exact absurd hr id
  · rcases (by simpa using h :
      r = .messages ∨ r = .useI18n ∨ r = .i18nDefaults ∨ r = .localeFiles) with
      rfl | rfl | rfl | rfl <;> exact absurd hr id
  · rcases (by simpa using h : r = .routed ∨ r = .useRoutes ∨ r = .routes) with
      rfl | rfl | rfl <;> exact absurd hr id

lemma useDataPlane_of_occurs {name : Role} {around : Expr → Expr} (hr : r.ForLoaders)
    (hname : ¬ name.ForLoaders)
    (haround : .own r ∈ (around s.rendered).mentions true → ¬ r.ForLoaders)
    (h : .own r ∈ (s.hookFunction name around).occurrences) :
    r = .useDataPlane ∧ s.bindings ≠ [] := by
  rcases List.mem_cons.1 h with h | h
  · exact absurd hr (not_forLoaders_of_eq h hname)
  rcases List.mem_cons.1 h with h | h
  · exact absurd hr (not_forLoaders_of_eq h id)
  rcases List.mem_append.1 h with h | h
  · obtain ⟨l, hl, h⟩ := List.mem_flatMap.1 h
    exact useDataPlane_of_mem_hookLocals hl hr h
  · exact absurd hr (haround h)

lemma not_forLoaders_of_mem_lazy {target : Role} {file : Path} (ht : ¬ target.ForLoaders)
    (h : .own r ∈ (s.lazyDecl target file).occurrences) : ¬ r.ForLoaders := by
  rcases List.mem_cons.1 h with h | h
  · exact not_forLoaders_of_eq h ht
  · have hlazy : .own r ∈ (s.lazyDecl target file).mentions := h
    rw [mentions_lazyDecl] at hlazy
    exact not_forLoaders_of_eq (List.mem_singleton.1 hlazy) id

lemma not_forLoaders_of_mem_outer (h : .own r ∈ s.outerFunction.occurrences) :
    ¬ r.ForLoaders := by
  rcases List.mem_cons.1 h with h | h
  · exact not_forLoaders_of_eq h id
  rcases List.mem_cons.1 h with h | h
  · exact not_forLoaders_of_eq h id
  refine not_forLoaders_of_mem_bounded (fun h => ?_) h
  rw [mentions_element] at h
  rcases (by simpa using h : r = .createElement ∨
    r = (if s.plan.themed then .themed else .core) ∨ r = .props) with rfl | rfl | rfl
  · exact id
  · split <;> exact id
  · exact id

lemma route_of_occurs {d : Decl} (hd : d ∈ s.module.decls) (hr : r.ForLoaders)
    (h : .own r ∈ d.occurrences) :
    (∃ q ∈ s.routes, q.route.loader.isSome = true ∧ q.route.view.isSome = true ∧
      d = routeFunction q.index) ∨ r = .useDataPlane ∧ s.bindings ≠ [] := by
  cases mem_decls_iff.1 hd with
  | @route q hq hv hl => exact .inl ⟨q, hq, hl, hv, rfl⟩
  | whole =>
    exact .inr (useDataPlane_of_occurs hr id
      (not_forLoaders_of_mem_bounded not_forLoaders_of_mem_rendered) h)
  | core => exact .inr (useDataPlane_of_occurs hr id not_forLoaders_of_mem_rendered h)
  | outer => exact absurd hr (not_forLoaders_of_mem_outer h)
  | routes =>
    rcases List.mem_cons.1 h with h | h
    · exact absurd hr (not_forLoaders_of_eq h id)
    · exact absurd hr (not_forLoaders_of_mem_routeObjects (by simpa using h))
  | themed =>
    rcases List.mem_cons.1 h with h | h
    · exact absurd hr (not_forLoaders_of_eq h id)
    · refine absurd hr (not_forLoaders_of_mem_themed ?_ h)
      unfold inner
      split <;> exact id
  | view => exact absurd hr (not_forLoaders_of_mem_lazy id h)
  | routeView => exact absurd hr (not_forLoaders_of_mem_lazy id h)
  | i18nDefaults =>
    rcases (by simpa [Decl.occurrences] using h : r = .i18nDefaults ∨ r = .i18nBundle) with
      rfl | rfl <;> exact absurd hr id
  | localeFiles =>
    obtain rfl : r = .localeFiles := by simpa [Decl.occurrences, mentions_localeFiles] using h
    exact absurd hr id
  | displayName => exact absurd hr (not_forLoaders_of_eq (List.mem_singleton.1 h) id)
  | exportDefault => exact absurd hr (not_forLoaders_of_eq (List.mem_singleton.1 h) id)

lemma idle_routeLoader_iff {q : NumberedRoute} (hq : q ∈ s.routes) :
    s.Idle (.own (.routeLoader q.index)) ↔ q.route.view = none := by
  refine ⟨fun h => h q hq rfl, fun h q' hq' hindex => ?_⟩
  rwa [eq_of_index_eq hq' hq hindex]

lemma forLoaders_of_idle (h : s.Idle (.own r)) : r.ForLoaders := by
  cases r with
  | useDataPlane => trivial
  | useRouteLoader => trivial
  | routeLoader i => trivial
  | _ => exact False.elim h

lemma index_of_occurs {i j : Nat} (h : .own (.routeLoader j) ∈ (routeFunction i).occurrences) :
    j = i := by
  simpa [Decl.occurrences, routeFunction, mentions_element, withProps] using h

/-- What is idle is printed nowhere, -/
lemma not_prints_of_idle (hx : x ∈ s.module.imported) (hi : s.Idle x) : ¬ s.module.Prints x := by
  rintro ⟨d, hd, h⟩
  cases x with
  | taken n => exact hi
  | own r =>
    have hr := forLoaders_of_idle hi
    have hoccurs := occurs_of_infix hd (mem_topRoles_iff.2 (List.mem_append_left _ hx)) h
    rcases route_of_occurs hd hr hoccurs with ⟨q, hq, hl, hv, rfl⟩ | ⟨rfl, hb⟩
    · cases r with
      | useDataPlane => exact hi.2 ⟨q, hq, hl, hv⟩
      | useRouteLoader => exact hi ⟨q, hq, hl, hv⟩
      | routeLoader i =>
        rw [hi q hq (index_of_occurs hoccurs).symm] at hv
        exact Bool.false_ne_true hv
      | _ => exact hr
    · exact hb hi.1

/-- and all else that is imported is printed: what the libraries give, -/
lemma prints_of_mem_libraryRoles (h : r ∈ s.libraryRoles) (hi : ¬ s.Idle (.own r)) :
    s.module.Prints (.own r) := by
  have hbounded : ∀ y ∈ s.inside.mentions true, s.module.Prints y := fun y hy =>
    prints_of_mem_inside (mem_mentions_bounded_iff.2 (.inl hy))
  have hruns : s.RunsLoaders → s.module.Prints (.own .useDataPlane) ∧
      s.module.Prints (.own .useRouteLoader) := fun ⟨q, hq, hl, hv⟩ =>
    ⟨(prints_route hq hv hl).1, (prints_route hq hv hl).2.1⟩
  rcases mem_libraryRoles_iff.1 h with rfl | rfl | ⟨hs, rfl⟩ | ⟨hr, rfl⟩ | ⟨hp, rfl⟩ | ⟨hb, rfl⟩ |
    ⟨-, rfl⟩ | ⟨hn, rfl⟩ | ⟨he, rfl⟩ | ⟨ht, rfl⟩
  · refine hbounded _ ?_
    unfold inside
    split
    · simp [mentions_element]
    · split <;> simp [mentions_element, mem_mentions_rendered_iff]
  · exact prints_of_mentions (mem_decls_iff.2 .view) (by simp [mentions_lazyDecl])
  · exact prints_of_mem_inside (mem_mentions_bounded_iff.2 (.inr (.inl ⟨hs, .inr (.inl rfl)⟩)))
  · exact prints_of_mem_hookLocals (mem_hookLocals_iff.2 (.inr (.inr (.inr ⟨hr, rfl⟩))))
      (.inr (.inr hr)) (by simp)
  · by_cases hb : s.bindings = []
    · exact (hruns (not_not.1 fun hn => hi ⟨hb, hn⟩)).1
    · exact prints_of_mem_hookLocals (mem_hookLocals_iff.2 (.inl ⟨hb, rfl⟩)) (.inl hb) (by simp)
  · obtain ⟨n, hn⟩ := List.exists_mem_of_ne_nil _ hb
    exact prints_of_mem_hookLocals (mem_hookLocals_iff.2 (.inr (.inl ⟨n, hn, rfl⟩))) (.inl hb)
      (by simp)
  · exact (hruns (not_not.1 hi)).2
  · exact prints_of_mem_hookLocals (mem_hookLocals_iff.2 (.inr (.inr (.inl ⟨hn, rfl⟩))))
      (.inr (.inl hn)) (by simp)
  · exact prints_of_mem_inside (mem_mentions_bounded_iff.2 (.inr (.inr ⟨he, .inr (.inl rfl)⟩)))
  · have hsplit : s.plan.split = true := split_iff.2 (.inr (themed_iff.1 ht))
    exact prints_of_mentions (mem_decls_iff.2 (.themed hsplit ht)) (by simp [mentions_themed])

/-- and what the files of the component do. -/
lemma prints_of_mem_fileRoles (h : r ∈ s.fileRoles) (hi : ¬ s.Idle (.own r)) :
    s.module.Prints (.own r) := by
  rcases mem_fileRoles_iff.1 h with ⟨hp, rfl⟩ | ⟨he, rfl⟩ | ⟨hn, rfl⟩ | ⟨i, hlt, rfl⟩ | ⟨q, hq, hr⟩
  · have hs : s.plan.suspense = true := by simp [plan, Component.plan, hp]
    exact prints_of_mem_inside
      (mem_mentions_bounded_iff.2 (.inr (.inl ⟨hs, .inr (.inr ⟨hp, rfl⟩)⟩)))
  · exact prints_of_mem_inside (mem_mentions_bounded_iff.2 (.inr (.inr ⟨he, .inr (.inr rfl)⟩)))
  · exact prints_of_mentions (mem_decls_iff.2 (.i18nDefaults hn)) (by simp [Decl.mentions])
  · have hskins : s.component.skins.isEmpty = false := by
      cases he : s.component.skins.entries with
      | nil => simp [Dict.values, he] at hlt
      | cons e es => simp [Dict.isEmpty, he]
    have hsplit : s.plan.split = true := split_iff.2 (.inr hskins)
    refine prints_of_mentions (mem_decls_iff.2 (.themed hsplit (themed_iff.2 hskins))) ?_
    have hkeys : i < s.component.skins.keys.length := by
      simpa [Dict.keys, Dict.values] using hlt
    simp [mentions_themed, hkeys]
  · rcases List.mem_append.1 hr with hr | hr
    · obtain ⟨hl, rfl⟩ := mem_optional.1 hr
      have hv : q.route.view.isSome = true := by
        rw [Option.isSome_iff_ne_none]
        exact fun hv => hi ((idle_routeLoader_iff hq).2 hv)
      exact (prints_route hq hv hl).2.2
    · obtain ⟨hm, rfl⟩ := mem_optional.1 hr
      obtain ⟨p, hp, rfl⟩ := mem_routes_iff.1 hq
      refine prints_of_mentions (mem_decls_iff.2 (.routes (routes_ne_nil_of_mem hq))) ?_
      have hshown : Role.routeMeta p.2 ∈ shownRoles p :=
        List.mem_append_left _ (mem_optional.2 ⟨hm, rfl⟩)
      have hmentioned := own_mem_mentions_routeObjects (b := true) s.component.routes hp hshown
      simpa [Decl.mentions] using hmentioned

/-- Something is idle only where a route has a loader and no view. -/
lemma exists_route_of_idle (hx : x ∈ s.module.imported) (hi : s.Idle x) :
    ∃ q ∈ s.routes, q.route.loader.isSome = true ∧ q.route.view = none := by
  have himported : ∀ {r}, .own r ∈ s.module.imported → r ∈ s.libraryRoles ∨ r ∈ s.fileRoles :=
    fun h => by simpa [imported_module] using h
  have hloads : s.component.hasRouteLoaders = true → ¬ s.RunsLoaders →
      ∃ q ∈ s.routes, q.route.loader.isSome = true ∧ q.route.view = none := by
    intro hl hn
    obtain ⟨q, hq, hl⟩ := hasRouteLoaders_iff.1 hl
    refine ⟨q, hq, hl, ?_⟩
    rw [← Option.not_isSome_iff_eq_none]
    exact fun hv => hn ⟨q, hq, hl, hv⟩
  cases x with
  | taken n => exact hi.elim
  | own r =>
    have hr := forLoaders_of_idle hi
    cases r with
    -- the hooks are imported for the loaders alone here, of which none is run
    | useDataPlane =>
      refine hloads ?_ hi.2
      rcases himported hx with h | h
      · simpa [mem_libraryRoles_iff, hi.1] using h
      · simp [mem_fileRoles_iff, routeImportRoles] at h
    | useRouteLoader =>
      refine hloads ?_ hi
      rcases himported hx with h | h
      · simpa [mem_libraryRoles_iff] using h
      · simp [mem_fileRoles_iff, routeImportRoles] at h
    | routeLoader i =>
      rcases himported hx with h | h
      · simp [mem_libraryRoles_iff] at h
      · obtain ⟨q, hq, hl, rfl⟩ : ∃ q ∈ s.routes, q.route.loader.isSome = true ∧ i = q.index := by
          simpa [mem_fileRoles_iff, routeImportRoles] using h
        exact ⟨q, hq, hl, hi q hq rfl⟩
    | _ => exact hr.elim

/-- **A wrapper uses all that it imports but for what is idle**: an import is printed again outside
the imports exactly if it is not the loader of a route without a view, or a hook that is there for
such loaders alone. So all are iff every route with a loader has a view. -/
theorem prints_imported_iff (s : Source) :
    (∀ x ∈ s.module.imported, s.module.Prints x ↔ ¬ s.Idle x) ∧
    ((∀ x ∈ s.module.imported, s.module.Prints x) ↔
      ∀ q ∈ s.routes, q.route.loader.isSome = true → q.route.view.isSome = true) := by
  have hprints : ∀ x ∈ s.module.imported, s.module.Prints x ↔ ¬ s.Idle x := by
    intro x hx
    refine ⟨fun h hi => not_prints_of_idle hx hi h, fun hi => ?_⟩
    rw [imported_module] at hx
    rcases List.mem_append.1 hx with hx | hx
    · rcases List.mem_append.1 hx with hx | hx
      · obtain ⟨r, hr, rfl⟩ := List.mem_map.1 hx
        exact prints_of_mem_libraryRoles hr hi
      · obtain ⟨n, hn, rfl⟩ := List.mem_map.1 hx
        exact prints_of_mem_hookLocals (mem_hookLocals_iff.2 (.inr (.inl ⟨n, hn, rfl⟩)))
          (.inl (List.ne_nil_of_mem hn)) (by simp)
    · obtain ⟨r, hr, rfl⟩ := List.mem_map.1 hx
      exact prints_of_mem_fileRoles hr hi
  refine ⟨hprints, fun h q hq hl => ?_, fun h x hx => (hprints x hx).2 fun hi => ?_⟩
  · have himported : .own (.routeLoader q.index) ∈ s.module.imported :=
      mem_fileRoles_imported (mem_fileRoles_of_route hq
        (List.mem_append_left _ (mem_optional.2 ⟨hl, rfl⟩)))
    rw [Option.isSome_iff_ne_none]
    exact fun hv => (hprints _ himported).1 (h _ himported) ((idle_routeLoader_iff hq).2 hv)
  · obtain ⟨q, hq, hl, hv⟩ := exists_route_of_idle hx hi
    have hview := h q hq hl
    rw [hv] at hview
    exact Bool.false_ne_true hview

end Source

end ViewLayers.Wrapper
