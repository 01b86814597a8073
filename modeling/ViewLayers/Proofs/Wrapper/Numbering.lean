import Mathlib.Data.List.Basic
import ViewLayers.Proofs.Wrapper.Mentions
import ViewLayers.Wrapper.Assembly

/-!
The numbers of routes. The objects of a forest count its routes as they go, and so give every route
its place in the list of all routes, each before those below it.
-/

namespace ViewLayers

namespace Route

mutual

/-- A route loads data here or below exactly if one of its list does. -/
theorem hasLoader_eq_any : (r : Route) → r.hasLoader = r.preorder.any (·.loader.isSome)
  | ⟨_, _, _, _, _, _, cs⟩ => by
    rw [hasLoader, preorder, List.any_cons, anyHasLoader_eq_any cs]

theorem anyHasLoader_eq_any : (rs : List Route) →
    anyHasLoader rs = (preorderOfList rs).any (·.loader.isSome)
  | [] => rfl
  | r :: rs => by
    rw [anyHasLoader, preorderOfList, List.any_append, hasLoader_eq_any r,
      anyHasLoader_eq_any rs]

end

end Route

namespace Wrapper.Source

open Route

mutual

theorem routeCount_eq : (r : Route) → routeCount r = r.preorder.length
  | ⟨_, _, _, _, _, _, cs⟩ => by
    rw [routeCount, preorder, List.length_cons, routeCounts_eq cs, Nat.add_comm]

theorem routeCounts_eq : (rs : List Route) → routeCounts rs = (preorderOfList rs).length
  | [] => rfl
  | r :: rs => by
    rw [routeCounts, preorderOfList, List.length_append, routeCount_eq r, routeCounts_eq rs]

end

/-- What the object of a route with its number stands on: the route's metadata, and the component
that renders it. -/
def shownRoles (p : Route × Nat) : List Role :=
  optional p.1.metadata.isSome (.routeMeta p.2)
    ++ optional p.1.view.isSome (if p.1.loader.isSome then .route p.2 else .routeView p.2)

lemma mentions_routeObject (b : Bool) (i : Nat) (r : Route) :
    (routeObject i r).mentions b = (optional r.metadata.isSome (Role.routeMeta i)).map .own
      ++ ((if r.view.isSome then [.own .createElement,
          .own (if r.loader.isSome then .route i else .routeView i)] else [])
        ++ (routeObjects (i + 1) r.children).flatMap (Expr.mentions b)) := by
  obtain ⟨_, pattern, _, view, loader, metadata, cs⟩ := r
  have hpath : (if metadata.isSome then Expr.orElse (.member (.own (.routeMeta i)) "path")
      (.text pattern) else .text pattern).mentions b =
      (optional metadata.isSome (Role.routeMeta i)).map .own := by
    cases metadata <;> simp [optional]
  have hview : (optional view.isSome (Key.name "element",
      element (if loader.isSome then .route i else .routeView i) none)).flatMap
        (fun f => f.2.mentions b) = if view.isSome then [.own .createElement,
          .own (if loader.isSome then .route i else .routeView i)] else [] := by
    cases view <;> simp [optional, element]
  have hbelow : (optional (!cs.isEmpty) (Key.name "children",
      Expr.list (routeObjects (i + 1) cs))).flatMap (fun f => f.2.mentions b) =
        (routeObjects (i + 1) cs).flatMap (Expr.mentions b) := by
    cases cs <;> simp [optional, routeObjects]
  rw [routeObject]
  simp only [Expr.mentions, Expr.mentionsOfFields_eq, List.flatMap_cons, List.flatMap_append,
    hpath, hview, hbelow]

lemma mem_shownRoles_of_mem_mentions {b : Bool} {x : Ident} {i : Nat} {r : Route}
    (h : x ∈ (routeObject i r).mentions b) :
    x = .own .createElement ∨ (∃ role ∈ shownRoles (r, i), x = .own role) ∨
      x ∈ (routeObjects (i + 1) r.children).flatMap (Expr.mentions b) := by
  rw [mentions_routeObject, List.mem_append, List.mem_append] at h
  rcases h with h | h | h
  · obtain ⟨role, hr, rfl⟩ := List.mem_map.1 h
    exact .inr (.inl ⟨role, List.mem_append_left _ hr, rfl⟩)
  · split at h
    · rename_i hv
      rcases List.mem_cons.1 h with h | h
      · exact .inl h
      · refine .inr (.inl ⟨_, List.mem_append_right _ ?_, List.mem_singleton.1 h⟩)
        exact mem_optional.2 ⟨hv, rfl⟩
    · simp at h
  · exact .inr (.inr h)

mutual

theorem mem_mentions_routeObject {b : Bool} {x : Ident} {i : Nat} : (r : Route) →
    x ∈ (routeObject i r).mentions b →
    x = .own .createElement ∨ ∃ p ∈ r.preorder.zipIdx i, ∃ role ∈ shownRoles p, x = .own role
  | ⟨_, _, _, _, _, _, cs⟩, h => by
    rw [preorder, List.zipIdx_cons]
    rcases mem_shownRoles_of_mem_mentions h with h | ⟨role, hr, hx⟩ | h
    · exact .inl h
    · exact .inr ⟨_, List.mem_cons_self, role, hr, hx⟩
    · rcases mem_mentions_routeObjects cs h with hx | ⟨p, hp, hx⟩
      · exact .inl hx
      · exact .inr ⟨p, List.mem_cons_of_mem _ hp, hx⟩

theorem mem_mentions_routeObjects {b : Bool} {x : Ident} {i : Nat} : (rs : List Route) →
    x ∈ (routeObjects i rs).flatMap (Expr.mentions b) →
    x = .own .createElement ∨
      ∃ p ∈ (preorderOfList rs).zipIdx i, ∃ role ∈ shownRoles p, x = .own role
  | [], h => by simp [routeObjects] at h
  | r :: rs, h => by
    rw [routeObjects, List.flatMap_cons, List.mem_append] at h
    rw [preorderOfList, List.zipIdx_append, ← routeCount_eq r]
    rcases h with h | h
    · rcases mem_mentions_routeObject r h with hx | ⟨p, hp, hx⟩
      · exact .inl hx
      · exact .inr ⟨p, List.mem_append_left _ hp, hx⟩
    · rcases mem_mentions_routeObjects rs h with hx | ⟨p, hp, hx⟩
      · exact .inl hx
      · exact .inr ⟨p, List.mem_append_right _ hp, hx⟩

end

lemma own_mem_mentions_of_shown {b : Bool} {role : Role} {i : Nat} {r : Route}
    (h : role ∈ shownRoles (r, i)) : .own role ∈ (routeObject i r).mentions b := by
  rw [mentions_routeObject]
  rcases List.mem_append.1 h with h | h
  · exact List.mem_append_left _ (List.mem_map.2 ⟨role, h, rfl⟩)
  · obtain ⟨hv, rfl⟩ := mem_optional.1 h
    rw [if_pos hv]
    exact List.mem_append_right _
      (List.mem_append_left _ (List.mem_cons_of_mem _ (List.mem_singleton_self _)))

mutual

/-- What a route stands on is mentioned in its object, -/
theorem own_mem_mentions_routeObject {b : Bool} {role : Role} {i : Nat} : (r : Route) →
    {p : Route × Nat} → p ∈ r.preorder.zipIdx i → role ∈ shownRoles p →
    .own role ∈ (routeObject i r).mentions b
  | ⟨_, _, _, _, _, _, cs⟩, p, hp, h => by
    rw [preorder, List.zipIdx_cons] at hp
    rcases List.mem_cons.1 hp with rfl | hp
    · exact own_mem_mentions_of_shown h
    · rw [mentions_routeObject]
      exact List.mem_append_right _
        (List.mem_append_right _ (own_mem_mentions_routeObjects cs hp h))

/-- and in those of the forest that it is in. -/
theorem own_mem_mentions_routeObjects {b : Bool} {role : Role} {i : Nat} : (rs : List Route) →
    {p : Route × Nat} → p ∈ (preorderOfList rs).zipIdx i → role ∈ shownRoles p →
    .own role ∈ (routeObjects i rs).flatMap (Expr.mentions b)
  | [], p, hp, _ => by simp [preorderOfList] at hp
  | r :: rs, p, hp, h => by
    rw [preorderOfList, List.zipIdx_append, ← routeCount_eq r] at hp
    rw [routeObjects, List.flatMap_cons]
    rcases List.mem_append.1 hp with hp | hp
    · exact List.mem_append_left _ (own_mem_mentions_routeObject r hp h)
    · exact List.mem_append_right _ (own_mem_mentions_routeObjects rs hp h)

end

end Wrapper.Source

end ViewLayers
