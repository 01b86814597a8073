import Mathlib.Data.List.Nodup
import ViewLayers.Proofs.Component.Naming
import ViewLayers.Proofs.Wrapper.Bindings
import ViewLayers.Proofs.Wrapper.Scope

/-!
Hygiene of wrappers. Whatever the prefix, the identifiers that a wrapper introduces are legal,
differ from each other wherever they stand, and from every name that does not start as they do.
-/

namespace ViewLayers

open Text

namespace Wrapper

/-! ### Identifiers -/

lemma small_of_mem_reservedNames {w : String} (hw : w ∈ reservedNames) {c : Char}
    (hc : c ∈ w.toList) : c.isLower = true ∧ c.isDigit = false := by
  have hsmall : (reservedNames.all fun w => w.toList.all fun c => c.isLower && !c.isDigit) = true :=
    by decide
  simpa using List.all_eq_true.1 (List.all_eq_true.1 hsmall w hw) c hc

namespace Role

variable {r : Role}

/-- Components go by display names, and bindings by the exports that can be imported. -/
def Admissible : Role → Prop
  | component d => ∃ name, d = ViewLayers.displayName name
  | binding name => isUsable name = true
  | _ => True

lemma Admissible.named (h : r.Admissible) : r.Named := by
  cases r with
  | component d => exact h
  | _ => trivial

lemma all_isAsciiPart_numbered {word : String} (hw : word.toList.all isAsciiPart = true)
    (i : Nat) : (word ++ toString i).toList.all isAsciiPart = true := by
  have hdigits : (toString i).toList.all isAsciiPart = true := by
    refine List.all_eq_true.2 fun c hc => ?_
    have hc' : c ∈ Nat.toDigits 10 i := by simpa using hc
    have hd := Nat.isDigit_of_mem_toDigits (by decide) (by decide) hc'
    simp [isAsciiPart, Char.isAlphanum, hd]
  rw [String.toList_append, List.all_append, hw, hdigits, Bool.and_self]

lemma all_isAsciiPart_of_isUsable {name : String} (h : isUsable name = true) :
    name.toList.all isAsciiPart = true := by
  rw [isUsable, Bool.and_eq_true] at h
  cases hc : name.toList with
  | nil => rfl
  | cons c cs =>
    rw [hc, isAsciiIdentifier, Bool.and_eq_true] at h
    rw [List.all_cons, isAsciiPart_of_isAsciiStart h.1.1, h.1.2, Bool.and_self]

lemma Admissible.all_isAsciiPart_suffix (h : r.Admissible) :
    r.suffix.toList.all isAsciiPart = true := by
  cases r with
  | component d =>
    obtain ⟨name, rfl⟩ := h
    refine List.all_eq_true.2 fun c hc => ?_
    have hword := isWordChar_of_mem_displayName hc
    simp only [isWordChar, isAsciiPart, Bool.or_eq_true] at hword ⊢
    rcases hword with hc | hc
    · exact .inl (.inl hc)
    · exact .inr hc
  | binding name =>
    have hword : "binding_".toList.all isAsciiPart = true := by decide
    rw [suffix, String.toList_append, List.all_append, hword, all_isAsciiPart_of_isUsable h,
      Bool.and_self]
  | skin i => exact all_isAsciiPart_numbered (by decide) i
  | routeLoader i => exact all_isAsciiPart_numbered (by decide) i
  | routeMeta i => exact all_isAsciiPart_numbered (by decide) i
  | routeView i => exact all_isAsciiPart_numbered (by decide) i
  | route i => exact all_isAsciiPart_numbered (by decide) i
  | _ => decide

lemma not_isSuffix_of_mem {t w : String} (hw : w ∈ reservedNames) {c : Char} (hc : c ∈ t.toList)
    (hsmall : c.isLower = false ∨ c.isDigit = true) : ¬ t.toList <:+ w.toList := by
  intro h
  obtain ⟨hlower, hdigit⟩ := small_of_mem_reservedNames hw (h.subset hc)
  rcases hsmall with hc | hc
  · rw [hlower] at hc
    contradiction
  · rw [hdigit] at hc
    contradiction

lemma not_isSuffix_numbered (word : String) (i : Nat) {w : String} (hw : w ∈ reservedNames) :
    ¬ (word ++ toString i).toList <:+ w.toList := by
  obtain ⟨c, hc⟩ := List.exists_mem_of_ne_nil _ (Nat.toDigits_ne_nil (b := 10) (n := i))
  have hdigit : c.isDigit = true := Nat.isDigit_of_mem_toDigits (by decide) (by decide) hc
  exact not_isSuffix_of_mem hw (c := c) (by simp [hc]) (.inr hdigit)

lemma Admissible.not_isSuffix (h : r.Admissible) {w : String} (hw : w ∈ reservedNames) :
    ¬ r.suffix.toList <:+ w.toList := by
  cases r with
  | component d =>
    obtain ⟨name, rfl⟩ := h
    obtain ⟨c, cs, hcs, hc⟩ := exists_toList_displayName name
    exact not_isSuffix_of_mem hw (by simp [suffix, hcs]) (.inl hc)
  | binding name => exact not_isSuffix_of_mem hw (c := '_') (by simp [suffix]) (.inl rfl)
  | skin i => exact not_isSuffix_numbered _ i hw
  | routeLoader i => exact not_isSuffix_numbered _ i hw
  | routeMeta i => exact not_isSuffix_numbered _ i hw
  | routeView i => exact not_isSuffix_numbered _ i hw
  | route i => exact not_isSuffix_numbered _ i hw
  | _ => revert w; decide

lemma Admissible.legal (h : r.Admissible) (p : HygienePrefix) :
    isAsciiIdentifier (p.ident r.suffix).toList = true ∧ p.ident r.suffix ∉ reservedNames := by
  have hlist : (p.ident r.suffix).toList = p.token.toList ++ r.suffix.toList :=
    String.toList_append ..
  constructor
  · rw [hlist]
    exact isAsciiIdentifier_append p.valid h.all_isAsciiPart_suffix
  · intro hw
    exact h.not_isSuffix hw ⟨_, hlist.symm⟩

end Role

/-- The role of an identifier that the wrapper introduces. -/
def Ident.own? : Ident → Option Role
  | .own r => some r
  | .taken _ => none

/-! ### The identifiers of a module -/

namespace Source

variable {s : Source} {r : Role}

lemma isUsable_of_mem_bindings {n : String} (h : n ∈ s.bindings) : isUsable n = true := by
  unfold bindings at h
  split at h
  · exact (List.mem_filter.1 h).2
  · cases h

lemma mem_topRoles_iff : r ∈ s.topRoles ↔ .own r ∈ s.module.bound := by
  rw [own_mem_bound_iff, topRoles, List.mem_append, List.mem_append, or_assoc]

lemma place_ne_of_mem_topRoles (h : r ∈ s.topRoles) : r.place ≠ .function := by
  rcases List.mem_append.1 h with h | h
  · rcases List.mem_append.1 h with h | h
    · rw [place_of_mem_libraryRoles h]
      decide
    · rw [place_of_mem_fileRoles h]
      decide
  · rw [place_of_mem_declaredRoles h]
    decide

lemma admissible_of_mem_topRoles (h : r ∈ s.topRoles) : r.Admissible := by
  cases r with
  | component d => exact named_of_mem_topRoles h
  | binding n => exact absurd rfl (place_ne_of_mem_topRoles h)
  | _ => trivial

lemma admissible_of_mem_localRoles {d : Decl} (hd : d ∈ s.module.decls) (hr : r ∈ d.localRoles) :
    r.Admissible := by
  rcases function_of_localRoles hd (List.ne_nil_of_mem hr) with
    ⟨i, rfl⟩ | ⟨name, around, rfl⟩ | rfl
  · rcases (by simpa [routeFunction, Decl.localRoles] using hr :
      r = .props ∨ r = .dataPlane ∨ r = .load) with rfl | rfl | rfl <;> trivial
  · rcases List.mem_cons.1 hr with rfl | hr
    · trivial
    · obtain ⟨l, hl, rfl⟩ := List.mem_map.1 hr
      rcases mem_hookLocals_iff.1 hl with ⟨-, rfl⟩ | ⟨n, hn, rfl⟩ | ⟨-, rfl⟩ | ⟨-, rfl⟩
      · trivial
      · exact isUsable_of_mem_bindings hn
      · trivial
      · trivial
  · obtain rfl : r = .props := by simpa [outerFunction, Decl.localRoles] using hr
    trivial

lemma not_mem_topRoles_of_mem_localRoles {d : Decl} (hd : d ∈ s.module.decls)
    (hr : r ∈ d.localRoles) : r ∉ s.topRoles :=
  fun htop => place_ne_of_mem_topRoles htop (place_of_mem_localRoles hd hr)

lemma mentions_subset_of_bodyClosed {known : List Ident} {locals : List (Role × Expr)}
    {result : Expr} (h : BodyClosed known locals result) :
    locals.flatMap (fun l => l.2.mentions true) ++ result.mentions true ⊆
      known ++ locals.map fun l => .own l.1 := by
  induction locals generalizing known with
  | nil => simpa [BodyClosed] using h
  | cons l locals ih =>
    have hrest := ih h.2
    rw [List.flatMap_cons, List.append_assoc, List.map_cons]
    refine List.append_subset.2 ⟨List.subset_append_of_subset_left _ h.1, ?_⟩
    simpa using hrest

/-- All that stands in a declaration is introduced at the top or in the declaration itself. -/
lemma introduced_of_mem_occurrences {d : Decl} (hd : d ∈ s.module.decls)
    (h : .own r ∈ d.occurrences) : r ∈ s.topRoles ∨ r ∈ d.localRoles := by
  have hclosed := closed_decls s d hd
  have hbinds : ∀ x ∈ d.binds, x ∈ s.module.bound := fun x hx =>
    List.mem_append_right _ (List.mem_flatMap.2 ⟨d, hd, hx⟩)
  rw [mem_topRoles_iff]
  cases d with
  | const name e =>
    rcases List.mem_cons.1 h with h | h
    · exact .inl (hbinds _ (h ▸ List.mem_singleton_self _))
    · exact .inl (hclosed h)
  | function name locals result =>
    have hlocal : ∀ r', .own r' ∈ Ident.own .props :: locals.map (fun l => .own l.1) →
        r' ∈ (Decl.function name locals result).localRoles := fun r' h => by
      simpa [Decl.localRoles] using h
    have hmentioned : .own r ∈ locals.flatMap (fun l => l.2.mentions true)
        ++ result.mentions true → .own r ∈ s.module.bound ∨
          r ∈ (Decl.function name locals result).localRoles := fun h => by
      have hbody := mentions_subset_of_bodyClosed hclosed h
      rw [List.append_assoc, List.mem_append] at hbody
      exact hbody.imp_right (hlocal r)
    -- its name, its props, its constants, and what these and its result mention
    rcases List.mem_cons.1 h with h | h
    · exact .inl (hbinds _ (h ▸ List.mem_singleton_self _))
    rcases List.mem_cons.1 h with h | h
    · exact .inr (hlocal r (h ▸ List.mem_cons_self))
    rcases List.mem_append.1 h with h | h
    · obtain ⟨l, hl, h⟩ := List.mem_flatMap.1 h
      rcases List.mem_cons.1 h with h | h
      · exact .inr (hlocal r (h ▸ List.mem_cons_of_mem _ (List.mem_map.2 ⟨l, hl, rfl⟩)))
      · exact hmentioned (List.mem_append_left _ (List.mem_flatMap.2 ⟨l, hl, h⟩))
    · exact hmentioned (List.mem_append_right _ h)
  | displayName name text => exact .inl (hclosed h)
  | exportDefault name => exact .inl (hclosed h)

lemma own_bound (s : Source) : s.module.bound.filterMap Ident.own? = s.topRoles := by
  have hown : ∀ rs : List Role, (rs.map Ident.own).filterMap Ident.own? = rs := fun rs => by
    rw [List.filterMap_map]
    exact List.filterMap_some
  have htaken : (s.bindings.map Ident.taken).filterMap Ident.own? = [] := by
    rw [List.filterMap_map]
    exact List.filterMap_eq_nil_iff.2 fun _ _ => rfl
  simp only [Module.bound, imported_module, declared_module, List.filterMap_append, hown, htaken,
    List.append_nil, topRoles]

/-! ### Hygiene -/

structure Hygienic (s : Source) (p : HygienePrefix) : Prop where
  /-- All that can be introduced, at the top or in a function, goes by different names: -/
  apart : ∀ r r' : Role, r.Admissible → r'.Admissible →
    p.ident r.suffix = p.ident r'.suffix → r = r'
  /-- ASCII identifiers that are no words of the language, -/
  legal : ∀ r : Role, r.Admissible →
    isAsciiIdentifier (p.ident r.suffix).toList = true ∧ p.ident r.suffix ∉ reservedNames
  /-- and no names that do not start with the prefix. -/
  foreign : ∀ (r : Role) (name : String), ¬ p.token.toList <+: name.toList →
    p.ident r.suffix ≠ name
  /-- Of these are all that stand in the module. One that stands in a declaration is introduced
  there or at the top, -/
  introduced : ∀ d ∈ s.module.decls, ∀ r, .own r ∈ d.occurrences →
    .own r ∈ s.module.bound ∨ r ∈ d.localRoles
  /-- where each is introduced once, -/
  top : (∀ r, .own r ∈ s.module.bound → r.Admissible) ∧
    ((s.module.bound.filterMap Ident.own?).map fun r => p.ident r.suffix).Nodup
  /-- and a function shadows none of those at the top. -/
  inside : ∀ d ∈ s.module.decls, ∀ r ∈ d.localRoles, r.Admissible ∧
    ∀ r', .own r' ∈ s.module.bound → p.ident r.suffix ≠ p.ident r'.suffix
  /-- It introduces each once if the async file lists each of its exports once. -/
  once : s.bindings.Nodup → ∀ d ∈ s.module.decls,
    (d.localRoles.map fun r => p.ident r.suffix).Nodup

/-- **Wrappers are hygienic**, under every prefix. -/
theorem hygienic (s : Source) (p : HygienePrefix) : s.Hygienic p where
  apart _ _ h h' := Role.ident_inj h.named h'.named
  legal _ h := h.legal p
  foreign r name h he := by
    refine h ⟨r.suffix.toList, ?_⟩
    rw [← he, HygienePrefix.ident, String.toList_append]
  introduced d hd r h := by
    rw [← mem_topRoles_iff]
    exact introduced_of_mem_occurrences hd h
  top := by
    refine ⟨fun r h => admissible_of_mem_topRoles (mem_topRoles_iff.2 h), ?_⟩
    rw [own_bound]
    exact nodup_names_topRoles s p
  inside d hd r hr := by
    have hadmissible := admissible_of_mem_localRoles hd hr
    refine ⟨hadmissible, fun r' hr' he => ?_⟩
    have htop := mem_topRoles_iff.2 hr'
    have hsame := Role.ident_inj hadmissible.named (named_of_mem_topRoles htop) he
    exact not_mem_topRoles_of_mem_localRoles hd hr (hsame ▸ htop)
  once h d hd := by
    refine (nodup_localRoles h hd).map_on fun r hr r' hr' he => ?_
    exact Role.ident_inj (admissible_of_mem_localRoles hd hr).named
      (admissible_of_mem_localRoles hd hr').named he

end Source

end Wrapper

end ViewLayers
