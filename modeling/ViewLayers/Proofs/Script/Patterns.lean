import Mathlib.Data.List.Flatten
import ViewLayers.Script.Exports

/-!
The names that patterns bind. A name is bound where the tree of the pattern ends in it, and of these
places exports take up all that have no default value above them, in their order and each once.
-/

namespace ViewLayers.Script

namespace Pattern

variable {p q : Pattern} {qs : List (Option Pattern)} {i : Nat} {place : List Nat}

/-! ### Places in a pattern -/

/-- What stands in a pattern, in the order of the source. Holes are counted. -/
def parts : Pattern → List (Option Pattern)
  | .name _ => []
  | .object fields rest => fields.map some ++ rest.toList.map some
  | .array items rest => items ++ rest.toList.map some
  | .withDefault target => [some target]

/-- The pattern at a place, which is given by the numbers of the parts on the way to it. -/
def at? (p : Pattern) : List Nat → Option Pattern
  | [] => some p
  | i :: place => p.parts[i]?.join.bind (·.at? place)

/-- A default value stands on the way to a place. -/
def UnderDefault (p : Pattern) (place : List Nat) : Prop :=
  ∃ above target, above <+: place ∧ p.at? above = some (.withDefault target)

structure Binding where
  place : List Nat
  /-- Whether a default value stands above the name. -/
  defaulted : Bool
  name : String

/-- The pattern binds a name at its place. -/
def Binds (p : Pattern) (b : Binding) : Prop :=
  p.at? b.place = some (.name b.name) ∧ (b.defaulted = true ↔ p.UnderDefault b.place)

/-- The binding in the pattern whose part of number `i` it is in. -/
def Binding.under (i : Nat) (b : Binding) : Binding := { b with place := i :: b.place }

def Binding.withDefault (b : Binding) : Binding := { b with defaulted := true }

mutual

/-- All names that a pattern binds. -/
def bound : Pattern → List Binding
  | .name id => [⟨[], false, id⟩]
  | .object fields rest => boundOfList 0 fields ++ boundOfOption fields.length rest
  | .array items rest => boundOfItems 0 items ++ boundOfOption items.length rest
  | .withDefault target => (target.bound.map (Binding.under 0)).map Binding.withDefault

def boundOfList (i : Nat) : List Pattern → List Binding
  | [] => []
  | p :: ps => p.bound.map (Binding.under i) ++ boundOfList (i + 1) ps

def boundOfOption (i : Nat) : Option Pattern → List Binding
  | none => []
  | some p => p.bound.map (Binding.under i)

def boundOfItems (i : Nat) : List (Option Pattern) → List Binding
  | [] => []
  | p :: ps => boundOfOption i p ++ boundOfItems (i + 1) ps

end

/-! ### Through the parts of a pattern -/

lemma sizeOf_lt_of_mem_parts (h : some q ∈ p.parts) : sizeOf q < sizeOf p := by
  cases p with
  | name id => simp [parts] at h
  | object fields rest =>
    rw [object.sizeOf_spec]
    rcases List.mem_append.1 h with h | h
    · obtain ⟨f, hf, he⟩ := List.mem_map.1 h
      cases he
      have := List.sizeOf_lt_of_mem hf
      omega
    · obtain ⟨r, hr, he⟩ := List.mem_map.1 h
      cases he
      obtain rfl := Option.mem_toList.1 hr
      simp only [Option.some.sizeOf_spec]
      omega
  | array items rest =>
    rw [array.sizeOf_spec]
    rcases List.mem_append.1 h with h | h
    · have := List.sizeOf_lt_of_mem h
      simp only [Option.some.sizeOf_spec] at this
      omega
    · obtain ⟨r, hr, he⟩ := List.mem_map.1 h
      cases he
      obtain rfl := Option.mem_toList.1 hr
      simp only [Option.some.sizeOf_spec]
      omega
  | withDefault target =>
    obtain rfl : q = target := by simpa [parts] using h
    rw [withDefault.sizeOf_spec]
    omega

/-- What the parts of every pattern hand on to it holds of all patterns. -/
theorem induction_parts {motive : Pattern → Prop}
    (h : ∀ p, (∀ q, some q ∈ p.parts → motive q) → motive p) (p : Pattern) : motive p :=
  h p fun q hq =>
    have := sizeOf_lt_of_mem_parts hq
    induction_parts h q
termination_by sizeOf p

lemma boundOfItems_append (i : Nat) (qs rs : List (Option Pattern)) :
    boundOfItems i (qs ++ rs) = boundOfItems i qs ++ boundOfItems (i + qs.length) rs := by
  induction qs generalizing i with
  | nil => rfl
  | cons q qs ih =>
    rw [List.cons_append, boundOfItems, boundOfItems, ih, List.append_assoc, List.length_cons,
      Nat.add_right_comm, Nat.add_assoc]

lemma boundOfList_eq (i : Nat) (ps : List Pattern) :
    boundOfList i ps = boundOfItems i (ps.map some) := by
  induction ps generalizing i with
  | nil => rfl
  | cons p ps ih => rw [boundOfList, ih, List.map_cons, boundOfItems, boundOfOption]

lemma boundOfOption_eq (i : Nat) (rest : Option Pattern) :
    boundOfOption i rest = boundOfItems i (rest.toList.map some) := by
  cases rest <;> simp [boundOfOption, boundOfItems]

lemma bound_eq (p : Pattern) : p.bound = match p with
    | .name id => [⟨[], false, id⟩]
    | .withDefault _ => (boundOfItems 0 p.parts).map Binding.withDefault
    | _ => boundOfItems 0 p.parts := by
  cases p with
  | name id => rfl
  | object fields rest =>
    rw [bound, boundOfList_eq, boundOfOption_eq]
    dsimp only
    rw [parts, boundOfItems_append, List.length_map, Nat.zero_add]
  | array items rest =>
    rw [bound, boundOfOption_eq]
    dsimp only
    rw [parts, boundOfItems_append, Nat.zero_add]
  | withDefault target => simp [bound, parts, boundOfItems, boundOfOption]

lemma mem_boundOfItems_iff {b : Binding} : b ∈ boundOfItems i qs ↔
    ∃ (j : Nat) (q : Pattern) (c : Binding),
      qs[j]? = some (some q) ∧ c ∈ q.bound ∧ c.under (i + j) = b := by
  induction qs generalizing i with
  | nil => simp [boundOfItems]
  | cons q qs ih =>
    rw [boundOfItems, List.mem_append, ih]
    constructor
    · rintro (h | ⟨j, q', c, hq, hc, rfl⟩)
      · cases q with
        | none => simp [boundOfOption] at h
        | some q =>
          obtain ⟨c, hc, rfl⟩ := List.mem_map.1 h
          exact ⟨0, q, c, rfl, hc, rfl⟩
      · exact ⟨j + 1, q', c, hq, hc, by rw [Nat.add_right_comm, Nat.add_assoc]⟩
    · rintro ⟨j, q', c, hq, hc, rfl⟩
      cases j with
      | zero =>
        obtain rfl : q = some q' := by simpa using hq
        exact .inl (List.mem_map_of_mem hc)
      | succ j =>
        refine .inr ⟨j, q', c, by simpa using hq, hc, ?_⟩
        rw [Nat.add_right_comm, Nat.add_assoc]

/-! ### In the order of the source -/

lemma pairwise_boundOfItems (h : ∀ q, some q ∈ qs → q.bound.Pairwise (·.place < ·.place)) :
    (boundOfItems i qs).Pairwise (·.place < ·.place) := by
  induction qs generalizing i with
  | nil => exact .nil
  | cons q qs ih =>
    rw [boundOfItems]
    refine List.pairwise_append.2 ⟨?_, ih fun q' hq' => h q' (List.mem_cons_of_mem _ hq'), ?_⟩
    · cases q with
      | none => exact .nil
      | some q =>
        refine (h q List.mem_cons_self).map _ fun b b' hlt => ?_
        exact List.cons_lt_cons_iff.2 (.inr ⟨rfl, hlt⟩)
    · intro b hb b' hb'
      cases q with
      | none => simp [boundOfOption] at hb
      | some q =>
        obtain ⟨c, -, rfl⟩ := List.mem_map.1 hb
        obtain ⟨j, _, c', -, -, rfl⟩ := mem_boundOfItems_iff.1 hb'
        exact List.cons_lt_cons_iff.2 (.inl (by omega))

/-- **Names are listed in the order of their places**, so each once. -/
theorem pairwise_bound (p : Pattern) : p.bound.Pairwise (·.place < ·.place) := by
  induction p using induction_parts with
  | h p ih =>
    have hitems : (boundOfItems 0 p.parts).Pairwise (·.place < ·.place) := pairwise_boundOfItems ih
    rw [bound_eq]
    split
    · exact List.pairwise_singleton ..
    · exact hitems.map _ fun _ _ hlt => hlt
    · exact hitems

/-! ### Exactly what is bound -/

lemma at?_cons_eq_some_iff {r : Pattern} : p.at? (i :: place) = some r ↔
    ∃ q, p.parts[i]? = some (some q) ∧ q.at? place = some r := by
  rw [at?, Option.bind_eq_some_iff]
  simp only [Option.join_eq_some_iff]

lemma underDefault_nil_iff : p.UnderDefault [] ↔ ∃ target, p = .withDefault target := by
  simp [UnderDefault, at?]

lemma underDefault_cons_iff : p.UnderDefault (i :: place) ↔ (∃ target, p = .withDefault target) ∨
    ∃ q, p.parts[i]? = some (some q) ∧ q.UnderDefault place := by
  constructor
  · rintro ⟨above, target, hpre, hat⟩
    cases above with
    | nil => exact .inl ⟨target, Option.some.inj hat⟩
    | cons j above =>
      obtain ⟨rfl, hbelow⟩ := List.cons_prefix_cons.1 hpre
      obtain ⟨q, hq, hat⟩ := at?_cons_eq_some_iff.1 hat
      exact .inr ⟨q, hq, above, target, hbelow, hat⟩
  · rintro (⟨target, rfl⟩ | ⟨q, hq, above, target, hpre, hat⟩)
    · exact ⟨[], target, List.nil_prefix, rfl⟩
    · exact ⟨i :: above, target, List.cons_prefix_cons.2 ⟨rfl, hpre⟩,
        at?_cons_eq_some_iff.2 ⟨q, hq, hat⟩⟩

lemma binds_name_iff {id : String} {b : Binding} :
    (name id).Binds b ↔ b = ⟨[], false, id⟩ := by
  obtain ⟨place, d, n⟩ := b
  cases place with
  | nil => simp [Binds, at?, underDefault_nil_iff, eq_comm, and_comm]
  | cons i place => simp [Binds, at?, parts]

lemma not_binds_nil {b : Binding} (hp : ∀ id, p ≠ .name id) (hb : b.place = []) :
    ¬ p.Binds b := by
  rintro ⟨hat, -⟩
  rw [hb, at?, Option.some.injEq] at hat
  exact hp _ hat

lemma binds_under_iff {b : Binding} (hp : ∀ target, p ≠ .withDefault target) :
    p.Binds (b.under i) ↔ ∃ q, p.parts[i]? = some (some q) ∧ q.Binds b := by
  rw [Binds, Binding.under, at?_cons_eq_some_iff, underDefault_cons_iff,
    or_iff_right fun ⟨target, h⟩ => hp target h]
  constructor
  · rintro ⟨⟨q, hq, hat⟩, hdef⟩
    refine ⟨q, hq, hat, hdef.trans ⟨?_, fun h => ⟨q, hq, h⟩⟩⟩
    rintro ⟨q', hq', h⟩
    obtain rfl : q = q' := by simpa [hq] using hq'
    exact h
  · rintro ⟨q, hq, hat, hdef⟩
    refine ⟨⟨q, hq, hat⟩, hdef.trans ⟨fun h => ⟨q, hq, h⟩, ?_⟩⟩
    rintro ⟨q', hq', h⟩
    obtain rfl : q = q' := by simpa [hq] using hq'
    exact h

lemma binds_withDefault_iff {target : Pattern} {b : Binding} :
    (withDefault target).Binds b ↔ ∃ c, target.Binds c ∧ (c.under 0).withDefault = b := by
  obtain ⟨place, d, n⟩ := b
  cases place with
  | nil =>
    have hnot : ¬ (withDefault target).Binds ⟨[], d, n⟩ := not_binds_nil nofun rfl
    refine ⟨fun h => absurd h hnot, ?_⟩
    rintro ⟨c, -, h⟩
    cases h
  | cons i place =>
    have hdefault : (withDefault target).UnderDefault (i :: place) :=
      underDefault_cons_iff.2 (.inl ⟨target, rfl⟩)
    simp only [Binds, at?_cons_eq_some_iff, hdefault, iff_true]
    constructor
    · rintro ⟨⟨q, hq, hat⟩, rfl⟩
      obtain ⟨rfl, rfl⟩ : i = 0 ∧ target = q := by
        cases i <;> simp_all [parts]
      obtain ⟨d, hd⟩ : ∃ d : Bool, d = true ↔ target.UnderDefault place := by
        classical exact ⟨decide _, decide_eq_true_iff⟩
      exact ⟨⟨place, d, n⟩, ⟨hat, hd⟩, rfl⟩
    · rintro ⟨c, hc, h⟩
      cases h
      exact ⟨⟨target, rfl, hc.1⟩, rfl⟩

/-- **The names that are listed are those that are bound.** -/
theorem mem_bound_iff {b : Binding} : b ∈ p.bound ↔ p.Binds b := by
  induction p using induction_parts generalizing b with
  | h p ih =>
    have hitems : ∀ {b}, b ∈ boundOfItems 0 p.parts ↔
        ∃ (j : Nat) (q : Pattern) (c : Binding),
          p.parts[j]? = some (some q) ∧ q.Binds c ∧ c.under j = b := by
      intro b
      rw [mem_boundOfItems_iff]
      simp only [Nat.zero_add]
      refine exists_congr fun j => exists_congr fun q => exists_congr fun c =>
        and_congr_right fun hq => and_congr_left' (ih q (List.mem_of_getElem? hq))
    have hparts : (∀ id, p ≠ .name id) → (∀ target, p ≠ .withDefault target) →
        (b ∈ boundOfItems 0 p.parts ↔ p.Binds b) := by
      intro hname hdef
      rw [hitems]
      constructor
      · rintro ⟨j, q, c, hq, hc, rfl⟩
        exact (binds_under_iff hdef).2 ⟨q, hq, hc⟩
      · intro h
        -- only a name is bound in the pattern itself and not in a part of it
        obtain ⟨place, d, n⟩ := b
        cases place with
        | nil => exact absurd h (not_binds_nil hname rfl)
        | cons j place =>
          obtain ⟨q, hq, hc⟩ := (binds_under_iff (b := ⟨place, d, n⟩) hdef).1 h
          exact ⟨j, q, _, hq, hc, rfl⟩
    rw [bound_eq]
    cases p with
    | name id => rw [binds_name_iff, List.mem_singleton]
    | object fields rest => exact hparts nofun nofun
    | array items rest => exact hparts nofun nofun
    | withDefault target =>
      rw [binds_withDefault_iff, List.mem_map]
      constructor
      · rintro ⟨b, hb, rfl⟩
        obtain ⟨j, q, c, hq, hc, rfl⟩ := hitems.1 hb
        obtain ⟨rfl, rfl⟩ : j = 0 ∧ target = q := by
          cases j <;> simp_all [parts]
        exact ⟨c, hc, rfl⟩
      · rintro ⟨c, hc, rfl⟩
        exact ⟨c.under 0, hitems.2 ⟨0, target, c, rfl, hc, rfl⟩, rfl⟩

/-! ### What is listed of it -/

lemma plainNamesOfItems_append (qs rs : List (Option Pattern)) :
    plainNamesOfItems (qs ++ rs) = plainNamesOfItems qs ++ plainNamesOfItems rs := by
  induction qs with
  | nil => rfl
  | cons q qs ih => rw [List.cons_append, plainNamesOfItems, plainNamesOfItems, ih,
      List.append_assoc]

lemma plainNamesOfList_eq (ps : List Pattern) :
    plainNamesOfList ps = plainNamesOfItems (ps.map some) := by
  induction ps with
  | nil => rfl
  | cons p ps ih => rw [plainNamesOfList, ih, List.map_cons, plainNamesOfItems, plainNamesOfOption]

lemma plainNamesOfOption_eq (rest : Option Pattern) :
    plainNamesOfOption rest = plainNamesOfItems (rest.toList.map some) := by
  cases rest <;> simp [plainNamesOfOption, plainNamesOfItems]

/-- The names of bindings that have no default value above them. -/
def plain (bs : List Binding) : List String := (bs.filter (!·.defaulted)).map Binding.name

lemma plain_under (i : Nat) (bs : List Binding) : plain (bs.map (Binding.under i)) = plain bs := by
  rw [plain, plain, List.filter_map, List.map_map]
  rfl

lemma plain_boundOfItems (h : ∀ q, some q ∈ qs → q.plainNames = plain q.bound) :
    plainNamesOfItems qs = plain (boundOfItems i qs) := by
  induction qs generalizing i with
  | nil => rfl
  | cons q qs ih =>
    have hrest := ih (i := i + 1) fun q' hq' => h q' (List.mem_cons_of_mem _ hq')
    have hfirst : plainNamesOfOption q = plain (boundOfOption i q) := by
      cases q with
      | none => rfl
      | some q => rw [plainNamesOfOption, boundOfOption, plain_under, h q List.mem_cons_self]
    rw [plainNamesOfItems, boundOfItems, hfirst, hrest, plain, plain, plain, List.filter_append,
      List.map_append]

/-- **What is listed of a pattern** is what it binds without a default value above it. -/
theorem plainNames_eq (p : Pattern) : p.plainNames = plain p.bound := by
  induction p using induction_parts with
  | h p ih =>
    have hitems : plainNamesOfItems p.parts = plain (boundOfItems 0 p.parts) :=
      plain_boundOfItems ih
    rw [bound_eq]
    cases p with
    | name id => rfl
    | object fields rest =>
      rw [← hitems, plainNames, parts, plainNamesOfItems_append, plainNamesOfList_eq,
        plainNamesOfOption_eq]
    | array items rest =>
      rw [← hitems, plainNames, parts, plainNamesOfItems_append, plainNamesOfOption_eq]
    | withDefault target =>
      have hnone : ∀ bs : List Binding, (bs.map Binding.withDefault).filter (!·.defaulted) = [] :=
        fun bs => by simp [Binding.withDefault]
      rw [plainNames, plain, hnone, List.map_nil]

structure Listed (p : Pattern) : Prop where
  /-- Names come in the order of their places, so each once. -/
  inOrder : p.bound.Pairwise (·.place < ·.place)
  mem_iff : ∀ b, b ∈ p.bound ↔ p.Binds b
  plainNames_eq : p.plainNames = plain p.bound
  /-- None is left out iff none stands under a default value. -/
  complete_iff : p.plainNames = p.bound.map Binding.name ↔
    ∀ place id, p.at? place = some (.name id) → ¬ p.UnderDefault place

lemma plain_eq_map_iff {bs : List Binding} :
    plain bs = bs.map Binding.name ↔ ∀ b ∈ bs, b.defaulted = false := by
  rw [plain]
  constructor
  · intro h b hb
    have hlength := congrArg List.length h
    rw [List.length_map, List.length_map, List.length_filter_eq_length_iff] at hlength
    simpa using hlength b hb
  · intro h
    rw [List.filter_eq_self.2 fun b hb => by simp [h b hb]]

lemma plainNames_eq_iff : p.plainNames = p.bound.map Binding.name ↔
    ∀ place id, p.at? place = some (.name id) → ¬ p.UnderDefault place := by
  rw [plainNames_eq, plain_eq_map_iff]
  constructor
  · intro h place id hat hunder
    have hmem : ⟨place, true, id⟩ ∈ p.bound := mem_bound_iff.2 ⟨hat, by simp [hunder]⟩
    exact Bool.noConfusion (h _ hmem)
  · intro h b hb
    obtain ⟨hat, hdef⟩ := mem_bound_iff.1 hb
    exact Bool.eq_false_iff.2 fun hb => h _ _ hat (hdef.1 hb)

lemma listed (p : Pattern) : p.Listed :=
  ⟨pairwise_bound p, fun _ => mem_bound_iff, plainNames_eq p, plainNames_eq_iff⟩

lemma plainNames_sublist (p : Pattern) : p.plainNames.Sublist (p.bound.map Binding.name) := by
  rw [plainNames_eq]
  exact List.filter_sublist.map _

end Pattern

/-! ### Scripts -/

open Pattern

/-- The names of all values that an item exports. -/
def Item.boundNames : Item → List String
  | .declaration (.bindings ps) false => ps.flatMap fun p => p.bound.map Binding.name
  | item => item.names

/-- The names of all values that a script exports under their own name. -/
def boundExports (dialect : Dialect) (source : String) : List String :=
  ((parse dialect source).getD []).flatMap Item.boundNames

/-- The pattern of a variable that a script exports where it declares it. -/
def Exports (dialect : Dialect) (source : String) (p : Pattern) : Prop :=
  ∃ items ps, parse dialect source = some items ∧
    Item.declaration (.bindings ps) false ∈ items ∧ p ∈ ps

section

variable {α β : Type} {f g : α → List β} {l : List α}

/-- Parts that are left out of lists are missing when these are put together. -/
lemma flatMap_eq_iff_of_sublist (h : ∀ a ∈ l, (f a).Sublist (g a)) :
    l.flatMap f = l.flatMap g ↔ ∀ a ∈ l, f a = g a := by
  induction l with
  | nil => simp
  | cons a l ih =>
    rw [List.forall_mem_cons] at h
    rw [List.flatMap_cons, List.flatMap_cons, List.forall_mem_cons, ← ih h.2]
    constructor
    · intro heq
      have hlength := congrArg List.length heq
      rw [List.length_append, List.length_append] at hlength
      have hle := h.1.length_le
      have hle' := (List.Sublist.flatMap_right l h.2).length_le
      have hfirst : f a = g a := h.1.eq_of_length (by omega)
      rw [hfirst] at heq
      exact ⟨hfirst, List.append_cancel_left heq⟩
    · rintro ⟨hfirst, hrest⟩
      rw [hfirst, hrest]

end

lemma Item.names_sublist (item : Item) : item.names.Sublist item.boundNames := by
  unfold boundNames
  split
  · exact List.Sublist.flatMap_right _ fun p _ => plainNames_sublist p
  · exact .refl _

lemma Item.names_eq_iff (item : Item) : item.names = item.boundNames ↔
    ∀ ps, item = .declaration (.bindings ps) false →
      ∀ p ∈ ps, p.plainNames = p.bound.map Binding.name := by
  unfold boundNames
  split
  · rename_i ps
    refine Iff.trans (flatMap_eq_iff_of_sublist fun p _ => plainNames_sublist p) ?_
    simp
  · rename_i hnot
    exact iff_of_true rfl fun ps h => absurd h (hnot ps)

/-- **A script's exports are listed but for names under default values.** Of every pattern the names
without a default value above them are listed, in the order of the source and each once. So the
exports of a script are a part of the names that it exports, and all of them iff no name in a
variable that it exports where it declares it stands under a default value. -/
theorem lists_exports_but_defaulted (dialect : Dialect) (source : String) :
    (∀ p : Pattern, p.Listed) ∧
    (exportNames dialect source).Sublist (boundExports dialect source) ∧
    (exportNames dialect source = boundExports dialect source ↔
      ∀ p, Exports dialect source p →
        ∀ place id, p.at? place = some (.name id) → ¬ p.UnderDefault place) := by
  refine ⟨listed, List.Sublist.flatMap_right _ fun item _ => item.names_sublist, ?_⟩
  rw [exportNames, boundExports, flatMap_eq_iff_of_sublist fun item _ => item.names_sublist]
  simp only [Item.names_eq_iff, plainNames_eq_iff]
  constructor
  · rintro h p ⟨items, ps, hparse, hmem, hp⟩
    rw [hparse, Option.getD_some] at h
    exact h _ hmem ps rfl p hp
  · rintro h item hitem ps rfl p hp
    cases hparse : parse dialect source with
    | none => simp [hparse] at hitem
    | some items => exact h p ⟨items, ps, hparse, by simpa [hparse] using hitem, hp⟩

example : (Pattern.object [.withDefault (.name "a"), .name "b"] none).plainNames = ["b"] := rfl

end ViewLayers.Script
