import Mathlib.Data.List.Sort
import ViewLayers.Dict
import ViewLayers.Proofs.Text.Bytes

/-!
Dictionaries through their lookups. A dictionary is what it answers for each key, and the first and
the last of its entries with some property are those with the least and the greatest key.
-/

namespace ViewLayers

open Text

lemma find?_eq_some_iff_of_pairwise {α : Type} {r : α → α → Prop} (hr : ∀ a b, r a b → ¬ r b a)
    {l : List α} (hl : l.Pairwise r) {p : α → Bool} {a : α} :
    l.find? p = some a ↔ a ∈ l ∧ p a = true ∧ ∀ b ∈ l, p b = true → b = a ∨ r a b := by
  constructor
  · intro h
    refine ⟨List.mem_of_find?_eq_some h, List.find?_some h, fun b hb hp => ?_⟩
    obtain ⟨-, front, back, rfl, hfront⟩ := List.find?_eq_some_iff_append.1 h
    rcases List.mem_append.1 hb with hb | hb
    · have hnot := hfront b hb
      simp [hp] at hnot
    · rcases List.mem_cons.1 hb with rfl | hb
      · exact .inl rfl
      · exact .inr ((List.pairwise_cons.1 (List.pairwise_append.1 hl).2.1).1 b hb)
  · rintro ⟨ha, hp, hleast⟩
    obtain ⟨front, back, rfl⟩ := List.append_of_mem ha
    refine List.find?_eq_some_iff_append.2 ⟨hp, front, back, rfl, fun b hb => ?_⟩
    have hlt : r b a := (List.pairwise_append.1 hl).2.2 b hb a List.mem_cons_self
    cases hpb : p b with
    | false => rfl
    | true =>
      rcases hleast b (List.mem_append_left _ hb) hpb with rfl | hba
      · exact absurd hlt (hr b b hlt)
      · exact absurd hlt (hr a b hba)

namespace Dict

variable {α : Type} {d e : Dict α} {k : String} {a : α}

lemma eq_of_mem_entries {x y : String × α} (hx : x ∈ d.entries) (hy : y ∈ d.entries)
    (h : x.1 = y.1) : x = y := by
  have hnodup : (d.entries.map (·.1)).Nodup := by
    rw [List.Nodup, List.pairwise_map]
    refine d.sorted.imp fun hlt heq => ?_
    rw [heq] at hlt
    exact String.lt_irrefl _ hlt
  exact List.inj_on_of_nodup_map hnodup hx hy h

lemma mem_entries_iff : (k, a) ∈ d.entries ↔ d.get? k = some a := by
  rw [get?, Option.map_eq_some_iff]
  constructor
  · intro h
    have hsome : (d.entries.find? (·.1 == k)).isSome = true :=
      List.find?_isSome.2 ⟨(k, a), h, by simp⟩
    obtain ⟨x, hx⟩ := Option.isSome_iff_exists.1 hsome
    have hkey : x.1 = k := by simpa using List.find?_some hx
    rw [hx, eq_of_mem_entries (List.mem_of_find?_eq_some hx) h hkey]
    exact ⟨_, rfl, rfl⟩
  · rintro ⟨x, hx, rfl⟩
    obtain rfl : x.1 = k := by simpa using List.find?_some hx
    exact List.mem_of_find?_eq_some hx

lemma mem_keys_iff : k ∈ d.keys ↔ ∃ a, d.get? k = some a := by
  simp [keys, ← mem_entries_iff]

structure IsFirst (d : Dict α) (P : String → Prop) (k : String) : Prop where
  mem : k ∈ d.keys
  prop : P k
  least : ∀ k' ∈ d.keys, P k' → k' = k ∨ bytesOf k < bytesOf k'

structure IsLast (d : Dict α) (P : String → Prop) (k : String) : Prop where
  mem : k ∈ d.keys
  prop : P k
  greatest : ∀ k' ∈ d.keys, P k' → k' = k ∨ bytesOf k' < bytesOf k

section Find

variable {p : String → Bool} {P : String → Prop}

lemma find?_eq_some_iff_of_mem_iff {r : String → String → Prop} (hr : ∀ k k', r k k' → ¬ r k' k)
    {es : List (String × α)} (hes : es.Pairwise fun e e' => r e.1 e'.1)
    (hmem : ∀ e, e ∈ es ↔ e ∈ d.entries) (hp : ∀ k, p k = true ↔ P k) :
    (es.find? fun e => p e.1) = some (k, a) ↔
      d.get? k = some a ∧ P k ∧ ∀ k' ∈ d.keys, P k' → k' = k ∨ r k k' := by
  rw [find?_eq_some_iff_of_pairwise (fun _ _ => hr _ _) hes, hmem, mem_entries_iff, hp]
  refine and_congr_right fun ha => and_congr_right fun _ => ?_
  constructor
  · intro h k' hk' hP
    obtain ⟨a', ha'⟩ := mem_keys_iff.1 hk'
    rcases h _ ((hmem _).2 (mem_entries_iff.2 ha')) ((hp k').2 hP) with heq | hlt
    · exact .inl (Prod.mk.inj heq).1
    · exact .inr hlt
  · intro h e he hk'
    have he' := (hmem e).1 he
    rcases h e.1 (mem_keys_iff.2 ⟨e.2, mem_entries_iff.1 he'⟩) ((hp e.1).1 hk') with heq | hlt
    · exact .inl (eq_of_mem_entries he' (mem_entries_iff.2 ha) heq)
    · exact .inr hlt

lemma find?_entries_eq_some_iff (hp : ∀ k, p k = true ↔ P k) :
    (d.entries.find? fun e => p e.1) = some (k, a) ↔ d.IsFirst P k ∧ d.get? k = some a := by
  rw [find?_eq_some_iff_of_mem_iff (r := fun k k' => k < k') (fun _ _ => String.lt_asymm) d.sorted
    (fun _ => Iff.rfl) hp]
  simp only [← bytesOf_lt_iff]
  constructor
  · rintro ⟨ha, hk, hleast⟩
    exact ⟨⟨mem_keys_iff.2 ⟨a, ha⟩, hk, hleast⟩, ha⟩
  · rintro ⟨⟨-, hk, hleast⟩, ha⟩
    exact ⟨ha, hk, hleast⟩

lemma find?_reverse_entries_eq_some_iff (hp : ∀ k, p k = true ↔ P k) :
    (d.entries.reverse.find? fun e => p e.1) = some (k, a) ↔
      d.IsLast P k ∧ d.get? k = some a := by
  rw [find?_eq_some_iff_of_mem_iff (r := fun k k' => k' < k) (fun _ _ => String.lt_asymm)
    (List.pairwise_reverse.2 d.sorted) (fun _ => List.mem_reverse) hp]
  simp only [← bytesOf_lt_iff]
  constructor
  · rintro ⟨ha, hk, hgreatest⟩
    exact ⟨⟨mem_keys_iff.2 ⟨a, ha⟩, hk, hgreatest⟩, ha⟩
  · rintro ⟨⟨-, hk, hgreatest⟩, ha⟩
    exact ⟨ha, hk, hgreatest⟩

lemma find?_entries_eq_none_iff (hp : ∀ k, p k = true ↔ P k) :
    (d.entries.find? fun e => p e.1) = none ↔ ∀ k ∈ d.keys, ¬ P k := by
  rw [List.find?_eq_none]
  constructor
  · intro h k hk hP
    obtain ⟨a, ha⟩ := mem_keys_iff.1 hk
    exact h _ (mem_entries_iff.2 ha) ((hp k).2 hP)
  · intro h e he hk
    exact h e.1 (mem_keys_iff.2 ⟨e.2, mem_entries_iff.1 he⟩) ((hp e.1).1 hk)

lemma find?_reverse_entries_eq_none_iff (hp : ∀ k, p k = true ↔ P k) :
    (d.entries.reverse.find? fun e => p e.1) = none ↔ ∀ k ∈ d.keys, ¬ P k := by
  rw [← find?_entries_eq_none_iff hp, List.find?_eq_none, List.find?_eq_none]
  simp only [List.mem_reverse]

end Find

/-- **Dictionaries that answer alike are equal.** -/
theorem ext_get? (h : ∀ k, d.get? k = e.get? k) : d = e := by
  have : Std.Irrefl fun x y : String × α => x.1 < y.1 := ⟨fun x => String.lt_irrefl x.1⟩
  have : Std.Antisymm fun x y : String × α => x.1 < y.1 :=
    ⟨fun _ _ hxy hyx => absurd hyx (String.lt_asymm hxy)⟩
  refine ext (d.sorted.eq_of_mem_iff e.sorted fun (k, a) => ?_)
  rw [mem_entries_iff, mem_entries_iff, h]

lemma ofList_entries (d : Dict α) : ofList d.entries = d := by
  refine ext_get? fun k => Option.ext fun a => ?_
  rw [get?_ofList, Option.map_eq_some_iff]
  have hp : ∀ k', (k' == k) = true ↔ k' = k := fun _ => beq_iff_eq
  constructor
  · rintro ⟨⟨k', _⟩, hfind, rfl⟩
    obtain ⟨⟨-, rfl, -⟩, hget⟩ := (find?_reverse_entries_eq_some_iff hp).1 hfind
    exact hget
  · intro ha
    exact ⟨(k, a), (find?_reverse_entries_eq_some_iff hp).2
      ⟨⟨mem_keys_iff.2 ⟨a, ha⟩, rfl, fun _ _ h => .inl h⟩, ha⟩, rfl⟩

end Dict

end ViewLayers
