/-!
Dictionaries with text keys, kept and visited in the order of their keys. That order, by code
points, is the order of the keys' UTF-8 bytes.
-/

namespace ViewLayers

/-- Entries with their keys strictly increasing. -/
structure Dict (α : Type) where
  entries : List (String × α)
  sorted : entries.Pairwise (·.1 < ·.1)

namespace Dict

variable {α : Type}

/-- Put an entry in its place, over one with the same key. -/
def insertEntry (k : String) (a : α) : List (String × α) → List (String × α)
  | [] => [(k, a)]
  | (k', a') :: es =>
    if k < k' then (k, a) :: (k', a') :: es
    else if k = k' then (k, a) :: es
    else (k', a') :: insertEntry k a es

theorem mem_insertEntry {k : String} {a : α} {es : List (String × α)} {e : String × α}
    (h : e ∈ insertEntry k a es) : e = (k, a) ∨ e ∈ es := by
  induction es with
  | nil => simpa [insertEntry] using h
  | cons e' es ih =>
    simp only [insertEntry] at h
    split at h
    · simpa using h
    · split at h
      · grind
      · grind

theorem sorted_insertEntry (k : String) (a : α) {es : List (String × α)}
    (h : es.Pairwise (·.1 < ·.1)) : (insertEntry k a es).Pairwise (·.1 < ·.1) := by
  induction es with
  | nil => simp [insertEntry]
  | cons e es ih =>
    obtain ⟨k', a'⟩ := e
    have ⟨h1, h2⟩ := List.pairwise_cons.1 h
    simp only [insertEntry]
    split
    · rename_i hlt
      refine List.pairwise_cons.2 ⟨fun e he => ?_, h⟩
      rcases List.mem_cons.1 he with rfl | he
      · exact hlt
      · exact String.lt_trans hlt (h1 e he)
    · split
      · rename_i heq
        exact List.pairwise_cons.2 ⟨fun e he => heq ▸ h1 e he, h2⟩
      · rename_i hlt hne
        refine List.pairwise_cons.2 ⟨fun e he => ?_, ih h2⟩
        rcases mem_insertEntry he with rfl | he
        · exact Std.lt_of_le_of_ne (String.not_lt.1 hlt) (Ne.symm hne)
        · exact h1 e he

def empty : Dict α := ⟨[], .nil⟩

instance : EmptyCollection (Dict α) := ⟨empty⟩
instance : Inhabited (Dict α) := ⟨empty⟩

def insert (d : Dict α) (k : String) (a : α) : Dict α :=
  ⟨insertEntry k a d.entries, sorted_insertEntry k a d.sorted⟩

def get? (d : Dict α) (k : String) : Option α := (d.entries.find? (·.1 == k)).map (·.2)

def contains (d : Dict α) (k : String) : Bool := (d.get? k).isSome

def isEmpty (d : Dict α) : Bool := d.entries.isEmpty

def keys (d : Dict α) : List String := d.entries.map (·.1)

def values (d : Dict α) : List α := d.entries.map (·.2)

/-- A later entry goes over an earlier one with its key. -/
def ofList (es : List (String × α)) : Dict α := es.foldl (fun d e => d.insert e.1 e.2) empty

/-- The same keys with other values. -/
def map {β : Type} (f : α → β) (d : Dict α) : Dict β :=
  ⟨d.entries.map fun e => (e.1, f e.2), by
    simpa [List.pairwise_map] using d.sorted⟩

theorem ext {d e : Dict α} (h : d.entries = e.entries) : d = e := by
  cases d; cases e; simp_all

instance [DecidableEq α] : DecidableEq (Dict α) := fun d e =>
  if h : d.entries = e.entries then isTrue (ext h) else isFalse fun he => h (he ▸ rfl)

theorem find?_insertEntry (k : String) (a : α) (es : List (String × α)) (x : String) :
    ((insertEntry k a es).find? (·.1 == x)).map (·.2) =
      if k = x then some a else (es.find? (·.1 == x)).map (·.2) := by
  induction es with
  | nil => by_cases h : k = x <;> simp [insertEntry, h]
  | cons e es ih =>
    obtain ⟨k', a'⟩ := e
    simp only [insertEntry]
    split
    · by_cases h : k = x <;> simp [h]
    · split
      · rename_i heq
        subst heq
        by_cases h : k = x <;> simp [h]
      · rename_i hne
        by_cases hk' : k' = x
        · have : ¬ k = x := fun h => hne (h.trans hk'.symm)
          simp [hk', this]
        · simpa [hk'] using ih

theorem get?_insert (d : Dict α) (k : String) (a : α) (x : String) :
    (d.insert k a).get? x = if k = x then some a else d.get? x :=
  find?_insertEntry k a d.entries x

@[simp] theorem get?_empty (x : String) : (empty : Dict α).get? x = none := rfl

/-- Of the entries that are put in one after the other, the last one with a key is kept. -/
theorem get?_foldl_insert (es : List (String × α)) (d : Dict α) (x : String) :
    (es.foldl (fun d e => d.insert e.1 e.2) d).get? x =
      ((es.reverse.find? (·.1 == x)).map (·.2)).or (d.get? x) := by
  induction es generalizing d with
  | nil => rfl
  | cons e es ih =>
    rw [List.foldl_cons, ih, get?_insert, List.reverse_cons, List.find?_append]
    cases es.reverse.find? (·.1 == x) with
    | some e' => rfl
    | none => by_cases h : e.1 = x <;> simp [h]

theorem get?_ofList (es : List (String × α)) (x : String) :
    (ofList es).get? x = (es.reverse.find? (·.1 == x)).map (·.2) := by
  rw [ofList, get?_foldl_insert, get?_empty, Option.or_none]

/-- Entries made from keys by one function answer for each key with what it makes of it. -/
theorem get?_ofList_filterMap {f : String → Option α} {keys : List String}
    {k : String} : (ofList (keys.filterMap fun k => (f k).map (k, ·))).get? k =
      if k ∈ keys then f k else none := by
  have hmem : ∀ e, e ∈ (keys.filterMap fun k => (f k).map (k, ·)) ↔
      e.1 ∈ keys ∧ f e.1 = some e.2 := by
    rintro ⟨k, a⟩
    rw [List.mem_filterMap]
    constructor
    · rintro ⟨k', hk', h⟩
      obtain ⟨b, hb, heq⟩ := Option.map_eq_some_iff.1 h
      cases heq
      exact ⟨hk', hb⟩
    · rintro ⟨hk, ha⟩
      exact ⟨k, hk, by rw [ha, Option.map_some]⟩
  rw [get?_ofList]
  cases h : (keys.filterMap fun k => (f k).map (k, ·)).reverse.find? (·.1 == k) with
  | some e =>
    obtain ⟨hk, ha⟩ := (hmem e).1 (List.mem_reverse.1 (List.mem_of_find?_eq_some h))
    obtain rfl : e.1 = k := by simpa using List.find?_some h
    rw [if_pos hk, ha, Option.map_some]
  | none =>
    rw [Option.map_none]
    split
    · rename_i hk
      cases ha : f k with
      | none => rfl
      | some a =>
        have hnot := List.find?_eq_none.1 h (k, a) (List.mem_reverse.2 ((hmem _).2 ⟨hk, ha⟩))
        simp at hnot
    · rfl

theorem isEmpty_eq_false_iff {d : Dict α} : d.isEmpty = false ↔ ∃ k, d.contains k = true := by
  rw [isEmpty]
  cases h : d.entries with
  | nil => simp [contains, get?, h]
  | cons e es => exact iff_of_true rfl ⟨e.1, by simp [contains, get?, h]⟩

end Dict

end ViewLayers
