import Mathlib.Data.List.Induction
import ViewLayers.Proofs.Path.Places
import ViewLayers.Registry

/-!
The keys of a registry. It holds one component for each normal form of a directory, the last one of
those it was made from; so it tells directories apart as far as their normal forms do, which is all
but how far they climb above the directory they start from.
-/

namespace ViewLayers

namespace Catalog

variable {κ : Type} {directory : κ → Path} {k : Catalog κ} {c : κ} {cs : List κ}

/-- The last thing of a list whose directory has the given normal form. -/
def lastAt (directory : κ → Path) (cs : List κ) (key : Path) : Option κ :=
  cs.reverse.find? fun c => (directory c).normalize = key

lemma find?_insert (k : Catalog κ) (dir : Path) (c : κ) (key : Path) :
    (k.insert dir c).find? key =
      if dir.normalize.steps = key.steps then some c else k.find? key := by
  have hkept : (k.components.filter fun e => e.1.steps ≠ dir.normalize.steps).find?
      (fun e => e.1.steps = key.steps) = if dir.normalize.steps = key.steps then none
        else k.components.find? fun e => e.1.steps = key.steps := by
    split
    · rename_i h
      refine List.find?_eq_none.2 fun e he hkey => ?_
      exact of_decide_eq_true (List.mem_filter.1 he).2 ((of_decide_eq_true hkey).trans h.symm)
    · rename_i h
      rw [List.find?_filter]
      congr 1
      funext e
      by_cases he : e.1.steps = key.steps
      · simp [he, Ne.symm h]
      · simp [he]
  rw [insert, find?]
  dsimp only
  rw [List.find?_append, hkept]
  split
  · rename_i h
    simp [h]
  · rename_i h
    simp [h, find?]

lemma ofList_concat (directory : κ → Path) (cs : List κ) (c : κ) :
    ofList directory (cs ++ [c]) = (ofList directory cs).insert (directory c) c := by
  simp [ofList]

/-- **A catalog finds the last thing** with the steps of a key. -/
theorem find?_ofList (directory : κ → Path) (cs : List κ) (key : Path) :
    (ofList directory cs).find? key =
      cs.reverse.find? fun c => (directory c).normalize.steps = key.steps := by
  induction cs using List.reverseRecOn with
  | nil => rfl
  | append_singleton cs c ih =>
    rw [ofList_concat, find?_insert, ih, List.reverse_concat, List.find?_cons]
    split <;> simp_all

lemma find?_normalize (p : Path) :
    (ofList directory cs).find? p.normalize = lastAt directory cs p.normalize := by
  have hsame : ∀ c : κ, decide ((directory c).normalize.steps = p.normalize.steps) =
      decide ((directory c).normalize = p.normalize) := fun c => by
    rw [decide_eq_decide, Path.steps_normalize_eq_iff, Path.normalize_eq_iff]
  rw [find?_ofList, lastAt]
  simp only [hsame]

lemma mem_of_lastAt {key : Path} (h : lastAt directory cs key = some c) :
    c ∈ cs ∧ (directory c).normalize = key := by
  have hkey := List.find?_some h
  exact ⟨List.mem_reverse.1 (List.mem_of_find?_eq_some h), of_decide_eq_true hkey⟩

lemma exists_lastAt {key : Path} (h : c ∈ cs) (hc : (directory c).normalize = key) :
    ∃ c', lastAt directory cs key = some c' := by
  rw [← Option.isSome_iff_exists, lastAt, List.find?_isSome]
  exact ⟨c, List.mem_reverse.2 h, decide_eq_true hc⟩

/-! ### The entries -/

lemma key_of_mem (cs : List κ) {e : Path × κ} (h : e ∈ (ofList directory cs).components) :
    e.1 = (directory e.2).normalize := by
  induction cs using List.reverseRecOn with
  | nil => simp [ofList] at h
  | append_singleton cs c ih =>
    rw [ofList_concat, insert] at h
    rcases List.mem_append.1 h with h | h
    · exact ih (List.mem_of_mem_filter h)
    · rw [List.mem_singleton.1 h]

lemma nodup_keys (directory : κ → Path) (cs : List κ) :
    ((ofList directory cs).components.map Prod.fst).Nodup := by
  induction cs using List.reverseRecOn with
  | nil => exact List.nodup_nil
  | append_singleton cs c ih =>
    rw [ofList_concat, insert, List.map_append, List.map_singleton]
    refine List.nodup_append.2 ⟨ih.sublist ((List.filter_sublist ..).map _),
      by simp, fun key hkey key' hkey' he => ?_⟩
    obtain ⟨e, he', rfl⟩ := List.mem_map.1 hkey
    have hsteps := of_decide_eq_true (List.mem_filter.1 he').2
    rw [List.mem_singleton.1 hkey'] at he
    exact hsteps (congrArg Path.steps he)

lemma mem_keys_iff {key : Path} : key ∈ (ofList directory cs).components.map Prod.fst ↔
    ∃ c ∈ cs, (directory c).normalize = key := by
  induction cs using List.reverseRecOn with
  | nil => simp [ofList]
  | append_singleton cs c ih =>
    rw [ofList_concat, insert, List.map_append, List.mem_append, List.map_singleton,
      List.mem_singleton]
    simp only [List.mem_append, List.mem_singleton, or_and_right, exists_or, exists_eq_left]
    rw [← ih]
    constructor
    · rintro (h | rfl)
      · obtain ⟨e, he, rfl⟩ := List.mem_map.1 h
        exact .inl (List.mem_map_of_mem (List.mem_of_mem_filter he))
      · exact .inr rfl
    · rintro (h | rfl)
      · by_cases hc : (directory c).normalize = key
        · exact .inr hc.symm
        · obtain ⟨e, he, rfl⟩ := List.mem_map.1 h
          refine .inl (List.mem_map_of_mem (List.mem_filter.2 ⟨he, decide_eq_true fun hs => hc ?_⟩))
          rw [key_of_mem cs he] at hs ⊢
          exact (Path.normalize_eq_iff.2 (Path.steps_normalize_eq_iff.1 hs)).symm
      · exact .inr rfl

end Catalog

namespace Registry

open Catalog

variable {r : Registry} {c : Component} {cs : List Component} {root : Path} {options : Options}

/-- The last component of a list whose directory has the given normal form. -/
def lastAt (cs : List Component) (key : Path) : Option Component :=
  Catalog.lastAt Component.directory cs key

/-! ### Directories -/

structure KeysByPlace (r : Registry) (cs : List Component) : Prop where
  nodup : (r.components.map Prod.fst).Nodup
  /-- There is a key for every normal form, and no other. -/
  mem_iff : ∀ key, key ∈ r.components.map Prod.fst ↔ ∃ c ∈ cs, c.directory.normalize = key
  /-- Under it is the last component of the list that has it. -/
  last : ∀ d, r.get? d = lastAt cs d.normalize
  /-- No component is lost to one in a different directory, iff there are no two that only differ
  in how far they climb. -/
  kept_iff : (∀ c ∈ cs, ∃ c', r.get? c.directory = some c' ∧ c'.directory.SamePlace c.directory) ↔
    ∀ c ∈ cs, ∀ c' ∈ cs, c.directory.normalize = c'.directory.normalize →
      c.directory.climbs = c'.directory.climbs
  /-- A directory is answered for by a component of its own, iff that climbs as far. -/
  answered_iff : ∀ d c, r.get? d = some c →
    (c.directory.SamePlace d ↔ c.directory.climbs = d.climbs)

lemma get?_ofList (root : Path) (options : Options) (cs : List Component) (d : Path) :
    (ofList root options cs).get? d = lastAt cs d.normalize :=
  find?_normalize d

lemma samePlace_of_get? {d : Path} (h : (ofList root options cs).get? d = some c) :
    c.directory.SamePlace d ↔ c.directory.climbs = d.climbs := by
  rw [get?_ofList] at h
  rw [Path.samePlace_iff, and_iff_right (mem_of_lastAt h).2]

/-- **The keys of a registry tell two directories apart iff their normal forms do**, which they do
for absolute paths, and for relative ones that climb equally far. -/
theorem keys_tell_apart_but_for_climbs (root : Path) (options : Options) (cs : List Component) :
    (∀ p q : Path, p.SamePlace q ↔ p.normalize = q.normalize ∧ p.climbs = q.climbs) ∧
    (∀ p q : Path, p.isAbsolute = true → q.isAbsolute = true →
      (p.SamePlace q ↔ p.normalize = q.normalize)) ∧
    KeysByPlace (ofList root options cs) cs := by
  have habs : ∀ p : Path, p.isAbsolute = true → p.climbs = 0 := fun p hp => if_pos hp
  refine ⟨fun p q => Path.samePlace_iff, fun p q hp hq => ?_, ?_⟩
  · rw [Path.samePlace_iff, habs p hp, habs q hq, and_iff_left rfl]
  · refine
      { nodup := nodup_keys Component.directory cs
        mem_iff := fun _ => mem_keys_iff
        last := get?_ofList root options cs
        kept_iff := ⟨fun h c hc c' hc' he => ?_, fun h c hc => ?_⟩
        answered_iff := fun d c h => samePlace_of_get? h }
    · -- both have found the same component in their own directories
      obtain ⟨x, hx, hplace⟩ := h c hc
      obtain ⟨x', hx', hplace'⟩ := h c' hc'
      rw [samePlace_of_get? hx] at hplace
      rw [samePlace_of_get? hx'] at hplace'
      rw [get?_ofList, he, ← get?_ofList root options, hx',
        Option.some.injEq] at hx
      rw [← hplace, ← hplace', hx]
    · obtain ⟨c', hc'⟩ : ∃ c', lastAt cs c.directory.normalize = some c' := exists_lastAt hc rfl
      obtain ⟨hmem, hkey⟩ := mem_of_lastAt hc'
      have hget : (ofList root options cs).get? c.directory = some c' := by rw [get?_ofList, hc']
      exact ⟨c', hget, (samePlace_of_get? hget).2 (h c' hmem c hc hkey)⟩

end Registry

end ViewLayers
