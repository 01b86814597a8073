import ViewLayers.Proofs.Path.Below
import ViewLayers.Proofs.Path.Places

/-!
The spot that a path comes to tells which place it means. A step along a name leads one down and a
step up leads one up, except at `/`; so a way with a step up ends less far down than its names alone
lead.
-/

namespace ViewLayers.Path

open FileTree

variable {p q root file : Path} {ss : List Step} {ns : List String}

/-- Whether a path starts from `/`, how far it climbs otherwise, and the names that are left. -/
structure Spot where
  absolute : Bool
  climbs : Nat
  names : List String
deriving DecidableEq

namespace Spot

variable {x : Spot}

/-- One step more. A step up takes the last name; without names it climbs, but not above `/`. -/
def onward (x : Spot) : Step → Spot
  | .root => ⟨true, 0, []⟩
  | .here => x
  | .up =>
    if x.names = [] then
      if x.absolute then x else ⟨x.absolute, x.climbs + 1, []⟩
    else ⟨x.absolute, x.climbs, x.names.dropLast⟩
  | .name n => ⟨x.absolute, x.climbs, x.names ++ [n]⟩

def walk : Walk Spot := ⟨onward, fun _ => rfl, fun _ _ => rfl⟩

/-- The spot of `/`, above which there is nothing. -/
def AtTop (x : Spot) : Prop := x.absolute = true ∧ x.names = []

instance : Decidable x.AtTop := inferInstanceAs (Decidable (_ ∧ _))

/-! ### How far down -/

/-- How many names below the start a spot is; less than none where it climbs. -/
def rank (x : Spot) : Int := x.names.length - x.climbs

lemma up_of_atTop (h : x.AtTop) : x.onward .up = x := by
  rw [onward, if_pos h.2, if_pos h.1]

lemma rank_up (h : ¬ x.AtTop) : (x.onward .up).rank = x.rank - 1 := by
  by_cases hnames : x.names = []
  · have habs : ¬ x.absolute = true := fun habs => h ⟨habs, hnames⟩
    rw [onward, if_pos hnames, if_neg habs, rank, rank, hnames]
    simp only [List.length_nil]
    omega
  · have hpos : 0 < x.names.length := List.length_pos_iff.2 hnames
    rw [onward, if_neg hnames, rank, rank]
    simp only [List.length_dropLast]
    omega

lemma rank_name (n : String) : (x.onward (.name n)).rank = x.rank + 1 := by
  simp only [onward, rank, List.length_append, List.length_singleton]
  omega

lemma not_atTop_name (n : String) : ¬ (x.onward (.name n)).AtTop := by
  simp [onward, AtTop]

lemma foldl_names (x : Spot) (ns : List String) :
    (ns.map Step.name).foldl onward x = ⟨x.absolute, x.climbs, x.names ++ ns⟩ := by
  induction ns generalizing x with
  | nil => simp
  | cons n ns ih =>
    rw [List.map_cons, List.foldl_cons, ih]
    simp [onward]

lemma names_cons (n : String) (ss : List Step) :
    (Step.name n :: ss).filterMap Step.name? = n :: ss.filterMap Step.name? := rfl

/-- Steps lead down by as many names as there are among them at most, -/
lemma rank_foldl_le (x : Spot) (hroot : .root ∉ ss) :
    (ss.foldl onward x).rank ≤ x.rank + (ss.filterMap Step.name?).length := by
  induction ss generalizing x with
  | nil => simp
  | cons s ss ih =>
    rw [List.mem_cons, not_or] at hroot
    have hrest := ih (x.onward s) hroot.2
    rw [List.foldl_cons]
    cases s with
    | root => exact absurd rfl hroot.1
    | here => exact hrest
    | name n =>
      rw [rank_name] at hrest
      rw [names_cons, List.length_cons]
      omega
    | up =>
      rw [List.filterMap_cons_none rfl]
      by_cases htop : x.AtTop
      · rwa [up_of_atTop htop] at hrest ⊢
      · rw [rank_up htop] at hrest
        omega

/-- and by fewer if a step up is among them, unless it is the first from `/`. -/
lemma rank_foldl_lt (hroot : .root ∉ ss) (htop : ¬ x.AtTop) (hup : .up ∈ ss) :
    (ss.foldl onward x).rank < x.rank + (ss.filterMap Step.name?).length := by
  induction ss generalizing x with
  | nil => exact absurd hup List.not_mem_nil
  | cons s ss ih =>
    rw [List.mem_cons, not_or] at hroot
    rw [List.foldl_cons]
    cases s with
    | root => exact absurd rfl hroot.1
    | here => exact ih hroot.2 htop ((List.mem_cons.1 hup).resolve_left nofun)
    | name n =>
      have hrest :=
        ih hroot.2 (not_atTop_name (x := x) n) ((List.mem_cons.1 hup).resolve_left nofun)
      rw [rank_name] at hrest
      rw [names_cons, List.length_cons]
      omega
    | up =>
      have hrest := rank_foldl_le (x.onward .up) hroot.2
      rw [rank_up htop] at hrest
      rw [List.filterMap_cons_none rfl]
      omega

/-! ### A way by its names alone -/

/-- The steps that count on a way: from `/` on, those before the first name lead nowhere. -/
def counted (x : Spot) (ss : List Step) : List Step :=
  if x.AtTop then ss.dropWhile (·.name?.isNone) else ss

lemma counted_subset {s : Step} (h : s ∈ x.counted ss) : s ∈ ss := by
  unfold counted at h
  split at h
  · exact (List.dropWhile_sublist _).subset h
  · exact h

lemma foldl_eq_of_no_up (x : Spot) (hroot : .root ∉ ss) (hup : .up ∉ ss) :
    ss.foldl onward x = ((ss.filterMap Step.name?).map Step.name).foldl onward x := by
  induction ss generalizing x with
  | nil => rfl
  | cons s ss ih =>
    rw [List.mem_cons, not_or] at hroot hup
    cases s with
    | root => exact absurd rfl hroot.1
    | up => exact absurd rfl hup.1
    | here => exact ih x hroot.2 hup.2
    | name n => exact ih (x.onward (.name n)) hroot.2 hup.2

lemma foldl_names_eq_iff_of_not_atTop (hroot : .root ∉ ss) (htop : ¬ x.AtTop) :
    ((ss.filterMap Step.name?).map Step.name).foldl onward x = ss.foldl onward x ↔ .up ∉ ss := by
  refine ⟨fun h hup => ?_, fun hup => (foldl_eq_of_no_up x hroot hup).symm⟩
  have hrank := rank_foldl_lt hroot htop hup
  rw [← h, foldl_names, rank, rank, List.length_append] at hrank
  dsimp only at hrank
  omega

/-- **A way leads where its names alone lead iff no step up counts on it.** -/
theorem foldl_names_eq_iff (hroot : .root ∉ ss) :
    ((ss.filterMap Step.name?).map Step.name).foldl onward x = ss.foldl onward x ↔
      .up ∉ x.counted ss := by
  by_cases htop : x.AtTop
  · rw [counted, if_pos htop]
    induction ss with
    | nil => exact iff_of_true rfl List.not_mem_nil
    | cons s ss ih =>
      rw [List.mem_cons, not_or] at hroot
      cases s with
      | root => exact absurd rfl hroot.1
      | here => exact ih hroot.2
      | up =>
        rw [List.foldl_cons, up_of_atTop htop]
        exact ih hroot.2
      | name n =>
        have hrest := foldl_names_eq_iff_of_not_atTop hroot.2 (not_atTop_name (x := x) n)
        refine hrest.trans (not_congr ?_)
        rw [List.dropWhile_cons_of_neg (by simp [Step.name?]), List.mem_cons]
        exact ⟨.inr, fun h => h.resolve_left nofun⟩
  · rw [counted, if_neg htop]
    exact foldl_names_eq_iff_of_not_atTop hroot htop

end Spot

/-! ### The spot of a path -/

def spot (p : Path) : Spot := ⟨p.isAbsolute, p.climbs, p.names⟩

lemma spot_eq (p : Path) : p.spot = Spot.walk.along ⟨false, 0, []⟩ p := by
  have hmoves : ∀ absolute, p.moves.foldl Spot.onward ⟨absolute, 0, []⟩ =
      ⟨absolute, if absolute then 0 else (p.moves.foldl reduceStep (0, [])).1,
        (p.moves.foldl reduceStep (0, [])).2⟩ := by
    intro absolute
    refine foldl_moves (R := fun (x : Spot) (y : Nat × List String) =>
      x = ⟨absolute, if absolute then 0 else y.1, y.2⟩) (by simp) (fun x y hx => ?_)
      fun n x y _ hx => ?_
    · obtain ⟨k, ns⟩ := y
      rw [hx]
      by_cases hns : ns = []
      · subst hns
        cases absolute <;> rfl
      · rw [reduceStep_up_ne k hns, Spot.onward, if_neg hns]
    · rw [hx]
      rfl
  rw [spot, climbs, names, reduced_eq, Walk.along_eq]
  cases p.isAbsolute with
  | false => exact (hmoves false).symm
  | true => exact (hmoves true).symm

/-- **Two paths mean the same directory iff they come to the same spot.** -/
theorem samePlace_iff_spot : p.SamePlace q ↔ p.spot = q.spot := by
  rw [samePlace_iff, normalize_eq_iff, spot, spot, Spot.mk.injEq]
  tauto

lemma spot_join (p q : Path) : (p.join q).spot = Spot.walk.along p.spot q := by
  rw [spot_eq, Walk.along_join, ← spot_eq]

lemma spot_of_below (h : file.steps = root.steps ++ ss) :
    file.spot = ss.foldl Spot.onward root.spot := by
  rw [spot_eq, spot_eq, Walk.along, Walk.along, h, List.foldl_append]
  rfl

end ViewLayers.Path
