import ViewLayers.Proofs.Path.Steps

/-!
Which directory a path means, by its text alone, and how much of that its normal form keeps: all
but the steps up by which a relative path climbs above the directory it starts from.
-/

namespace ViewLayers.Path

open FileTree

variable {p q : Path} {ns : List String}

/-! ### Places -/

/-- One step from a directory, which is given by the names below `/`. There is nothing above `/`. -/
def onward (place : List String) : Step → List String
  | .root => []
  | .here => place
  | .up => place.dropLast
  | .name n => place ++ [n]

def placeWalk : Walk (List String) := ⟨onward, fun _ => rfl, fun _ _ => rfl⟩

/-- Where a path leads to from a directory. -/
def placeFrom (start : List String) (p : Path) : List String := placeWalk.along start p

/-- Two paths mean the same directory, whichever absolute path they are taken from. -/
def SamePlace (p q : Path) : Prop :=
  ∀ base : Path, base.isAbsolute = true →
    (base.join p).placeFrom [] = (base.join q).placeFrom []

/-! ### What a path comes to -/

/-- One step more after `k` steps up and the names `ns`. -/
def reduceStep : Nat × List String → Step → Nat × List String
  | _, .root => (0, [])
  | x, .here => x
  | (k, ns), .up => if ns = [] then (k + 1, []) else (k, ns.dropLast)
  | (k, ns), .name n => (k, ns ++ [n])

def reduceWalk : Walk (Nat × List String) := ⟨reduceStep, fun _ => rfl, fun _ _ => rfl⟩

/-- The steps up from the start, and the names after them, that a path comes to. -/
def reduced (p : Path) : Nat × List String := reduceWalk.along (0, []) p

/-- How many directories a relative path climbs above the one it starts from. -/
def climbs (p : Path) : Nat := if p.isAbsolute then 0 else p.reduced.1

/-- The names that are left of a path. -/
def names (p : Path) : List String := p.reduced.2

lemma reduced_eq (p : Path) : p.reduced = p.moves.foldl reduceStep (0, []) := by
  rw [reduced, Walk.along_eq]
  split <;> rfl

lemma reduceStep_up_nil (k : Nat) : reduceStep (k, []) .up = (k + 1, []) := rfl

lemma reduceStep_up_ne (k : Nat) (h : ns ≠ []) : reduceStep (k, ns) .up = (k, ns.dropLast) :=
  if_neg h

lemma snd_reduceStep_up (x : Nat × List String) : (reduceStep x .up).2 = x.2.dropLast := by
  obtain ⟨k, ns⟩ := x
  by_cases h : ns = []
  · rw [h]
    rfl
  · rw [reduceStep_up_ne k h]

lemma properName_of_mem_names {n : String} (h : n ∈ p.names) : ProperName n := by
  have hmoves : ∀ n ∈ (p.moves.foldl reduceStep (0, [])).2, ProperName n := by
    refine foldl_moves (R := fun (_ : Unit) (x : Nat × List String) => ∀ n ∈ x.2, ProperName n)
      (f := fun _ _ => ()) (b := ()) (by simp) (fun _ x h n hn => ?_) fun m _ x hm h n hn => ?_
    · rw [snd_reduceStep_up] at hn
      exact h n (List.dropLast_subset _ hn)
    · rcases List.mem_append.1 hn with hn | hn
      · exact h n hn
      · rwa [List.mem_singleton.1 hn]
  rw [names, reduced_eq] at h
  exact hmoves n h

lemma placeFrom_eq (start : List String) (h : p.isAbsolute = false) :
    p.placeFrom start = start.take (start.length - p.climbs) ++ p.names := by
  have hmoves : p.moves.foldl onward start =
      start.take (start.length - (p.moves.foldl reduceStep (0, [])).1) ++
        (p.moves.foldl reduceStep (0, [])).2 := by
    refine foldl_moves
      (R := fun place (x : Nat × List String) => place = start.take (start.length - x.1) ++ x.2)
      (by simp) (fun place x hx => ?_) fun n place x _ hx => ?_
    · obtain ⟨k, ns⟩ := x
      rw [hx]
      by_cases hns : ns = []
      · subst hns
        rw [reduceStep_up_nil, onward, List.append_nil, List.append_nil, List.dropLast_eq_take,
          List.take_take, List.length_take]
        congr 1
        omega
      · rw [reduceStep_up_ne k hns]
        exact List.dropLast_append_of_ne_nil hns
    · rw [hx]
      exact List.append_assoc ..
  rw [placeFrom, Walk.along_eq, climbs, names, reduced_eq, h]
  exact hmoves

lemma placeFrom_eq_names (start : List String) (h : p.isAbsolute = true) :
    p.placeFrom start = p.names := by
  have hmoves : p.moves.foldl onward [] = (p.moves.foldl reduceStep (0, [])).2 := by
    refine foldl_moves (R := fun place (x : Nat × List String) => place = x.2) rfl
      (fun place x hx => ?_) fun n place x _ hx => ?_
    · rw [hx, snd_reduceStep_up]
      rfl
    · rw [hx]
      rfl
  rw [placeFrom, Walk.along_eq, names, reduced_eq, h]
  exact hmoves

/-! ### Normal forms -/

lemma resolveStep_up {first : List Step} (h : first = [] ∨ first = [.root]) (ns : List String) :
    resolveStep (first ++ ns.map .name) .up = first ++ ns.dropLast.map .name := by
  rcases List.eq_nil_or_concat ns with rfl | ⟨init, last, rfl⟩
  · rcases h with rfl | rfl <;> rfl
  · rw [List.concat_eq_append, List.dropLast_concat, List.map_append, ← List.append_assoc]
    have hne : first ++ init.map Step.name ++ [last].map Step.name ≠ [.root] := fun he => by
      have := congrArg List.getLast? he
      simp at this
    exact (if_neg (by simpa using hne)).trans List.dropLast_concat

def locationWalk : Walk (List Step) := ⟨resolveStep, fun _ => rfl, fun _ _ => rfl⟩

lemma resolve_steps (p : Path) : resolve [] p.steps =
    (if p.isAbsolute then [.root] else []) ++ p.names.map .name := by
  have hmoves : ∀ first, first = [] ∨ first = [Step.root] → p.moves.foldl resolveStep first =
      first ++ (p.moves.foldl reduceStep (0, [])).2.map .name := by
    intro first hfirst
    refine foldl_moves (R := fun ss (x : Nat × List String) => ss = first ++ x.2.map .name)
      (b := first) (c := (0, [])) (List.append_nil _).symm (fun ss x hx => ?_)
      fun n ss x _ hx => ?_
    · rw [hx, snd_reduceStep_up, resolveStep_up hfirst]
    · rw [hx]
      simp [resolveStep, reduceStep]
  have hwalk : resolve [] p.steps =
      p.moves.foldl resolveStep (if p.isAbsolute then [.root] else []) :=
    locationWalk.along_eq [] p
  rw [hwalk, names, reduced_eq, hmoves _ (by cases p.isAbsolute <;> simp)]

/-- **A normal form keeps the names** of a path, and whether it is absolute. -/
theorem normalize_eq (p : Path) : p.normalize = ofNames p.isAbsolute p.names := by
  rw [normalize, ofNames, resolve_steps]

lemma steps_normalize (p : Path) :
    p.normalize.steps = (if p.isAbsolute then [.root] else []) ++ p.names.map .name := by
  rw [normalize_eq, steps_ofNames _ fun n hn => properName_of_mem_names hn]

lemma steps_normalize_eq_iff :
    p.normalize.steps = q.normalize.steps ↔ p.isAbsolute = q.isAbsolute ∧ p.names = q.names := by
  have hinj : Function.Injective Step.name := fun _ _ h => Step.name.inj h
  have hroot : ∀ ns ms : List String, Step.root :: ns.map .name ≠ ms.map .name := by
    intro ns ms he
    have hmem : Step.root ∈ ms.map Step.name := he ▸ List.mem_cons_self
    simp at hmem
  rw [steps_normalize, steps_normalize]
  cases p.isAbsolute <;> cases q.isAbsolute
  · simpa using hinj.list_map.eq_iff
  · simpa using (hroot _ _).symm
  · simpa using hroot _ _
  · simpa using hinj.list_map.eq_iff

/-- **Normal forms are the same for the same names**, from the root or from anywhere. -/
theorem normalize_eq_iff :
    p.normalize = q.normalize ↔ p.isAbsolute = q.isAbsolute ∧ p.names = q.names := by
  refine ⟨fun h => steps_normalize_eq_iff.1 (congrArg steps h), fun ⟨habs, hnames⟩ => ?_⟩
  rw [normalize_eq, normalize_eq, habs, hnames]

/-! ### Normal forms are their own -/

lemma reduced_ofNames (absolute : Bool) (h : ∀ n ∈ ns, ProperName n) :
    (ofNames absolute ns).reduced = (0, ns) := by
  have hnames : ∀ x, (ns.map Step.name).foldl reduceStep x = (x.1, x.2 ++ ns) := by
    induction ns with
    | nil => simp
    | cons n ns ih =>
      intro x
      rw [List.forall_mem_cons] at h
      rw [List.map_cons, List.foldl_cons, ih h.2]
      simp [reduceStep]
  rw [reduced, Walk.along, steps_ofNames absolute h, List.foldl_append]
  cases absolute <;> exact hnames (0, [])

lemma isAbsolute_normalize (p : Path) : p.normalize.isAbsolute = p.isAbsolute := by
  rw [normalize_eq, isAbsolute_ofNames _ fun n hn => properName_of_mem_names hn]

lemma reduced_normalize (p : Path) : p.normalize.reduced = (0, p.names) := by
  rw [normalize_eq, reduced_ofNames _ fun n hn => properName_of_mem_names hn]

lemma names_normalize (p : Path) : p.normalize.names = p.names := by
  rw [names, reduced_normalize]

lemma climbs_normalize (p : Path) : p.normalize.climbs = 0 := by
  rw [climbs, reduced_normalize, ite_self]

lemma normalize_normalize (p : Path) : p.normalize.normalize = p.normalize :=
  normalize_eq_iff.2 ⟨isAbsolute_normalize p, names_normalize p⟩

/-- **The paths that are their own normal forms** are those that are written from names. -/
theorem normalize_eq_self_iff : p.normalize = p ↔
    ∃ absolute ns, (∀ n ∈ ns, ProperName n) ∧ p = ofNames absolute ns := by
  constructor
  · intro h
    refine ⟨p.isAbsolute, p.names, fun n hn => properName_of_mem_names hn, ?_⟩
    rw [← normalize_eq, h]
  · rintro ⟨absolute, ns, hns, rfl⟩
    rw [normalize_eq, isAbsolute_ofNames absolute hns, names, reduced_ofNames absolute hns]

lemma not_dots_of_mem_normalize {s : Step} (h : s ∈ p.normalize.steps) : s ≠ .here ∧ s ≠ .up := by
  rw [steps_normalize, List.mem_append, List.mem_map] at h
  rcases h with h | ⟨n, -, rfl⟩
  · split at h
    · rw [List.mem_singleton.1 h]
      exact ⟨nofun, nofun⟩
    · exact absurd h List.not_mem_nil
  · exact ⟨nofun, nofun⟩

/-- **What is joined to a path leads to the same location from the normal form** of the path: the
steps up that a relative path has lost there would have been lost anyway. -/
theorem normalize_join (p q : Path) : (p.join q).normalize = (p.normalize.join q).normalize := by
  have hlocation : resolve [] p.normalize.steps = resolve [] p.steps := by
    rw [resolve_steps, resolve_steps, isAbsolute_normalize, names_normalize]
  have hjoin : ∀ p' : Path, resolve [] (p'.join q).steps =
      locationWalk.along (resolve [] p'.steps) q := fun p' => locationWalk.along_join [] p' q
  rw [normalize, normalize.eq_1 (p.normalize.join q), hjoin, hjoin, hlocation]

/-! ### What a normal form says of the place -/

lemma placeFrom_join (start : List String) (p q : Path) :
    (p.join q).placeFrom start = q.placeFrom (p.placeFrom start) :=
  placeWalk.along_join start p q

lemma placeFrom_ofNames (h : ∀ n ∈ ns, ProperName n) : (ofNames true ns).placeFrom [] = ns := by
  rw [placeFrom_eq_names [] (isAbsolute_ofNames true h), names, reduced_ofNames true h]

lemma samePlace_iff_placeFrom : p.SamePlace q ↔ ∀ start : List String,
    (∀ n ∈ start, ProperName n) → p.placeFrom start = q.placeFrom start := by
  constructor
  · intro h start hstart
    have := h _ (isAbsolute_ofNames true hstart)
    rwa [placeFrom_join, placeFrom_join, placeFrom_ofNames hstart] at this
  · intro h base hbase
    rw [placeFrom_join, placeFrom_join, placeFrom_eq_names [] hbase]
    exact h _ fun n hn => properName_of_mem_names hn

/-- Paths that climb differently part where the names below the start do not say: at one of two
starts at least. -/
lemma climbs_le_of_placeFrom_eq (hp : p.isAbsolute = false) (hq : q.isAbsolute = false)
    (h : ∀ start : List String, (∀ n ∈ start, ProperName n) →
      p.placeFrom start = q.placeFrom start) : q.climbs ≤ p.climbs := by
  by_contra hlt
  rw [Nat.not_le] at hlt
  have hhead : ∀ n, ProperName n → q.names.head? = some n := by
    intro n hn
    have hplace := h (List.replicate q.climbs n) fun m hm => (List.eq_of_mem_replicate hm) ▸ hn
    rw [placeFrom_eq _ hp, placeFrom_eq _ hq, List.length_replicate, Nat.sub_self, List.take_zero,
      List.nil_append] at hplace
    obtain ⟨k, hk⟩ : ∃ k, q.climbs - p.climbs = k + 1 := ⟨q.climbs - p.climbs - 1, by omega⟩
    obtain ⟨j, hj⟩ : ∃ j, q.climbs = j + 1 := ⟨q.climbs - 1, by omega⟩
    rw [← hplace, hk, hj, List.replicate_succ, List.take_succ_cons]
    rfl
  have ha := hhead "a" (by decide)
  rw [hhead "b" (by decide)] at ha
  exact absurd ha (by decide)

/-- **Two paths mean the same directory iff their normal forms are the same** and they climb
equally far above the directory they start from. -/
theorem samePlace_iff :
    p.SamePlace q ↔ p.normalize = q.normalize ∧ p.climbs = q.climbs := by
  rw [samePlace_iff_placeFrom, normalize_eq_iff]
  constructor
  · intro h
    -- from far enough down a relative path stays longer than an absolute one
    have hlength : ∀ {p q : Path}, p.isAbsolute = true → q.isAbsolute = false →
        ¬ ∀ start : List String, (∀ n ∈ start, ProperName n) →
          p.placeFrom start = q.placeFrom start := by
      intro p q hp hq h
      have hplace := h (List.replicate (p.names.length + 1 + q.climbs) "a") fun m hm =>
        (List.eq_of_mem_replicate hm) ▸ by decide
      rw [placeFrom_eq_names _ hp, placeFrom_eq _ hq] at hplace
      have := congrArg List.length hplace
      simp only [List.length_append, List.length_take, List.length_replicate] at this
      omega
    cases hp : p.isAbsolute <;> cases hq : q.isAbsolute
    · have hclimbs : p.climbs = q.climbs := Nat.le_antisymm
        (climbs_le_of_placeFrom_eq hq hp fun s hs => (h s hs).symm)
        (climbs_le_of_placeFrom_eq hp hq h)
      have hnames := h [] (by simp)
      rw [placeFrom_eq _ hp, placeFrom_eq _ hq] at hnames
      exact ⟨⟨rfl, by simpa using hnames⟩, hclimbs⟩
    · exact absurd (fun s hs => (h s hs).symm) (hlength hq hp)
    · exact absurd h (hlength hp hq)
    · have hnames := h [] (by simp)
      rw [placeFrom_eq_names _ hp, placeFrom_eq_names _ hq] at hnames
      exact ⟨⟨rfl, hnames⟩, by rw [climbs, climbs, hp, hq]; rfl⟩
  · rintro ⟨⟨habs, hnames⟩, hclimbs⟩ start -
    cases hp : p.isAbsolute with
    | false => rw [placeFrom_eq _ hp, placeFrom_eq _ (habs ▸ hp), hnames, hclimbs]
    | true => rw [placeFrom_eq_names _ hp, placeFrom_eq_names _ (habs ▸ hp), hnames]

/-- **A path means the directory of its normal form** iff it does not climb above the directory it
starts from. -/
theorem samePlace_normalize_iff : p.SamePlace p.normalize ↔ p.climbs = 0 := by
  rw [samePlace_iff, normalize_normalize, climbs_normalize, and_iff_right rfl]

example : (⟨"../feed"⟩ : Path).normalize = (⟨"feed/."⟩ : Path).normalize := by decide

end ViewLayers.Path
