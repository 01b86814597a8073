import ViewLayers.Proofs.Path.Spots
import ViewLayers.Wrapper.Assembly

/-!
What a specifier denotes. It names a file below the root by the names on the way there alone, so it
leads to that file exactly if nothing else on the way counts; and it is the whole path of another
file, but for its backslashes.
-/

namespace ViewLayers.Wrapper

open Text FileTree ViewLayers.Path

variable {root file : Path} {ss : List Step}

/-- A specifier reads as a file: from the root on if the file lies below it, and else as the path
that it is. -/
def Denotes (root : Path) (spec : String) (file : Path) : Prop :=
  match root.below? file with
  | some _ => ∃ rest, spec = "/" ++ rest ∧ (root.join ⟨rest⟩).SamePlace file
  | none => spec = file.text

/-! ### A file below the root -/

lemma specifier_of_below (h : root.below? file = some ss) :
    specifier root file = "/" ++ joinWith "/" (ss.filterMap Step.name?) := by
  unfold specifier
  rw [h]
  rfl

lemma properName_of_below (h : root.below? file = some ss) :
    ∀ n ∈ ss.filterMap Step.name?, ProperName n := by
  intro n hn
  have hfile : n ∈ file.moves.filterMap Step.name? := by
    rw [← filterMap_name?_steps, below?_eq_some_iff.1 h, List.filterMap_append]
    exact List.mem_append_right _ hn
  obtain ⟨s, hs, hname⟩ := List.mem_filterMap.1 hfile
  rcases eq_up_or_name_of_mem_moves hs with rfl | ⟨m, rfl, hm⟩
  · exact absurd hname nofun
  · rwa [← Option.some.inj hname]

lemma spot_join_names {ns : List String} (h : ∀ n ∈ ns, ProperName n) :
    (root.join ⟨joinWith "/" ns⟩).spot = (ns.map Step.name).foldl Spot.onward root.spot := by
  have hpath : (⟨joinWith "/" ns⟩ : Path) = ofNames false ns := by
    rw [← String.empty_append (s := joinWith "/" ns)]
    exact congrArg Path.mk (text_ofNames false ns).symm
  rw [spot_join, hpath, Walk.along, steps_ofNames false h]
  rfl

lemma denotes_specifier_iff_foldl (h : root.below? file = some ss) :
    Denotes root (specifier root file) file ↔
      ((ss.filterMap Step.name?).map Step.name).foldl Spot.onward root.spot =
        ss.foldl Spot.onward root.spot := by
  have hplace : (root.join ⟨joinWith "/" (ss.filterMap Step.name?)⟩).SamePlace file ↔
      ((ss.filterMap Step.name?).map Step.name).foldl Spot.onward root.spot =
        ss.foldl Spot.onward root.spot := by
    rw [samePlace_iff_spot, spot_join_names (properName_of_below h),
      spot_of_below (below?_eq_some_iff.1 h)]
  rw [Denotes, h, specifier_of_below h, ← hplace]
  refine ⟨fun ⟨rest, hrest, hsame⟩ => ?_, fun hsame => ⟨_, rfl, hsame⟩⟩
  rwa [(String.append_right_inj "/").1 hrest]

/-- A step to `/` is below an empty root alone, and there it makes the file an absolute one. -/
lemma isAbsolute_of_root_mem (h : root.below? file = some ss) (hroot : .root ∈ ss) :
    file.isAbsolute = true ∧ root.isAbsolute = false := by
  have hsteps := below?_eq_some_iff.1 h
  have hempty : root.steps = [] := by
    by_contra hne
    exact root_not_mem_moves (mem_moves_of_below hsteps hne _ hroot)
  have hfile : .root ∈ file.lead := by
    rw [hempty, List.nil_append, steps_eq] at hsteps
    rw [← hsteps] at hroot
    exact (List.mem_append.1 hroot).resolve_right root_not_mem_moves
  refine ⟨?_, ?_⟩
  · rcases mem_lead hfile with hs | ⟨-, habs⟩
    · exact Step.noConfusion hs
    · exact habs
  · by_contra habs
    rw [Bool.not_eq_false] at habs
    rw [steps_eq, lead, habs, if_pos rfl] at hempty
    split at hempty <;> exact List.cons_ne_nil _ _ hempty

lemma denotes_specifier_of_below (h : root.below? file = some ss) :
    Denotes root (specifier root file) file ↔
      ∀ s ∈ root.spot.counted ss, s ≠ .up ∧ s ≠ .root := by
  rw [denotes_specifier_iff_foldl h]
  by_cases hroot : .root ∈ ss
  · obtain ⟨hfile, habs⟩ := isAbsolute_of_root_mem h hroot
    have htop : ¬ root.spot.AtTop := fun htop => Bool.noConfusion (habs.symm.trans htop.1)
    refine iff_of_false (fun heq => ?_) fun hall => ?_
    · rw [← spot_of_below (below?_eq_some_iff.1 h), Spot.foldl_names] at heq
      have hfalse : root.isAbsolute = file.isAbsolute := congrArg Spot.absolute heq
      rw [habs, hfile] at hfalse
      exact Bool.noConfusion hfalse
    · rw [Spot.counted, if_neg htop] at hall
      exact (hall _ hroot).2 rfl
  · rw [Spot.foldl_names_eq_iff hroot]
    refine ⟨fun hup s hs => ⟨fun he => hup (he ▸ hs), fun he => hroot ?_⟩,
      fun hall hup => (hall _ hup).1 rfl⟩
    exact he ▸ Spot.counted_subset hs

/-! ### Any file -/

lemma ofList_map_eq_iff (text : String) :
    String.ofList (text.toList.map fun c => if c = '\\' then '/' else c) = text ↔
      '\\' ∉ text.toList := by
  have hchar : ∀ c : Char, (if c = '\\' then '/' else c) = c ↔ c ≠ '\\' := by
    intro c
    by_cases hc : c = '\\'
    · rw [if_pos hc, hc]
      decide
    · simp [hc]
  have hmap : text.toList.map (fun c => if c = '\\' then '/' else c) = text.toList ↔
      ∀ c ∈ text.toList, (if c = '\\' then '/' else c) = c := by
    conv_lhs => rhs; rw [← List.map_id text.toList]
    exact List.map_inj_left
  rw [← String.toList_inj, String.toList_ofList, hmap]
  simp only [hchar]
  exact ⟨fun h hmem => h _ hmem rfl, fun h c hc he => h (he ▸ hc)⟩

lemma denotes_specifier_of_not_below (h : root.below? file = none) :
    Denotes root (specifier root file) file ↔ '\\' ∉ file.text.toList := by
  rw [Denotes, specifier, h]
  exact ofList_map_eq_iff file.text

/-- **A specifier denotes its file** iff, below the root, neither a step up nor `/` itself counts on
the way to it, and elsewhere its path has no backslash. -/
theorem denotes_specifier_iff (root file : Path) :
    Denotes root (specifier root file) file ↔
      match root.below? file with
      | some ss => ∀ s ∈ root.spot.counted ss, s ≠ .up ∧ s ≠ .root
      | none => '\\' ∉ file.text.toList := by
  cases h : root.below? file with
  | some ss => exact denotes_specifier_of_below h
  | none => exact denotes_specifier_of_not_below h

/-- A step up below the root is left out, so that the specifier leads to another file. -/
example : specifier ⟨"/proj"⟩ ⟨"/proj/src/../lib/feed.tsx"⟩ = "/src/lib/feed.tsx" := by decide

end ViewLayers.Wrapper
