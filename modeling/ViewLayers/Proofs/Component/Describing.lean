import ViewLayers.Component.Discovery
import ViewLayers.Proofs.FileTree.Files
import ViewLayers.Proofs.Path.Below

/-!
What a directory is described by. The files of a view, a concern and a skin are the first of those
that could be, in a fixed order. Skins are found in a listing first, which leaves none of them out.
-/

namespace ViewLayers

/-! ### Names with an ending -/

namespace Convention

variable {name stem ending : String}

lemma withoutEnding?_eq_some_iff :
    withoutEnding? name ending = some stem ↔ name = stem ++ ending := by
  unfold withoutEnding?
  constructor
  · intro h
    split at h
    · rename_i hsuffix
      obtain ⟨cs, hcs⟩ := List.isSuffixOf_iff_suffix.1 hsuffix
      have hlen : name.length - ending.length = cs.length := by
        rw [← String.length_toList (s := name), ← hcs, List.length_append, String.length_toList,
          Nat.add_sub_cancel]
      rw [← Option.some.inj h, ← String.toList_inj, hlen, ← hcs]
      simp
    · cases h
  · rintro rfl
    rw [if_pos (List.isSuffixOf_iff_suffix.2 ⟨stem.toList, String.toList_append.symm⟩),
      String.length_append, Nat.add_sub_cancel, String.toList_append, ← String.length_toList,
      List.take_left, String.ofList_toList]

lemma extension_unique {stem' e e' : String} (he : e ∈ entryExtensions)
    (he' : e' ∈ entryExtensions) (h : stem ++ e = stem' ++ e') : e = e' := by
  have hends : ∀ e ∈ entryExtensions, ∀ e' ∈ entryExtensions, e.toList <:+ e'.toList → e = e' := by
    decide
  have h := congrArg String.toList h
  rw [String.toList_append, String.toList_append] at h
  rcases List.suffix_or_suffix_of_suffix ⟨stem.toList, h⟩ (List.suffix_append stem'.toList _) with
    hs | hs
  · exact hends e he e' he' hs
  · exact (hends e' he' e he hs).symm

lemma entryStem?_eq_some_iff : entryStem? name = some stem ↔
    stem ≠ "" ∧ ∃ e ∈ entryExtensions, name = stem ++ e := by
  rw [entryStem?, Option.filter_eq_some_iff, and_comm]
  refine and_congr (by simp) ⟨fun h => ?_, ?_⟩
  · obtain ⟨e, he, h⟩ := List.exists_of_findSome?_eq_some h
    exact ⟨e, he, withoutEnding?_eq_some_iff.1 h⟩
  · rintro ⟨e, he, rfl⟩
    have hsome : (entryExtensions.findSome? (withoutEnding? (stem ++ e))).isSome := by
      refine List.findSome?_isSome_iff.2 ⟨e, he, ?_⟩
      rw [withoutEnding?_eq_some_iff.2 rfl, Option.isSome_some]
    obtain ⟨stem', h⟩ := Option.isSome_iff_exists.1 hsome
    obtain ⟨e', he', h'⟩ := List.exists_of_findSome?_eq_some h
    have heq := withoutEnding?_eq_some_iff.1 h'
    obtain rfl := extension_unique he he' heq
    rw [h, (String.append_left_inj e).1 heq]

lemma properName_append_iff {e : String} (he : e ∈ entryExtensions) :
    FileTree.ProperName (stem ++ e) ↔ '/' ∉ stem.toList := by
  have hext : ∀ e ∈ entryExtensions, '/' ∉ e.toList ∧ 2 < e.length := by decide
  obtain ⟨hslash, hlen⟩ := hext e he
  have hne : ∀ s : String, s.length ≤ 2 → stem ++ e ≠ s := by
    rintro s hs rfl
    rw [String.length_append] at hs
    omega
  rw [FileTree.ProperName, String.toList_append, List.mem_append, not_or]
  exact ⟨fun h => h.2.2.2.1, fun h => ⟨hne _ (by decide), hne _ (by decide), hne _ (by decide),
    h, hslash⟩⟩

end Convention

/-! ### Files in order -/

namespace FileTree

open Convention

variable {t : FileTree} {root dir : Path} {s : String} {c : Component}

/-- The files that a concern can be in, the first one first. -/
def concernFiles (dir : Path) (k : Concern) : List Path :=
  [".ts", ".tsx", ".js", ".jsx", "/index.ts", "/index.tsx", "/index.js", "/index.jsx"].map
    fun ending => dir.join ⟨k.stem ++ ending⟩

/-- The files that a skin can be in, the first one first. -/
def skinFiles (dir : Path) (s : String) : List Path :=
  [".ts", ".tsx", ".js", ".jsx"].map fun ending => (dir.join ⟨"skins"⟩).join ⟨s ++ ending⟩

/-- A directory has a skin under each name that a file of its skins has before an extension, but
for the index. -/
def IsSkin (t : FileTree) (dir : Path) (s : String) : Prop :=
  s ≠ "" ∧ s ≠ "index" ∧ '/' ∉ s.toList ∧ ∃ p ∈ skinFiles dir s, t.isFile p = true

lemma join_index_file (dir : Path) (k : Concern) {e : String} (he : e ∈ entryExtensions) :
    (dir.join ⟨k.stem⟩).join ⟨indexStem ++ e⟩ = dir.join ⟨k.stem ++ ("/index" ++ e)⟩ := by
  rw [Path.join_assoc]
  have hjoin : ∀ k ∈ Concern.all, ∀ e ∈ entryExtensions,
      (⟨k.stem⟩ : Path).join ⟨indexStem ++ e⟩ = ⟨k.stem ++ ("/index" ++ e)⟩ := by decide
  rw [hjoin k k.mem_all e he]

/-- **A concern is in the first of its files that exists.** -/
lemma findConcern_eq (t : FileTree) (dir : Path) (k : Concern) :
    t.findConcern dir k = (concernFiles dir k).find? t.isFile := by
  have hsplit : concernFiles dir k = (entryExtensions.map fun e => dir.join ⟨k.stem ++ e⟩) ++
      entryExtensions.map fun e => (dir.join ⟨k.stem⟩).join ⟨indexStem ++ e⟩ := by
    rw [List.map_congr_left fun e he => join_index_file dir k he]
    rfl
  have hsub : t.isDir (dir.join ⟨k.stem⟩) = false →
      t.findFile (dir.join ⟨k.stem⟩) indexStem entryExtensions = none := by
    refine fun hdir => List.find?_eq_none.2 fun p hp hfile => ?_
    obtain ⟨e, he, rfl⟩ := List.mem_map.1 hp
    have hne : (dir.join ⟨k.stem⟩).text ≠ "" := Path.text_join_ne dir (by cases k <;> decide)
    have hindex : '/' ∉ indexStem.toList := by decide
    rw [isDir_of_isFile_join hne ((properName_append_iff he).2 hindex) hfile] at hdir
    cases hdir
  unfold findConcern
  rw [hsplit, List.find?_append]
  change _ = (t.findFile dir k.stem entryExtensions).or
    (t.findFile (dir.join ⟨k.stem⟩) indexStem entryExtensions)
  cases t.findFile dir k.stem entryExtensions with
  | some p => rfl
  | none =>
    dsimp only
    split
    · rfl
    · rename_i hdir
      rw [hsub (by simpa using hdir)]
      rfl

lemma mem_skinFiles_iff {p : Path} : p ∈ skinFiles dir s ↔
    ∃ e ∈ entryExtensions, p = (dir.join skinsDirectory).join ⟨s ++ e⟩ := by
  rw [skinFiles, ← entryExtensions, ← skinsDirectory, List.mem_map]
  simp only [eq_comm]

lemma mem_stems_iff (hw : t.WellFormed) :
    s ∈ ((t.listing (dir.join skinsDirectory)).filterMap fun e =>
      if e.isDir then none else (entryStem? e.name).filter (· != indexStem)) ↔
    t.IsSkin dir s := by
  have hne : (dir.join skinsDirectory).text ≠ "" := Path.text_join_ne dir (by decide)
  rw [List.mem_filterMap]
  constructor
  · rintro ⟨entry, hentry, h⟩
    split at h
    · cases h
    · rename_i hfile
      obtain ⟨hstem, hindex⟩ := Option.filter_eq_some_iff.1 h
      obtain ⟨hs, e, he, hname⟩ := entryStem?_eq_some_iff.1 hstem
      obtain ⟨hproper, hisFile⟩ := (exists_mem_listing_file_iff hw hne).1
        ⟨entry, hentry, by simpa using hfile, hname⟩
      exact ⟨hs, by simpa [indexStem] using hindex, (properName_append_iff he).1 hproper,
        _, mem_skinFiles_iff.2 ⟨e, he, rfl⟩, hisFile⟩
  · rintro ⟨hs, hindex, hslash, p, hp, hisFile⟩
    obtain ⟨e, he, rfl⟩ := mem_skinFiles_iff.1 hp
    obtain ⟨entry, hentry, hfile, hname⟩ := (exists_mem_listing_file_iff hw hne).2
      ⟨(properName_append_iff he).2 hslash, hisFile⟩
    refine ⟨entry, hentry, ?_⟩
    rw [hfile, if_neg Bool.false_ne_true, Option.filter_eq_some_iff]
    exact ⟨entryStem?_eq_some_iff.2 ⟨hs, e, he, hname⟩, bne_iff_ne.2 hindex⟩

/-- **Every skin is found, in the first of its files that exists.** -/
lemma get?_findSkins (hw : t.WellFormed) [Decidable (t.IsSkin dir s)] :
    (t.findSkins (dir.join skinsDirectory)).get? s =
      if t.IsSkin dir s then (skinFiles dir s).find? t.isFile else none := by
  rw [findSkins, Dict.get?_ofList_filterMap]
  exact if_congr (mem_stems_iff hw) rfl rfl

lemma contains_findSkins_iff (hw : t.WellFormed) :
    (t.findSkins (dir.join skinsDirectory)).contains s = true ↔ t.IsSkin dir s := by
  classical
  rw [Dict.contains, get?_findSkins hw]
  split
  · rename_i h
    obtain ⟨p, hp, hfile⟩ := h.2.2.2
    exact iff_of_true (List.find?_isSome.2 ⟨p, hp, hfile⟩) h
  · rename_i h
    exact iff_of_false Bool.false_ne_true h

/-! ### Descriptions -/

/-- What there is to put around a view. -/
def HasLayer (t : FileTree) (dir : Path) : Prop :=
  (∃ k, ∃ p ∈ concernFiles dir k, t.isFile p = true) ∨ (∃ s, t.IsSkin dir s) ∨
    t.findRoutes (dir.join ⟨"[routes]"⟩) ≠ []

structure Describes (t : FileTree) (root dir : Path) (c : Component) : Prop where
  name : c.name = componentName root dir
  directory : c.directory = dir
  view : c.view = if t.isFile (dir.join ⟨"index.tsx"⟩) then dir.join ⟨"index.tsx"⟩
    else dir.join ⟨"index.jsx"⟩
  view_isFile : t.isFile c.view = true
  concern : ∀ k, c.concerns.get k = (concernFiles dir k).find? t.isFile
  concern_none_iff : ∀ k, c.concerns.get k = none ↔
    ∀ p ∈ concernFiles dir k, t.isFile p = false
  skin_iff : ∀ s, c.skins.contains s = true ↔ t.IsSkin dir s
  skin : ∀ s, t.IsSkin dir s → c.skins.get? s = (skinFiles dir s).find? t.isFile
  routes : c.routes = t.findRoutes (dir.join ⟨"[routes]"⟩)

lemma Describes.isManaged_iff (h : t.Describes root dir c) :
    c.isManaged = true ↔ t.HasLayer dir := by
  have hconcerns : c.concerns.isEmpty = false ↔
      ∃ k, ∃ p ∈ concernFiles dir k, t.isFile p = true := by
    rw [Concerns.isEmpty, List.all_eq_false]
    constructor
    · rintro ⟨k, -, hk⟩
      rw [h.concern k, Option.isNone_iff_eq_none, List.find?_eq_none] at hk
      push Not at hk
      exact ⟨k, hk⟩
    · rintro ⟨k, p, hp, hfile⟩
      refine ⟨k, k.mem_all, fun hk => ?_⟩
      rw [Option.isNone_iff_eq_none, h.concern_none_iff] at hk
      rw [hk p hp] at hfile
      cases hfile
  have hskins : c.skins.isEmpty = false ↔ ∃ s, t.IsSkin dir s :=
    Dict.isEmpty_eq_false_iff.trans (exists_congr h.skin_iff)
  have hroutes : c.routes.isEmpty = false ↔ t.findRoutes (dir.join ⟨"[routes]"⟩) ≠ [] := by
    rw [h.routes, List.isEmpty_eq_false_iff]
  rw [Component.isManaged, Bool.or_eq_true, Bool.or_eq_true, Bool.not_eq_true', Bool.not_eq_true',
    Bool.not_eq_true', hconcerns, hskins, hroutes, or_assoc, HasLayer]

/-- What a directory is described by if there is anything to put around its view. -/
def sketch (t : FileTree) (root dir view : Path) : Component where
  name := componentName root dir
  directory := dir
  view
  concerns := .ofFunction (t.findConcern dir)
  skins := t.findSkins (dir.join skinsDirectory)
  routes := t.findRoutes (dir.join routesDirectory)

lemma describe_eq_some_iff : t.describe root dir = some c ↔
    ∃ view, t.findFile dir indexStem viewExtensions = some view ∧
      (t.sketch root dir view).isManaged = true ∧ t.sketch root dir view = c := by
  have hdescribe : t.describe root dir = (t.findFile dir indexStem viewExtensions).bind fun view =>
      if (t.sketch root dir view).isManaged then some (t.sketch root dir view) else none := by
    unfold describe
    cases t.findFile dir indexStem viewExtensions <;> rfl
  rw [hdescribe, Option.bind_eq_some_iff]
  refine exists_congr fun view => and_congr_right fun _ => ?_
  rw [Option.ite_none_right_eq_some, Option.some.injEq]

lemma findFile_view_eq_some_iff {view : Path} :
    t.findFile dir indexStem viewExtensions = some view ↔ t.isFile view = true ∧
      view = if t.isFile (dir.join ⟨"index.tsx"⟩) then dir.join ⟨"index.tsx"⟩
        else dir.join ⟨"index.jsx"⟩ := by
  have hfind : t.findFile dir indexStem viewExtensions =
      [dir.join ⟨"index.tsx"⟩, dir.join ⟨"index.jsx"⟩].find? t.isFile := rfl
  rw [hfind, List.find?_cons, List.find?_singleton]
  cases htsx : t.isFile (dir.join ⟨"index.tsx"⟩) with
  | true =>
    constructor
    · rintro h
      cases h
      exact ⟨htsx, rfl⟩
    · rintro ⟨-, rfl⟩
      rfl
  | false =>
    rw [if_neg Bool.false_ne_true]
    constructor
    · intro h
      dsimp only at h
      split at h
      · cases h
        exact ⟨‹_›, rfl⟩
      · cases h
    · rintro ⟨hview, rfl⟩
      exact if_pos hview

lemma describes_sketch (hw : t.WellFormed) (root : Path) {view : Path}
    (h : t.findFile dir indexStem viewExtensions = some view) :
    t.Describes root dir (t.sketch root dir view) where
  name := rfl
  directory := rfl
  view := (findFile_view_eq_some_iff.1 h).2
  view_isFile := (findFile_view_eq_some_iff.1 h).1
  concern k := (Concerns.get_ofFunction _ k).trans (findConcern_eq t dir k)
  concern_none_iff k := by
    rw [sketch, Concerns.get_ofFunction, findConcern_eq, List.find?_eq_none]
    simp
  skin_iff s := contains_findSkins_iff hw
  skin s hs := by
    classical
    exact (get?_findSkins hw).trans (if_pos hs)
  routes := rfl

/-- **A directory is described iff it has a view and something to put around it**, and then by the
first file of each kind. -/
theorem describes_directories (hw : t.WellFormed) (root dir : Path) :
    ((t.describe root dir).isSome = true ↔
      (t.isFile (dir.join ⟨"index.tsx"⟩) = true ∨ t.isFile (dir.join ⟨"index.jsx"⟩) = true) ∧
        t.HasLayer dir) ∧
    ∀ c, t.describe root dir = some c → t.Describes root dir c := by
  refine ⟨⟨fun h => ?_, ?_⟩, fun c hc => ?_⟩
  · obtain ⟨c, hc⟩ := Option.isSome_iff_exists.1 h
    obtain ⟨view, hview, hmanaged, -⟩ := describe_eq_some_iff.1 hc
    refine ⟨?_, (describes_sketch hw root hview).isManaged_iff.1 hmanaged⟩
    obtain ⟨hfile, rfl⟩ := findFile_view_eq_some_iff.1 hview
    split at hfile
    · exact .inl ‹_›
    · exact .inr hfile
  · rintro ⟨hfile, hlayer⟩
    have hview : t.findFile dir indexStem viewExtensions =
        some (if t.isFile (dir.join ⟨"index.tsx"⟩) then dir.join ⟨"index.tsx"⟩
          else dir.join ⟨"index.jsx"⟩) := by
      refine findFile_view_eq_some_iff.2 ⟨?_, rfl⟩
      split
      · assumption
      · exact hfile.resolve_left ‹_›
    have hmanaged := (describes_sketch hw root hview).isManaged_iff.2 hlayer
    exact Option.isSome_iff_exists.2 ⟨_, describe_eq_some_iff.2 ⟨_, hview, hmanaged, rfl⟩⟩
  · obtain ⟨view, hview, -, rfl⟩ := describe_eq_some_iff.1 hc
    exact describes_sketch hw root hview

/-- A component whose files stand among directories with their names, links and further dots. -/
def layered : FileTree :=
  build [⟨"feed/index.tsx"⟩, ⟨"feed/skins/dark.ts"⟩]
    [(⟨"feed/index.jsx"⟩, some ""), (⟨"feed/async/index.js"⟩, some ""),
      (⟨"feed/skins/dark.js"⟩, some ""), (⟨"feed/skins/a.ts.js"⟩, some ""),
      (⟨"feed/skins/index.ts"⟩, some "")]
    [(⟨"feed/skins/glow.tsx"⟩, ⟨"../index.jsx"⟩)]

/-- Its view, its concern and its skins are found among them. -/
theorem describes_directories_layered : layered.WellFormed ∧ layered.HasLayer ⟨"feed"⟩ ∧
    ∃ c, layered.describe ⟨"."⟩ ⟨"feed"⟩ = some c ∧ layered.Describes ⟨"."⟩ ⟨"feed"⟩ c ∧
      c.view = ⟨"feed/index.jsx"⟩ ∧ c.concerns.get .async = some ⟨"feed/async/index.js"⟩ ∧
      c.skins.entries = [("a.ts", ⟨"feed/skins/a.ts.js"⟩), ("dark", ⟨"feed/skins/dark.js"⟩),
        ("glow", ⟨"feed/skins/glow.tsx"⟩)] := by
  have hw : layered.WellFormed := wellFormed_build _ _ _
  obtain ⟨hiff, hdescribes⟩ := describes_directories hw ⟨"."⟩ ⟨"feed"⟩
  have hfound : (layered.describe ⟨"."⟩ ⟨"feed"⟩).map
      (fun c => (c.view, c.concerns.get .async, c.skins.entries)) =
      some (⟨"feed/index.jsx"⟩, some ⟨"feed/async/index.js"⟩,
        [("a.ts", ⟨"feed/skins/a.ts.js"⟩), ("dark", ⟨"feed/skins/dark.js"⟩),
          ("glow", ⟨"feed/skins/glow.tsx"⟩)]) := by decide +kernel
  obtain ⟨c, hc, hfound⟩ := Option.map_eq_some_iff.1 hfound
  obtain ⟨hview, hasync, hskins⟩ : _ ∧ _ ∧ _ := by simpa only [Prod.mk.injEq] using hfound
  have hlayer := (hiff.1 (Option.isSome_iff_exists.2 ⟨c, hc⟩)).2
  exact ⟨hw, hlayer, c, hc, hdescribes c hc, hview, hasync, hskins⟩

end FileTree

end ViewLayers
