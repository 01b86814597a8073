import ViewLayers.Proofs.Path.Below
import ViewLayers.Proofs.Registry.Loading
import ViewLayers.Proofs.Text.Pieces

/-!
Which imports are resolved. An import names a directory if it begins with `/`, or with one of the
steps `.` and `..`; what begins with a name is left alone, unless that name begins with a dot
itself. Then the import is resolved as if `./` stood before it. Of the file that it stands in the
normal form of the directory decides.
-/

namespace ViewLayers

open Text FileTree

namespace Registry

open Catalog ViewLayers.Path

variable {source : String} {importer : Option Path}

/-! ### What an import begins with -/

/-- What names a directory, and no package. -/
def IsDirectoryImport (source : String) : Prop :=
  source = "." ∨ source = ".." ∨ "./".toList <+: source.toList ∨ "../".toList <+: source.toList ∨
    "/".toList <+: source.toList

/-- What begins with a name that begins with a dot. -/
def IsDottedName (source : String) : Prop :=
  ∃ n, (⟨source⟩ : Path).steps.head? = some (.name n) ∧ n.toList.head? = some '.'

lemma begins_iff (source : String) {w : List Char} (hw : '/' ∉ w) :
    (⟨source⟩ : Path).pieces.head? = some w ↔ source.toList = w ∨ w ++ ['/'] <+: source.toList := by
  have hslash : ∀ c ∈ w, isSlash c = false := fun c hc => by
    simpa [isSlash] using ne_of_mem_of_not_mem hc hw
  rw [pieces, head?_splitBy_eq_some_iff, and_iff_right hslash]
  refine or_congr_right ⟨?_, ?_⟩
  · rintro ⟨c, rest, hc, h⟩
    obtain rfl : c = '/' := by simpa [isSlash] using hc
    exact ⟨rest, by simp [h]⟩
  · rintro ⟨rest, h⟩
    exact ⟨'/', rest, rfl, by simp [← h]⟩

lemma head?_steps {p : Path} {w : List Char} (hp : p.isAbsolute = false)
    (hw : p.pieces.head? = some w) (hne : w ≠ []) :
    p.steps.head? = if w = ['.'] then some .here else Step.ofPiece w := by
  obtain ⟨rest, hrest⟩ := List.head?_eq_some_iff.1 hw
  rw [steps_eq, lead, moves, hw, hp, hrest]
  split
  · rename_i h
    obtain rfl : w = ['.'] := Option.some.inj h
    rfl
  · rename_i h
    have hdot : w ≠ ['.'] := fun he => h (congrArg some he)
    obtain ⟨s, hs⟩ : ∃ s, Step.ofPiece w = some s := by
      unfold Step.ofPiece
      split <;> simp_all
    rw [if_neg Bool.false_ne_true, if_neg hdot, List.nil_append, List.filterMap_cons, hs,
      List.head?_cons]

lemma dot_cases (hdot : source.toList.head? = some '.') : ∃ w, w.head? = some '.' ∧
    (IsDirectoryImport source ↔ w = ['.'] ∨ w = ['.', '.']) ∧
    (⟨source⟩ : Path).steps.head? = if w = ['.'] then some .here else Step.ofPiece w := by
  have hrelative : (⟨source⟩ : Path).isAbsolute = false := by simp [isAbsolute, hdot]
  obtain ⟨w, hw⟩ : ∃ w, (⟨source⟩ : Path).pieces.head? = some w := ⟨_, head?_splitBy _ _⟩
  have hhead : w.head? = some '.' := by
    obtain ⟨-, h⟩ := head?_splitBy_eq_some_iff.1 hw
    cases w with
    | nil =>
      -- the import is empty then, or begins with a slash
      rcases h with h | ⟨c, rest, hc, h⟩
      · rw [h] at hdot
        cases hdot
      · rw [h] at hdot
        cases hdot
        cases hc
    | cons d w => rcases h with h | ⟨c, rest, -, h⟩ <;> simpa [h] using hdot
  have hne : w ≠ [] := by
    rintro rfl
    cases hhead
  refine ⟨w, hhead, ?_, head?_steps hrelative hw hne⟩
  have hslash : ¬ "/".toList <+: source.toList := by
    rintro ⟨rest, h⟩
    rw [← h] at hdot
    cases hdot
  have hdot := begins_iff source (w := ['.']) (by decide)
  have hdots := begins_iff source (w := ['.', '.']) (by decide)
  rw [hw, Option.some.injEq] at hdot hdots
  rw [IsDirectoryImport, or_iff_left hslash, hdot, hdots, ← String.toList_inj,
    ← String.toList_inj, or_or_or_comm, or_assoc]
  rfl

lemma isDottedName_iff_of_dot (hdot : source.toList.head? = some '.') :
    IsDottedName source ↔ ¬ IsDirectoryImport source := by
  obtain ⟨w, hhead, hdirectory, hsteps⟩ := dot_cases hdot
  rw [IsDottedName, hsteps, hdirectory]
  by_cases h : w = ['.']
  · simp [h]
  · rw [if_neg h]
    by_cases h' : w = ['.', '.']
    · simp [h', Step.ofPiece]
    · have hne : w ≠ [] := by
        rintro rfl
        cases hhead
      simp [Step.ofPiece_eq_name hne h h', hhead, h, h']

lemma dot_of_isDottedName (h : IsDottedName source) : source.toList.head? = some '.' := by
  obtain ⟨n, hsteps, hdot⟩ := h
  have hrelative : (⟨source⟩ : Path).isAbsolute = false := by
    by_contra habs
    rw [Bool.not_eq_false] at habs
    rw [steps_eq, lead, habs] at hsteps
    split at hsteps <;> cases hsteps
  obtain ⟨w, hw⟩ : ∃ w, (⟨source⟩ : Path).pieces.head? = some w := ⟨_, head?_splitBy _ _⟩
  obtain ⟨-, htext⟩ := head?_splitBy_eq_some_iff.1 hw
  have hne : w ≠ [] := by
    rintro rfl
    rcases htext with htext | ⟨c, rest, hc, htext⟩
    · have hempty : source = "" := String.toList_inj.1 htext
      subst hempty
      cases hsteps
    · obtain rfl : c = '/' := by simpa [isSlash] using hc
      simp [isAbsolute, htext] at hrelative
  rw [head?_steps hrelative hw hne] at hsteps
  have hhead : w.head? = some '.' := by
    split at hsteps
    · cases hsteps
    · unfold Step.ofPiece at hsteps
      split at hsteps <;> simp_all
      subst hsteps
      simpa using hdot
  rcases htext with htext | ⟨c, rest, -, htext⟩ <;> rw [htext]
  · exact hhead
  · rw [List.head?_append, hhead, Option.some_or]

/-- **Every import that begins with a dot or a slash** names a directory or begins with a dotted
name. -/
lemma considered_iff : (source.toList.head? = some '.' ∨ source.toList.head? = some '/') ↔
    IsDirectoryImport source ∨ IsDottedName source := by
  constructor
  · rintro (hdot | hslash)
    · rw [isDottedName_iff_of_dot hdot]
      exact em _
    · obtain ⟨rest, hrest⟩ := List.head?_eq_some_iff.1 hslash
      exact .inl (.inr (.inr (.inr (.inr ⟨rest, hrest.symm⟩))))
  · rintro (h | h)
    · rcases h with rfl | rfl | ⟨rest, h⟩ | ⟨rest, h⟩ | ⟨rest, h⟩
      · exact .inl rfl
      · exact .inl rfl
      · exact .inl (h ▸ rfl)
      · exact .inl (h ▸ rfl)
      · exact .inr (h ▸ rfl)
    · exact .inl (dot_of_isDottedName h)

/-! ### Where an import leads -/

lemma target_here (h : (⟨source⟩ : Path).isAbsolute = false) (file : Path) :
    target ("./" ++ source) file = target source file := by
  have hhere : (⟨"./" ++ source⟩ : Path).isAbsolute = false := by simp [isAbsolute]
  have hmoves : (⟨"./" ++ source⟩ : Path).moves = (⟨source⟩ : Path).moves := by
    have hsplit : splitBy isSlash ("./" ++ source).toList =
        ['.'] :: splitBy isSlash source.toList := by
      rw [String.toList_append]
      exact splitBy_append_sep isSlash ['.'] source.toList (c := '/') rfl
    rw [moves, pieces, hsplit]
    rfl
  rw [target, target, normalize_eq_iff, (moves_join hhere).1, (moves_join h).1, names, names,
    reduced_eq, reduced_eq, (moves_join hhere).2, (moves_join h).2, hmoves]
  exact ⟨rfl, rfl⟩

/-- A component is registered where an import leads to from the file that it stands in. -/
def LeadsToComponent (cs : List Component) (source : String) (importer : Option Path) : Prop :=
  ∃ file, importer = some file ∧ ∃ c ∈ cs, c.directory.normalize = target source file

lemma isSome_lastAt_iff {cs : List Component} {key : Path} :
    (lastAt cs key).isSome = true ↔ ∃ c ∈ cs, c.directory.normalize = key := by
  rw [Option.isSome_iff_exists]
  constructor
  · rintro ⟨c, hc⟩
    exact ⟨c, mem_of_lastAt hc⟩
  · rintro ⟨c, hc, hkey⟩
    exact exists_lastAt hc hkey

lemma resolve?_eq (r : Registry) : r.resolve? source importer = importer.bind fun file =>
    if source.toList.head? = some '.' ∨ source.toList.head? = some '/' then
      if (r.find? (target source file)).isSome = true then
        some (idMark ++ (target source file).text)
      else none
    else none :=
  Catalog.resolve?_eq r.toCatalog .plain

lemma find?_target (root : Path) (options : Options) (cs : List Component) (file : Path) :
    (ofList root options cs).find? (target source file) = lastAt cs (target source file) :=
  find?_normalize _

lemma isSome_resolve?_iff (root : Path) (options : Options) (cs : List Component) :
    ((ofList root options cs).resolve? source importer).isSome = true ↔
      (IsDirectoryImport source ∨ IsDottedName source) ∧ LeadsToComponent cs source importer := by
  rw [resolve?_eq, ← considered_iff, LeadsToComponent]
  cases importer with
  | none => simp
  | some file =>
    rw [Option.bind_some, find?_target]
    simp only [Option.some.injEq, exists_eq_left', ← isSome_lastAt_iff]
    split
    · rename_i h
      rw [and_iff_right h]
      split <;> simp_all
    · rename_i h
      simp [h]

/-- **Which imports are resolved**: those that name a directory of a component, and those that begin
with a dotted name and would name one with `./` before them. So only the imports that name a
directory are resolved iff none of the latter leads to a component. An absolute import leads to the
same directory from everywhere. -/
theorem resolves_directories_and_dotted (root : Path) (options : Options) (cs : List Component)
    (source : String) (importer : Option Path) :
    (((ofList root options cs).resolve? source importer).isSome = true ↔
      (IsDirectoryImport source ∨ IsDottedName source) ∧ LeadsToComponent cs source importer) ∧
    ((((ofList root options cs).resolve? source importer).isSome = true ↔
        IsDirectoryImport source ∧ LeadsToComponent cs source importer) ↔
      ¬ (IsDottedName source ∧ LeadsToComponent cs source importer)) ∧
    (IsDottedName source → ¬ IsDirectoryImport source ∧
      (ofList root options cs).resolve? source importer =
        (ofList root options cs).resolve? ("./" ++ source) importer) ∧
    ((⟨source⟩ : Path).isAbsolute = true → ∀ file,
      target source file = (⟨source⟩ : Path).normalize) := by
  have hapart : IsDottedName source → ¬ IsDirectoryImport source := fun h =>
    (isDottedName_iff_of_dot (dot_of_isDottedName h)).1 h
  refine ⟨isSome_resolve?_iff root options cs, ?_, fun h => ⟨hapart h, ?_⟩, fun h file => ?_⟩
  · rw [isSome_resolve?_iff]
    constructor
    · rintro h ⟨hdotted, hleads⟩
      exact hapart hdotted (h.1 ⟨.inr hdotted, hleads⟩).1
    · intro h
      refine ⟨?_, fun ⟨hdirectory, hleads⟩ => ⟨.inl hdirectory, hleads⟩⟩
      rintro ⟨hdirectory | hdotted, hleads⟩
      · exact ⟨hdirectory, hleads⟩
      · exact absurd ⟨hdotted, hleads⟩ h
  · have hdot := dot_of_isDottedName h
    have hrelative : (⟨source⟩ : Path).isAbsolute = false := by simp [isAbsolute, hdot]
    have hhere : ("./" ++ source).toList.head? = some '.' := by simp
    simp only [resolve?_eq, target_here hrelative, hdot, hhere]
  · rw [target, join, if_pos h]

/-! ### Where an import stands -/

/-- The directory of a file, in its normal form. -/
def directoryOf (file : Path) : Path := (file.parent?.getD ⟨""⟩).normalize

lemma target_eq (source : String) (file : Path) :
    target source file = ((directoryOf file).join ⟨source⟩).normalize :=
  normalize_join (file.parent?.getD ⟨""⟩) ⟨source⟩

/-- **Imports are resolved by normal forms.** The normal form of a path is its own normal form and
has neither `.` nor `..`; the paths that are their own normal forms are those that are written from
names. What is joined to a path has the same normal form if it is joined to that of the path. So of
the file that an import stands in only the directory counts, and only its normal form. -/
theorem resolves_by_normal_forms (r : Registry) :
    (∀ p : Path, p.normalize.normalize = p.normalize ∧
      .here ∉ p.normalize.steps ∧ .up ∉ p.normalize.steps) ∧
    (∀ p : Path, p.normalize = p ↔
      ∃ absolute ns, (∀ n ∈ ns, ProperName n) ∧ p = ofNames absolute ns) ∧
    (∀ p q : Path, (p.join q).normalize = (p.normalize.join q).normalize) ∧
    (∀ source importer importer', Option.map directoryOf importer = importer'.map directoryOf →
      r.resolve? source importer = r.resolve? source importer') := by
  refine ⟨fun p => ⟨normalize_normalize p, ?_, ?_⟩, fun p => normalize_eq_self_iff, normalize_join,
    fun source importer importer' h => ?_⟩
  · exact fun h => (not_dots_of_mem_normalize h).1 rfl
  · exact fun h => (not_dots_of_mem_normalize h).2 rfl
  · cases importer with
    | none =>
      rw [Option.map_none, eq_comm, Option.map_eq_none_iff] at h
      rw [h]
    | some file =>
      obtain ⟨file', rfl, hsame⟩ := Option.map_eq_some_iff.1 h.symm
      rw [resolve?_eq, resolve?_eq, Option.bind_some, Option.bind_some, target_eq source file,
        target_eq source file', hsame]

/-- Two files in one directory, of which one is written in a roundabout way. -/
theorem resolves_by_normal_forms_roundabout :
    Option.map directoryOf (some ⟨"src/main.ts"⟩) =
      Option.map directoryOf (some ⟨"./lib/..//../src/./other.ts"⟩) ∧
    (ofList ⟨""⟩ {} shadowing).resolve? "./feed/." (some ⟨"src/main.ts"⟩) =
      (ofList ⟨""⟩ {} shadowing).resolve? "./feed/." (some ⟨"./lib/..//../src/./other.ts"⟩) ∧
    (ofList ⟨""⟩ {} shadowing).resolve? "./feed/." (some ⟨"src/main.ts"⟩) =
      some (idMark ++ "src/feed") := by
  have hsame : Option.map directoryOf (some ⟨"src/main.ts"⟩) =
      Option.map directoryOf (some ⟨"./lib/..//../src/./other.ts"⟩) := by decide +kernel
  have hfound : (ofList ⟨""⟩ {} shadowing).resolve? "./feed/." (some ⟨"src/main.ts"⟩) =
      some (idMark ++ "src/feed") := by decide +kernel
  obtain ⟨-, -, -, hresolve⟩ := resolves_by_normal_forms (ofList ⟨""⟩ {} shadowing)
  exact ⟨hsame, hresolve _ _ _ hsame, hfound⟩

end Registry

end ViewLayers
