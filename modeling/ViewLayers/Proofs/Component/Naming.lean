import Mathlib.Data.List.Basic
import ViewLayers.Component.Name
import ViewLayers.Proofs.Text.Letters
import ViewLayers.Proofs.Text.Pieces

/-!
Display names. The words of a name are found one after the other on the two sides of a separator,
whichever it is; so a display name says nothing of the separators, and a name that is one word with
a capital is its own display name.
-/

namespace ViewLayers

open Text

variable {name a b s : String} {c : Char} {cs ds w : List Char}

/-! ### Characters -/

lemma isWordChar_iff : isWordChar c = true ↔ c.isAlphanum = true ∨ c = '$' := by
  rw [isWordChar, Bool.or_eq_true, beq_iff_eq]

lemma isWordChar_toUpper (h : isWordChar c = true) : isWordChar c.toUpper = true := by
  cases hlower : c.isLower with
  | false => rwa [toUpper_eq_self hlower]
  | true =>
    have hupper := isUpper_iff.1 (isUpper_toUpper hlower)
    have halpha : c.toUpper.isAlpha = true := isAlpha_iff.2 (.inl hupper)
    exact isWordChar_iff.2 (.inl (Bool.or_eq_true_iff.2 (.inl halpha)))

/-! ### Words -/

lemma ne_nil_of_mem_wordsOf (h : w ∈ wordsOf cs) : w ≠ [] := by
  simpa using (List.mem_filter.1 h).2

lemma isWordChar_of_mem_wordsOf (h : w ∈ wordsOf cs) (hc : c ∈ w) : isWordChar c = true := by
  simpa using not_of_mem_splitBy (List.mem_filter.1 h).1 hc

lemma wordsOf_word (hne : w ≠ []) (h : ∀ c ∈ w, isWordChar c = true) : wordsOf w = [w] := by
  rw [wordsOf, splitBy_eq_singleton fun c hc => by simp [h c hc]]
  exact List.filter_cons_of_pos (by simpa using hne)

lemma wordsOf_append_sep (cs ds : List Char) (h : isWordChar c = false) :
    wordsOf (cs ++ c :: ds) = wordsOf cs ++ wordsOf ds := by
  rw [wordsOf, splitBy_append_sep _ cs ds (by simp [h]), List.filter_append]
  rfl

lemma wordsOf_separators (ds : List Char) (h : ∀ c ∈ cs, isWordChar c = false) :
    wordsOf (cs ++ ds) = wordsOf ds := by
  induction cs with
  | nil => rfl
  | cons c cs ih =>
    rw [List.forall_mem_cons] at h
    exact (wordsOf_append_sep [] (cs ++ ds) h.1).trans (ih h.2)

lemma wordsOf_eq_nil_iff : wordsOf cs = [] ↔ ∀ c ∈ cs, isWordChar c = false := by
  have hflatten : (wordsOf cs).flatten = cs.filter isWordChar := by
    rw [wordsOf, List.flatten_filter_not_isEmpty, flatten_splitBy]
    simp only [Bool.not_not]
  constructor
  · intro h c hc
    rw [h, List.flatten_nil, eq_comm, List.filter_eq_nil_iff] at hflatten
    simpa using hflatten c hc
  · intro h
    rw [List.filter_eq_nil_iff.2 fun c hc => by simp [h c hc], List.flatten_eq_nil_iff] at hflatten
    exact List.eq_nil_iff_forall_not_mem.2 fun w hw => ne_nil_of_mem_wordsOf hw (hflatten w hw)

/-- The words of a text run together, each with a capital. -/
def runTogether (cs : List Char) : List Char := ((wordsOf cs).map capitalize).flatten

lemma runTogether_eq_nil_iff : runTogether cs = [] ↔ wordsOf cs = [] := by
  rw [runTogether, List.flatten_eq_nil_iff]
  constructor
  · intro h
    refine List.eq_nil_iff_forall_not_mem.2 fun w hw => ?_
    have hnil := h (capitalize w) (List.mem_map_of_mem hw)
    cases w with
    | nil => exact ne_nil_of_mem_wordsOf hw rfl
    | cons c cs => cases hnil
  · intro h
    simp [h]

lemma isWordChar_of_mem_runTogether (h : c ∈ runTogether cs) : isWordChar c = true := by
  obtain ⟨w', hw', hc⟩ := List.mem_flatten.1 h
  obtain ⟨w, hw, rfl⟩ := List.mem_map.1 hw'
  cases w with
  | nil => exact absurd hc List.not_mem_nil
  | cons d ds =>
    rcases List.mem_cons.1 hc with rfl | hc
    · exact isWordChar_toUpper (isWordChar_of_mem_wordsOf hw List.mem_cons_self)
    · exact isWordChar_of_mem_wordsOf hw (List.mem_cons_of_mem d hc)

lemma isLower_of_runTogether (h : runTogether cs = c :: ds) : c.isLower = false := by
  cases hwords : wordsOf cs with
  | nil =>
    rw [runTogether_eq_nil_iff.2 hwords] at h
    cases h
  | cons w ws =>
    rw [runTogether, hwords] at h
    cases w with
    | nil => exact absurd rfl (ne_nil_of_mem_wordsOf (hwords ▸ List.mem_cons_self))
    | cons d w =>
      obtain rfl : d.toUpper = c := (List.cons.inj h).1
      exact isLower_toUpper d

/-! ### Display names -/

lemma toList_displayName (name : String) : (displayName name).toList =
    if runTogether name.toList = [] then namelessName else runTogether name.toList := by
  rw [displayName, String.toList_ofList]
  simp only [List.isEmpty_iff]
  rfl

lemma isWordChar_of_mem_displayName (h : c ∈ (displayName name).toList) : isWordChar c = true := by
  have hnameless : namelessName.all isWordChar = true := by decide
  rw [toList_displayName] at h
  split at h
  · exact List.all_eq_true.1 hnameless c h
  · exact isWordChar_of_mem_runTogether h

/-- A display name begins with something else than a small letter. -/
theorem exists_toList_displayName (name : String) :
    ∃ c cs, (displayName name).toList = c :: cs ∧ c.isLower = false := by
  rw [toList_displayName]
  cases h : runTogether name.toList with
  | nil => exact ⟨'C', _, rfl, rfl⟩
  | cons c cs => exact ⟨c, cs, rfl, isLower_of_runTogether h⟩

/-- A name of letters, digits and `$` that does not begin with a small letter. -/
structure IsDisplayName (name : String) : Prop where
  ne_empty : name ≠ ""
  letters : ∀ c ∈ name.toList, c.isAlphanum = true ∨ c = '$'
  capital : ∀ c, name.toList.head? = some c → c.isLower = false

lemma isDisplayName_displayName (name : String) : IsDisplayName (displayName name) := by
  obtain ⟨c, cs, hcs, hlower⟩ := exists_toList_displayName name
  refine ⟨fun h => ?_, fun d hd => isWordChar_iff.1 (isWordChar_of_mem_displayName hd), ?_⟩
  · rw [h] at hcs
    cases hcs
  · intro d hd
    rw [hcs, List.head?_cons, Option.some.injEq] at hd
    rwa [← hd]

lemma displayName_word (hne : w ≠ []) (h : ∀ c ∈ w, isWordChar c = true) :
    displayName (String.ofList w) = String.ofList (capitalize w) := by
  have hwhole : runTogether w = capitalize w := by
    rw [runTogether, wordsOf_word hne h]
    exact List.append_nil _
  have hcapital : capitalize w ≠ [] := by
    rw [← hwhole, ne_eq, runTogether_eq_nil_iff, wordsOf_word hne h]
    exact List.cons_ne_nil w []
  rw [← String.toList_inj, toList_displayName, String.toList_ofList, String.toList_ofList, hwhole,
    if_neg hcapital]

/-- **The names that are their own display names** are those that a display name can be. -/
theorem displayName_eq_self_iff : displayName name = name ↔ IsDisplayName name := by
  refine ⟨fun h => h ▸ isDisplayName_displayName name, fun h => ?_⟩
  have hne : name.toList ≠ [] := fun he => h.ne_empty (String.toList_inj.1 he)
  have hword := displayName_word hne fun c hc => isWordChar_iff.2 (h.letters c hc)
  have hcapital : capitalize name.toList = name.toList := by
    cases hcs : name.toList with
    | nil => rfl
    | cons c cs =>
      have hlower := h.capital c (by rw [hcs, List.head?_cons])
      rw [capitalize, toUpper_eq_self hlower]
  rwa [hcapital, String.ofList_toList] at hword

/-! ### Names that are joined -/

/-- There is a letter, a digit or a `$` in a name. -/
def HasWord (name : String) : Prop := ∃ c ∈ name.toList, c.isAlphanum = true ∨ c = '$'

lemma hasWord_iff : name.toList.any isWordChar = true ↔ HasWord name := by
  rw [List.any_eq_true]
  exact exists_congr fun c => and_congr_right fun _ => isWordChar_iff

instance : Decidable (HasWord name) := decidable_of_iff _ hasWord_iff

/-- What can stand between words. -/
def IsSeparator (s : String) : Prop := s ≠ "" ∧ ¬ HasWord s

instance : Decidable (IsSeparator s) := inferInstanceAs (Decidable (s ≠ "" ∧ ¬ HasWord s))

lemma HasWord.append_left (h : HasWord a) (b : String) : HasWord (a ++ b) := by
  obtain ⟨c, hc, hword⟩ := h
  exact ⟨c, by rw [String.toList_append]; exact List.mem_append_left _ hc, hword⟩

lemma isWordChar_eq_false_of_not_hasWord (h : ¬ HasWord s) : ∀ c ∈ s.toList, isWordChar c = false :=
  fun c hc => Bool.eq_false_iff.2 fun hword => h ⟨c, hc, isWordChar_iff.1 hword⟩

lemma runTogether_ne_nil (h : HasWord name) : runTogether name.toList ≠ [] := by
  obtain ⟨c, hc, hword⟩ := h
  rw [ne_eq, runTogether_eq_nil_iff, wordsOf_eq_nil_iff]
  intro hall
  rw [← isWordChar_iff, hall c hc] at hword
  exact Bool.false_ne_true hword

lemma toList_displayName_of_hasWord (h : HasWord name) :
    (displayName name).toList = runTogether name.toList := by
  rw [toList_displayName, if_neg (runTogether_ne_nil h)]

lemma runTogether_append_separator (hs : IsSeparator s) :
    runTogether (a ++ s ++ b).toList = runTogether a.toList ++ runTogether b.toList := by
  have hwords : wordsOf (a ++ s ++ b).toList = wordsOf a.toList ++ wordsOf b.toList := by
    have hno := isWordChar_eq_false_of_not_hasWord hs.2
    rw [String.toList_append, String.toList_append, List.append_assoc]
    cases h : s.toList with
    | nil => exact absurd (String.toList_inj.1 h) hs.1
    | cons c cs =>
      rw [h, List.forall_mem_cons] at hno
      rw [List.cons_append, wordsOf_append_sep _ _ hno.1, wordsOf_separators _ hno.2]
  rw [runTogether, hwords, List.map_append, List.flatten_append]
  rfl

lemma displayName_append_separator (ha : HasWord a) (hs : IsSeparator s) (hb : HasWord b) :
    displayName (a ++ s ++ b) = displayName a ++ displayName b := by
  have hwhole : HasWord (a ++ s ++ b) := (ha.append_left s).append_left b
  rw [← String.toList_inj, String.toList_append, toList_displayName_of_hasWord hwhole,
    toList_displayName_of_hasWord ha, toList_displayName_of_hasWord hb,
    runTogether_append_separator hs]

/-- A name with others after it, each behind a separator. -/
def joinedBy (a : String) (parts : List (String × String)) : String :=
  parts.foldl (fun joined part => joined ++ part.1 ++ part.2) a

/-- Words stand on both sides of all the separators. -/
def Joins (a : String) (parts : List (String × String)) : Prop :=
  HasWord a ∧ ∀ part ∈ parts, IsSeparator part.1 ∧ HasWord part.2

instance (parts : List (String × String)) : Decidable (Joins a parts) :=
  inferInstanceAs (Decidable (HasWord a ∧ ∀ part ∈ parts, IsSeparator part.1 ∧ HasWord part.2))

lemma displayName_joinedBy {parts : List (String × String)} (h : Joins a parts) :
    displayName (joinedBy a parts) =
      (parts.map Prod.snd).foldl (fun joined b => joined ++ displayName b) (displayName a) := by
  induction parts generalizing a with
  | nil => rfl
  | cons part parts ih =>
    obtain ⟨ha, hparts⟩ := h
    rw [List.forall_mem_cons] at hparts
    obtain ⟨⟨hs, hb⟩, hrest⟩ := hparts
    have hfirst : HasWord (a ++ part.1 ++ part.2) := (ha.append_left part.1).append_left part.2
    rw [List.map_cons, List.foldl_cons, ← displayName_append_separator ha hs hb]
    exact ih ⟨hfirst, hrest⟩

example : displayName (joinedBy "widgets" [("/", "user"), ("-", "list")]) = "WidgetsUserList" := by
  decide

lemma isSeparator_singleton (h : ¬ (c.isAlphanum = true ∨ c = '$')) :
    IsSeparator (String.singleton c) := by
  refine ⟨by simp, ?_⟩
  rintro ⟨d, hd, hword⟩
  rw [String.toList_singleton, List.mem_singleton] at hd
  exact h (hd ▸ hword)

/-- **A display name is made of words alone.** It is a name of letters, digits and `$` that does not
begin with a small letter, and such names are those that stay as they are. What stands on the two
sides of a separator is shown one after the other; so the display name of joined names is the same
for all separators. -/
theorem displayName_made_of_words :
    (∀ name, IsDisplayName (displayName name) ∧
      displayName (displayName name) = displayName name) ∧
    (∀ name, displayName name = name ↔ IsDisplayName name) ∧
    (∀ a b c, HasWord a → HasWord b → ¬ (c.isAlphanum = true ∨ c = '$') →
      displayName (a ++ String.singleton c ++ b) = displayName a ++ displayName b) ∧
    (∀ a parts parts', Joins a parts → Joins a parts' →
      parts.map Prod.snd = parts'.map Prod.snd →
      displayName (joinedBy a parts) = displayName (joinedBy a parts')) := by
  refine ⟨fun name => ?_, fun name => displayName_eq_self_iff, fun a b c ha hb hc => ?_,
    fun a parts parts' h h' hsame => ?_⟩
  · have hshape := isDisplayName_displayName name
    exact ⟨hshape, displayName_eq_self_iff.2 hshape⟩
  · exact displayName_append_separator ha (isSeparator_singleton hc) hb
  · rw [displayName_joinedBy h, displayName_joinedBy h', hsame]

/-- One separator or another, and more than one in a row. -/
theorem displayName_made_of_words_between :
    HasWord "widgets" ∧ HasWord "-user" ∧ ¬ ('/'.isAlphanum = true ∨ '/' = '$') ∧
    displayName ("widgets" ++ String.singleton '/' ++ "-user") =
      displayName "widgets" ++ displayName "-user" ∧
    Joins "widgets" [("/", "user"), ("-", "list")] ∧
    Joins "widgets" [(" é ", "user"), ("__", "list")] ∧
    displayName (joinedBy "widgets" [("/", "user"), ("-", "list")]) =
      displayName (joinedBy "widgets" [(" é ", "user"), ("__", "list")]) := by
  have hwidgets : HasWord "widgets" := by decide
  have huser : HasWord "-user" := by decide
  have hslash : ¬ ('/'.isAlphanum = true ∨ '/' = '$') := by decide
  have hplain : Joins "widgets" [("/", "user"), ("-", "list")] := by decide
  have hother : Joins "widgets" [(" é ", "user"), ("__", "list")] := by decide
  obtain ⟨-, -, hjoin, hsame⟩ := displayName_made_of_words
  exact ⟨hwidgets, huser, hslash, hjoin _ _ _ hwidgets huser hslash, hplain, hother,
    hsame _ _ _ hplain hother rfl⟩

end ViewLayers
