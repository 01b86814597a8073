import ViewLayers.Localization.Messages
import ViewLayers.Proofs.Dict
import ViewLayers.Proofs.Text.Pieces

/-!
Which file holds the messages for a locale. A file is one for a tag by the whole last part of its
path, so the ending of a path that is looked for tells no other tag's file. The language of a locale
is asked only where the locale itself has no file.
-/

namespace ViewLayers

open Text

variable {urls : Dict String} {tag locale path url : String}

/-! ### Files for a tag -/

/-- The path has a slash, and the last of its parts is the name of the tag's file. -/
def IsFileFor (tag path : String) : Prop :=
  '/' ∈ path.toList ∧
    (splitBy (· == '/') path.toList).getLast? = some (tag ++ ".json").toList

lemma isSuffixOf_iff_isFileFor (htag : '/' ∉ tag.toList) (path : String) :
    ("/" ++ tag ++ ".json").toList.isSuffixOf path.toList = true ↔ IsFileFor tag path := by
  have hslash : ('/' == '/') = true := by decide
  have hname : ∀ {cs : List Char}, '/' ∉ cs → splitBy (· == '/') cs = [cs] := fun h =>
    splitBy_eq_singleton (forall_beq_eq_false_iff.2 h)
  have hending : ("/" ++ tag ++ ".json").toList = '/' :: (tag ++ ".json").toList := by simp
  have hfile : '/' ∉ (tag ++ ".json").toList := by
    simpa using htag
  rw [hending, List.isSuffixOf_iff_suffix]
  constructor
  · rintro ⟨dir, hpath⟩
    refine ⟨hpath ▸ List.mem_append_right _ List.mem_cons_self, ?_⟩
    rw [← hpath, splitBy_append_sep (· == '/') _ _ hslash, hname hfile, List.getLast?_concat]
  · rintro ⟨hmem, hlast⟩
    -- the path is cut at its last slash
    obtain ⟨name, dir, hrev, hnot⟩ := List.eq_append_cons_of_mem (List.mem_reverse.2 hmem)
    have hpath : path.toList = dir.reverse ++ '/' :: name.reverse := by
      rw [← List.reverse_reverse path.toList, hrev]
      simp
    rw [hpath, splitBy_append_sep (· == '/') _ _ hslash, hname (mt List.mem_reverse.1 hnot),
      List.getLast?_concat, Option.some.injEq] at hlast
    exact ⟨dir.reverse, by rw [hpath, hlast]⟩

lemma tagUrl?_eq_some_iff (htag : '/' ∉ tag.toList) :
    tagUrl? urls tag = some url ↔
      ∃ path, urls.IsFirst (IsFileFor tag) path ∧ urls.get? path = some url := by
  rw [tagUrl?, Option.map_eq_some_iff]
  constructor
  · rintro ⟨⟨path, _⟩, hfind, rfl⟩
    exact ⟨path, (Dict.find?_entries_eq_some_iff (isSuffixOf_iff_isFileFor htag)).1 hfind⟩
  · rintro ⟨path, hfirst⟩
    have hfind := (Dict.find?_entries_eq_some_iff (isSuffixOf_iff_isFileFor htag)).2 hfirst
    exact ⟨(path, url), hfind, rfl⟩

lemma tagUrl?_eq_none_iff (htag : '/' ∉ tag.toList) :
    tagUrl? urls tag = none ↔ ∀ path ∈ urls.keys, ¬ IsFileFor tag path := by
  rw [tagUrl?, Option.map_eq_none_iff]
  exact Dict.find?_entries_eq_none_iff (isSuffixOf_iff_isFileFor htag)

/-! ### The language of a locale -/

structure IsLanguageOf (tag locale : String) : Prop where
  ne_empty : tag ≠ ""
  hyphen : '-' ∉ tag.toList
  cut : ∃ rest, locale = tag ++ "-" ++ rest

lemma isLanguageOf_iff : IsLanguageOf tag locale ↔
    locale.toList.takeWhile (· ≠ '-') = tag.toList ∧ tag.toList ≠ [] ∧
      tag.toList ≠ locale.toList := by
  have hfun : (fun c : Char => decide (c ≠ '-')) = fun c => !(c == '-') := by
    funext c
    by_cases hc : c = '-' <;> simp [hc]
  rw [hfun, takeWhile_not_eq_iff, forall_beq_eq_false_iff]
  constructor
  · rintro ⟨hne, hhyphen, rest, rfl⟩
    exact ⟨⟨hhyphen, .inr ⟨'-', rest.toList, rfl, by simp⟩⟩, by simpa using hne, by simp⟩
  · rintro ⟨⟨hhyphen, hcut⟩, hne, hwhole⟩
    obtain ⟨c, rest, hc, hcut⟩ := hcut.resolve_left (Ne.symm hwhole)
    obtain rfl : c = '-' := by simpa using hc
    refine ⟨by simpa using hne, hhyphen, String.ofList rest, ?_⟩
    rw [← String.toList_inj, hcut]
    simp

lemma language?_eq_some_iff : language? locale = some tag ↔ IsLanguageOf tag locale := by
  rw [language?, isLanguageOf_iff]
  generalize locale.toList.takeWhile (· ≠ '-') = language
  split
  · rename_i h
    refine iff_of_false (by simp) ?_
    rintro ⟨rfl, hne, hwhole⟩
    exact h.elim hne hwhole
  · rename_i h
    rw [not_or] at h
    rw [Option.some.injEq]
    constructor
    · rintro rfl
      rw [String.toList_ofList]
      exact ⟨rfl, h⟩
    · rintro ⟨rfl, -⟩
      exact String.ofList_toList

/-! ### The file for a locale -/

inductive Resolves (urls : Dict String) (locale : String) : Option String → Prop
  | whole {path : String} (first : urls.IsFirst (IsFileFor locale) path) :
    Resolves urls locale (urls.get? path)
  | language {tag path : String} (unnamed : ∀ path ∈ urls.keys, ¬ IsFileFor locale path)
    (isLanguageOf : IsLanguageOf tag locale) (first : urls.IsFirst (IsFileFor tag) path) :
    Resolves urls locale (urls.get? path)
  | missing (unnamed : ∀ path ∈ urls.keys, ¬ IsFileFor locale path)
    (untold : ∀ tag, IsLanguageOf tag locale → ∀ path ∈ urls.keys, ¬ IsFileFor tag path) :
    Resolves urls locale none

/-- **The first file for the locale is chosen, and without one the first for its language.** -/
theorem resolves_localeUrl? (hlocale : '/' ∉ locale.toList) :
    Resolves urls locale (localeUrl? urls locale) := by
  rw [localeUrl?]
  cases hwhole : tagUrl? urls locale with
  | some url =>
    obtain ⟨path, hfirst, hget⟩ := (tagUrl?_eq_some_iff hlocale).1 hwhole
    rw [Option.some_or, ← hget]
    exact .whole hfirst
  | none =>
    have hunnamed := (tagUrl?_eq_none_iff hlocale).1 hwhole
    have hslash : ∀ {tag}, IsLanguageOf tag locale → '/' ∉ tag.toList := by
      rintro tag ⟨-, -, rest, rfl⟩ htag
      exact hlocale (by simp [htag])
    rw [Option.none_or]
    cases hlanguage : (language? locale).bind (tagUrl? urls) with
    | some url =>
      obtain ⟨tag, htag, hurl⟩ := Option.bind_eq_some_iff.1 hlanguage
      have hof := language?_eq_some_iff.1 htag
      obtain ⟨path, hfirst, hget⟩ := (tagUrl?_eq_some_iff (hslash hof)).1 hurl
      rw [← hget]
      exact .language hunnamed hof hfirst
    | none =>
      refine .missing hunnamed fun tag hof => ?_
      rw [← tagUrl?_eq_none_iff (hslash hof)]
      exact Option.bind_eq_none_iff.1 hlanguage tag (language?_eq_some_iff.2 hof)

/-- Files for tags that are longer or end alike, one at the root, and two for the language. -/
def portuguese : Dict String :=
  .ofList [("i18n/en-pt.json", "/0"), ("nav/pt.json", "/1"), ("i18n/pt.json", "/2"),
    ("i18n/pt-BR-x.json", "/3"), ("pt-BR.json", "/4")]

theorem resolves_localeUrl?_of_language :
    '/' ∉ "pt-BR".toList ∧ Resolves portuguese "pt-BR" (some "/2") := by
  have hslash : '/' ∉ "pt-BR".toList := by decide
  have hurl : localeUrl? portuguese "pt-BR" = some "/2" := rfl
  have hresolves := @resolves_localeUrl? portuguese _ hslash
  rw [hurl] at hresolves
  exact ⟨hslash, hresolves⟩

end ViewLayers
