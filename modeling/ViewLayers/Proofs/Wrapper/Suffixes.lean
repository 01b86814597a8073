import Mathlib.Data.List.Basic
import ViewLayers.Proofs.Component.Naming
import ViewLayers.Wrapper.Syntax

/-!
Suffixes tell roles apart. A display name does not begin with a small letter, as all other suffixes
do. Those are words, of which some have a number after them, and one the name of an export.
-/

namespace ViewLayers

namespace Wrapper

/-! ### Numbers at the end -/

/-- The digits at the end of a text. -/
def digitsOf (cs : List Char) : List Char := (cs.reverse.takeWhile Char.isDigit).reverse

/-- A text without the digits at its end. -/
def wordOf (cs : List Char) : List Char := (cs.reverse.dropWhile Char.isDigit).reverse

lemma digitsOf_append {w ds : List Char} (hw : digitsOf w = []) (hd : ∀ d ∈ ds, d.isDigit = true) :
    digitsOf (w ++ ds) = ds := by
  rw [digitsOf, List.reverse_eq_nil_iff] at hw
  rw [digitsOf, List.reverse_append, List.takeWhile_append_of_pos (by simpa using hd), hw]
  simp

lemma wordOf_append {w ds : List Char} (hd : ∀ d ∈ ds, d.isDigit = true) :
    wordOf (w ++ ds) = wordOf w := by
  rw [wordOf, List.reverse_append, List.dropWhile_append_of_pos (by simpa using hd), wordOf]

/-! ### Roles read back -/

namespace Role

/-- The role whose suffix is a word. -/
def ofWord (word : String) : Option Role :=
  [createElement, lazy, suspense, useRoutes, useDataPlane, useAsyncHandler, useRouteLoader, useI18n,
    errorBoundary, skinned, placeholder, errorFallback, i18nBundle, view, i18nDefaults, localeFiles,
    routes, core, themed, props, dataPlane, load, messages, routed].find? (·.suffix = word)

/-- The role whose suffix is a word and a number. -/
def ofNumbered (i : Nat) : String → Option Role
  | "skin" => some (skin i)
  | "routeLoader" => some (routeLoader i)
  | "routeMeta" => some (routeMeta i)
  | "routeView" => some (routeView i)
  | "route" => some (route i)
  | _ => none

/-- The role that a suffix belongs to. -/
def ofSuffix (suffix : String) : Option Role :=
  match suffix.toList with
  | [] => none
  | c :: cs =>
    if c.isLower = false then some (component suffix)
    else if c = 'b' then some (binding (String.ofList (cs.drop 7)))
    else match digitsOf (c :: cs) with
      | [] => ofWord suffix
      | ds => ofNumbered (Nat.ofDigitChars 10 ds 0) (String.ofList (wordOf (c :: cs)))

/-- Display names are what components go by. -/
def Named : Role → Prop
  | component d => ∃ name, d = displayName name
  | _ => True

lemma ofSuffix_numbered (word : List Char) {c : Char} {cs : List Char} (i : Nat)
    (hw : word = c :: cs) (hc : c.isLower = true) (hb : c ≠ 'b') (hd : digitsOf word = []) :
    ofSuffix (String.ofList word ++ toString i) =
      ofNumbered i (String.ofList (wordOf word)) := by
  have hdigits : ∀ d ∈ Nat.toDigits 10 i, d.isDigit = true := fun d h =>
    Nat.isDigit_of_mem_toDigits (by decide) (by decide) h
  have hlist : (String.ofList word ++ toString i).toList = c :: (cs ++ Nat.toDigits 10 i) := by
    simp [hw]
  have hsplit : c :: (cs ++ Nat.toDigits 10 i) = word ++ Nat.toDigits 10 i := by simp [hw]
  rw [ofSuffix, hlist]
  simp only [hc, hb, if_false, Bool.true_eq_false]
  rw [hsplit, digitsOf_append hd hdigits, wordOf_append hdigits]
  split
  · rename_i h
    exact absurd h Nat.toDigits_ne_nil
  · rw [Nat.ofDigitChars_toDigits (by decide) (by decide)]

/-- **A role is read back from its suffix.** -/
theorem ofSuffix_suffix {r : Role} (h : r.Named) : ofSuffix r.suffix = some r := by
  cases r
  case component d =>
    obtain ⟨name, rfl⟩ := h
    obtain ⟨c, cs, hcs, hc⟩ := exists_toList_displayName name
    simp [ofSuffix, suffix, hcs, hc]
  case binding name =>
    have hb : ("binding_" ++ name).toList = 'b' :: ("inding_".toList ++ name.toList) := by simp
    have hlower : 'b'.isLower = true := rfl
    simp [ofSuffix, suffix, hb, hlower]
  case skin i => exact ofSuffix_numbered "skin".toList i rfl rfl (by decide) rfl
  case routeLoader i =>
    exact ofSuffix_numbered "routeLoader".toList i rfl rfl (by decide) rfl
  case routeMeta i =>
    exact ofSuffix_numbered "routeMeta".toList i rfl rfl (by decide) rfl
  case routeView i =>
    exact ofSuffix_numbered "routeView".toList i rfl rfl (by decide) rfl
  case route i => exact ofSuffix_numbered "route".toList i rfl rfl (by decide) rfl
  all_goals rfl

theorem suffix_inj {r r' : Role} (h : r.Named) (h' : r'.Named) (hs : r.suffix = r'.suffix) :
    r = r' := by
  have hr := ofSuffix_suffix h
  rw [hs, ofSuffix_suffix h'] at hr
  exact (Option.some.inj hr).symm

/-- Identifiers under one prefix tell roles apart as well. -/
theorem ident_inj {p : HygienePrefix} {r r' : Role} (h : r.Named) (h' : r'.Named)
    (hs : p.ident r.suffix = p.ident r'.suffix) : r = r' := by
  refine suffix_inj h h' (String.ext ?_)
  have hl := congrArg String.toList hs
  simpa [HygienePrefix.ident] using hl

end Role

end Wrapper

end ViewLayers
