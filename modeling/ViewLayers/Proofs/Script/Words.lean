import Mathlib.Data.List.Basic
import ViewLayers.Proofs.Text.Letters
import ViewLayers.Script.Lexer

/-!
Words of a script. An identifier that is written in ASCII alone is read as one word, as it stands.
-/

namespace ViewLayers.Script

open Text

variable {c : Char} {cs : List Char}

/-! ### Characters -/

lemma toNat_lt_of_isAsciiPart (h : isAsciiPart c = true) : c.toNat < 128 := by
  simp only [isAsciiPart, Char.isAlphanum, Bool.or_eq_true, beq_iff_eq, isDigit_iff,
    isAlpha_iff] at h
  rcases h with (h | rfl) | rfl
  · omega
  · decide
  · decide

lemma isDigit_eq_false_of_isAsciiStart (h : isAsciiStart c = true) : c.isDigit = false := by
  simp only [isAsciiStart, Bool.or_eq_true, beq_iff_eq, isAlpha_iff] at h
  rw [Bool.eq_false_iff, ne_eq, isDigit_iff]
  rcases h with (h | rfl) | rfl
  · omega
  · decide
  · decide

lemma isIdentifierStart_of_isAsciiStart (h : isAsciiStart c = true) :
    isIdentifierStart c = true := by
  rwa [isIdentifierStart, if_pos (toNat_lt_of_isAsciiPart (isAsciiPart_of_isAsciiStart h))]

lemma isIdentifierPart_of_isAsciiPart (h : isAsciiPart c = true) : isIdentifierPart c = true := by
  rwa [isIdentifierPart, if_pos (toNat_lt_of_isAsciiPart h)]

lemma ne_of_isAsciiPart {d : Char} (h : isAsciiPart c = true) (hd : isAsciiPart d = false) :
    c ≠ d := fun he => Bool.noConfusion (hd.symm.trans (he ▸ h))

/-! ### Words -/

lemma wordChars_cons {taken : List Char} {escaped : Bool}
    (hc : isAsciiPart c = true) (hfits :
      (if taken.isEmpty then isIdentifierStart c else isIdentifierPart c) = true) :
    wordChars taken escaped (c :: cs) = wordChars (c :: taken) escaped cs := by
  rw [wordChars]
  · simp only [hfits, if_true]
  · exact fun _ he => absurd he (ne_of_isAsciiPart hc (by decide))

lemma wordChars_of_all {taken : List Char} (hne : taken ≠ []) (h : cs.all isAsciiPart = true) :
    wordChars taken false cs = some (taken.reverse ++ cs, false, []) := by
  induction cs generalizing taken with
  | nil =>
    rw [wordChars, if_neg (by simpa using hne), List.append_nil]
  | cons c cs ih =>
    rw [List.all_cons, Bool.and_eq_true] at h
    have hfits : (if taken.isEmpty then isIdentifierStart c else isIdentifierPart c) = true := by
      rw [if_neg (by simpa using hne)]
      exact isIdentifierPart_of_isAsciiPart h.1
    rw [wordChars_cons h.1 hfits, ih (List.cons_ne_nil c taken) h.2, List.reverse_cons,
      List.append_assoc, List.singleton_append]

lemma markOf_marks_eq_none (h : isAsciiStart c = true) : markOf marks (c :: cs) = none := by
  have hmarks : (marks.all fun t => t.toList.head?.any fun d => !isAsciiStart d) = true := by decide
  rw [markOf, Option.map_eq_none_iff, List.find?_eq_none]
  intro t ht
  have hhead := List.all_eq_true.1 hmarks t ht
  cases hcs : t.toList with
  | nil => simp [hcs] at hhead
  | cons d ds =>
    have hd : isAsciiStart d = false := by simpa [hcs] using hhead
    have hne : d ≠ c := fun he => Bool.noConfusion (hd.symm.trans (he ▸ h))
    simp [hne]

/-- **An ASCII identifier is one word**, which is read as it stands. -/
theorem tokenAt_of_isAsciiIdentifier (h : isAsciiIdentifier cs = true) :
    tokenAt cs = some (.word (String.ofList cs) false, []) := by
  cases cs with
  | nil => exact absurd h Bool.false_ne_true
  | cons c cs =>
    rw [isAsciiIdentifier, Bool.and_eq_true] at h
    obtain ⟨hc, hcs⟩ := h
    have hpart := isAsciiPart_of_isAsciiStart hc
    have hne : ∀ {d : Char}, isAsciiPart d = false → c ≠ d := ne_of_isAsciiPart hpart
    have hdigit := isDigit_eq_false_of_isAsciiStart hc
    have hstart : (if ([] : List Char).isEmpty then isIdentifierStart c else isIdentifierPart c) =
        true := isIdentifierStart_of_isAsciiStart hc
    have hword : word (c :: cs) = some (.word (String.ofList (c :: cs)) false, []) := by
      rw [word, wordChars_cons hpart hstart,
        wordChars_of_all (List.cons_ne_nil c []) hcs]
      rfl
    rw [tokenAt]
    · rw [if_neg (by simp [hdigit]), markOf_marks_eq_none hc]
      exact hword
    -- the characters that begin other tokens
    · exact hne (by decide)
    · exact hne (by decide)
    · exact hne (by decide)
    · exact hne (by decide)
    · exact fun _ _ he _ => hne (by decide) he
    · exact fun he _ => hne (by decide) he
    · exact fun _ _ he _ => hne (by decide) he

end ViewLayers.Script
