/-!
Cutting a text at its separators, and putting pieces together again.
-/

namespace ViewLayers.Text

/-- The pieces between the characters that satisfy `p`; one more than there are of those. -/
def splitBy (p : Char → Bool) : List Char → List (List Char)
  | [] => [[]]
  | c :: cs =>
    if p c then [] :: splitBy p cs
    else match splitBy p cs with
      | [] => [[c]]
      | piece :: pieces => (c :: piece) :: pieces

/-- The pieces with `sep` between them. -/
def joinWith (sep : String) : List String → String
  | [] => ""
  | [s] => s
  | s :: ss => s ++ sep ++ joinWith sep ss

theorem splitBy_ne_nil (p : Char → Bool) (cs : List Char) : splitBy p cs ≠ [] := by
  cases cs with
  | nil => simp [splitBy]
  | cons c cs => simp only [splitBy]; split <;> (try split) <;> simp

theorem splitBy_append_sep (p : Char → Bool) (cs ds : List Char) {c : Char} (h : p c = true) :
    splitBy p (cs ++ c :: ds) = splitBy p cs ++ splitBy p ds := by
  induction cs with
  | nil => simp [splitBy, h]
  | cons d cs ih =>
    simp only [List.cons_append, splitBy, ih]
    split
    · rfl
    · cases hs : splitBy p cs with
      | nil => exact absurd hs (splitBy_ne_nil p cs)
      | cons piece pieces => rfl

end ViewLayers.Text
