import ViewLayers.Text.Ranges
import ViewLayers.Text.IdentifierTable

/-!
Which characters start and continue an identifier, and which texts are identifiers written in
ASCII alone.
-/

namespace ViewLayers.Text

/-- An ASCII letter, `_` or `$`. -/
def isAsciiStart (c : Char) : Bool := c.isAlpha || c == '_' || c == '$'

/-- An ASCII letter or digit, `_` or `$`. -/
def isAsciiPart (c : Char) : Bool := c.isAlphanum || c == '_' || c == '$'

/-- A character that may start an identifier of a script. -/
def isIdentifierStart (c : Char) : Bool :=
  if c.toNat < 128 then isAsciiStart c else within idStartBounds c.toNat

/-- A character that may continue one; the two zero-width joiners are among them. -/
def isIdentifierPart (c : Char) : Bool :=
  if c.toNat < 128 then isAsciiPart c
  else within idContinueBounds c.toNat || c.toNat == 0x200c || c.toNat == 0x200d

/-- A start character followed by part characters, all ASCII. -/
def isAsciiIdentifier (cs : List Char) : Bool :=
  match cs with
  | [] => false
  | c :: cs => isAsciiStart c && cs.all isAsciiPart

theorem isAsciiPart_of_isAsciiStart {c : Char} (h : isAsciiStart c = true) :
    isAsciiPart c = true := by
  simp only [isAsciiStart, isAsciiPart, Char.isAlphanum, Bool.or_eq_true] at *
  grind

theorem isAsciiIdentifier_append {cs ds : List Char} (h : isAsciiIdentifier cs = true)
    (hd : ds.all isAsciiPart = true) : isAsciiIdentifier (cs ++ ds) = true := by
  cases cs with
  | nil => simp [isAsciiIdentifier] at h
  | cons c cs => simp_all [isAsciiIdentifier]

end ViewLayers.Text
