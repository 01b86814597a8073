import ViewLayers.Text.Ranges
import ViewLayers.Text.UnprintableTable

/-!
Text shown in messages: in double quotes, with escapes for quotes, backslashes and every character
that does not show by itself.
-/

namespace ViewLayers.Text.Displayed

/-- Whether a character does not show by itself. -/
def isHidden (c : Char) : Bool :=
  if c.toNat < 128 then c.toNat < 32 || c.toNat == 127 else within unprintableBounds c.toNat

def displayChar (c : Char) : List Char :=
  if c = '"' then ['\\', '"']
  else if c = '\\' then ['\\', '\\']
  else if c = '\n' then ['\\', 'n']
  else if c = '\r' then ['\\', 'r']
  else if c = '\t' then ['\\', 't']
  else if c.toNat = 0 then ['\\', '0']
  else if isHidden c then ['\\', 'u', '{'] ++ Nat.toDigits 16 c.toNat ++ ['}']
  else [c]

def display (s : String) : String :=
  String.ofList ('"' :: s.toList.flatMap displayChar ++ ['"'])

/-- Texts in brackets with commas between them. -/
def displayList (ss : List String) : String := "[" ++ ", ".intercalate (ss.map display) ++ "]"

end ViewLayers.Text.Displayed
