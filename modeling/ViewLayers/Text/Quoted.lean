/-!
Text in double quotes: a quote and a backslash are escaped, and so are the control characters, five
of them by a letter and the others by their number. All else stands for itself.
-/

namespace ViewLayers.Text.Quoted

/-- The digit for a number below sixteen. -/
def hexDigit (n : Nat) : Char := if n < 10 then Char.ofNat (48 + n) else Char.ofNat (87 + n)

/-- What a character is written as between the quotes. -/
def encodeChar (c : Char) : List Char :=
  if c = '"' then ['\\', '"']
  else if c = '\\' then ['\\', '\\']
  else if c = '\n' then ['\\', 'n']
  else if c = '\r' then ['\\', 'r']
  else if c = '\t' then ['\\', 't']
  else if c.toNat = 8 then ['\\', 'b']
  else if c.toNat = 12 then ['\\', 'f']
  else if c.toNat < 32 then
    ['\\', 'u', '0', '0', hexDigit (c.toNat / 16), hexDigit (c.toNat % 16)]
  else [c]

def encode (cs : List Char) : List Char := cs.flatMap encodeChar

/-- A text as a literal. -/
def literal (s : String) : String := String.ofList ('"' :: encode s.toList ++ ['"'])

end ViewLayers.Text.Quoted
