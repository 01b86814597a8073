/-!
Texts and bytes. A text has the bytes of its UTF-8. Bytes that are no UTF-8 are read as a text all
the same: a replacement stands for what is no character, and the bytes are lost.
-/

namespace ViewLayers.Text

/-- The bytes of a text in UTF-8. -/
def bytesOf (s : String) : List UInt8 := s.toUTF8.data.toList

/-- The bounds of the bytes that make a character with a first byte. -/
def boundsAfter (b : UInt8) : List (UInt8 × UInt8) :=
  if 0xC2 ≤ b ∧ b ≤ 0xDF then [(0x80, 0xBF)]
  else if b = 0xE0 then [(0xA0, 0xBF), (0x80, 0xBF)]
  else if b = 0xED then [(0x80, 0x9F), (0x80, 0xBF)]
  else if 0xE1 ≤ b ∧ b ≤ 0xEF then [(0x80, 0xBF), (0x80, 0xBF)]
  else if b = 0xF0 then [(0x90, 0xBF), (0x80, 0xBF), (0x80, 0xBF)]
  else if b = 0xF4 then [(0x80, 0x8F), (0x80, 0xBF), (0x80, 0xBF)]
  else if 0xF1 ≤ b ∧ b ≤ 0xF3 then [(0x80, 0xBF), (0x80, 0xBF), (0x80, 0xBF)]
  else []

/-- How many bytes are within bounds, one after the other, before the first that is not. -/
def countWithin : List (UInt8 × UInt8) → List UInt8 → Nat
  | (low, high) :: bounds, b :: bs => if low ≤ b ∧ b ≤ high then countWithin bounds bs + 1 else 0
  | _, _ => 0

def replacement : Char := '\uFFFD'

/-- The characters of bytes after the first `skipped`. What begins as a character does but makes
none is replaced as a whole. -/
def lossyAfter : Nat → List UInt8 → List Char
  | _, [] => []
  | skipped + 1, _ :: bs => lossyAfter skipped bs
  | 0, b :: bs =>
    match (b :: bs).toByteArray.utf8DecodeChar? 0 with
    | some c => c :: lossyAfter (c.utf8Size - 1) bs
    | none => replacement :: lossyAfter (countWithin (boundsAfter b) bs) bs

def lossy (bs : List UInt8) : String := String.ofList (lossyAfter 0 bs)

end ViewLayers.Text
