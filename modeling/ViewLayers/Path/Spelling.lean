import ViewLayers.Path
import ViewLayers.Text.Bytes

/-!
Paths of bytes. A path cares for slashes and dots alone, so it may have bytes for characters where
the names of files are no texts. How texts are read as paths, and paths written as texts, is their
spelling.
-/

namespace ViewLayers

open Text

namespace Path

/-- Each byte is the character with its number. -/
def charOfByte (b : UInt8) : Char := Char.ofNat b.toNat

def ofBytes (bs : List UInt8) : Path := ⟨String.ofList (bs.map charOfByte)⟩

def bytes (p : Path) : List UInt8 := p.text.toList.map fun c => UInt8.ofNat c.toNat

/-- A path of characters by its bytes. -/
def utf8 (p : Path) : Path := ofBytes (bytesOf p.text)

end Path

structure Spelling where
  read : String → Path
  write : Path → String

namespace Spelling

/-- Paths of characters are texts. -/
def plain : Spelling := ⟨Path.mk, Path.text⟩

/-- Paths of bytes hold those of a text, and are written with replacements for what is none. -/
def bytes : Spelling := ⟨fun s => Path.utf8 ⟨s⟩, fun p => lossy p.bytes⟩

end Spelling

end ViewLayers
