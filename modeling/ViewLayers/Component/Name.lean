import ViewLayers.Text.Split

/-!
Display names: the words of a component's path, each with a capital, run together.
-/

namespace ViewLayers

open Text

/-- A character that can stand in a display name. -/
def isWordChar (c : Char) : Bool := c.isAlphanum || c == '$'

def capitalize : List Char → List Char
  | [] => []
  | c :: cs => c.toUpper :: cs

/-- The words of a name, between runs of other characters. -/
def wordsOf (cs : List Char) : List (List Char) :=
  (splitBy (fun c => !isWordChar c) cs).filter fun w => !w.isEmpty

/-- The name of a component that has no word in its own. -/
def namelessName : List Char := "Component".toList

def displayName (name : String) : String :=
  let joined := ((wordsOf name.toList).map capitalize).flatten
  String.ofList (if joined.isEmpty then namelessName else joined)

end ViewLayers
