import ViewLayers.FileTree

/-!
Where a path leads to in a file tree. Links are followed, a bounded number of them for one path.
-/

namespace ViewLayers

/-- A place that a path can lead to: the names on the way there from `/`. -/
abbrev Place := List String

namespace FileTree

/-- The number of links that one path may lead through. -/
def maxLinks : Nat := 40

/-- The pieces of a path's text between slashes. -/
def piecesOf (p : Path) : List String := p.pieces.map String.ofList

/-- Whether a place is a directory. -/
def isDirPlace (t : FileTree) (place : Place) : Bool :=
  match t.node? place with
  | some (.directory _) => true
  | _ => false

/-- Follow the pieces of a path from a place up to the first link, and go on from there with
`onLink`. Every piece, an empty one too, needs a directory to be looked up in; above `/` there is
`/` itself. -/
def followWith (t : FileTree) (onLink : Place → List String → Option Place) (place : Place) :
    List String → Option Place
  | [] => some place
  | piece :: pieces =>
    if !t.isDirPlace place then none
    else if piece == "" || piece == "." then t.followWith onLink place pieces
    else if piece == ".." then t.followWith onLink place.dropLast pieces
    else match t.node? (place ++ [piece]) with
      | none => none
      | some (.link target) =>
        onLink (if target.isAbsolute then [] else place) (piecesOf target ++ pieces)
      | some _ => t.followWith onLink (place ++ [piece]) pieces

/-- Follow the pieces of a path from a place, through a number of links at most. -/
def follow (t : FileTree) : Nat → Place → List String → Option Place
  | 0 => t.followWith fun _ _ => none
  | links + 1 => t.followWith (t.follow links)

/-- Where a path leads to. The empty path leads nowhere, and so does an empty link. -/
def resolve? (t : FileTree) (p : Path) : Option Place :=
  if p.text.isEmpty then none
  else t.follow maxLinks (t.startOf p) (piecesOf p)

def isDir (t : FileTree) (p : Path) : Bool := (t.resolve? p).any t.isDirPlace

def fileAt? (t : FileTree) (place : Place) : Option (Option String) :=
  match t.node? place with
  | some (.file text) => some text
  | _ => none

def isFile (t : FileTree) (p : Path) : Bool := ((t.resolve? p).bind t.fileAt?).isSome

/-- The text of a file. -/
def read? (t : FileTree) (p : Path) : Option String := ((t.resolve? p).bind t.fileAt?).join

end FileTree

end ViewLayers
