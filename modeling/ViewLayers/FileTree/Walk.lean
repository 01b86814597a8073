import ViewLayers.FileTree.Resolve

/-!
The entries of a directory in the order of their names. Links are followed; a broken link, and one
that leads back to a directory above it in the same walk, are left out.
-/

namespace ViewLayers.FileTree

/-- What a walk finds under a name. A directory comes with the place it is. -/
structure Entry where
  name : String
  path : Path
  dir? : Option Place

def Entry.isDir (e : Entry) : Bool := e.dir?.isSome

/-- The entry for one child of the directory at `dir`; `above` are the directories of the walk that
a link must not lead back to. -/
def entry? (t : FileTree) (above : List Place) (dir : Path) (place : Place)
    (child : String × Node) : Option Entry :=
  let path := dir.join ⟨child.1⟩
  match child.2 with
  | .file _ => some ⟨child.1, path, none⟩
  | .directory _ => some ⟨child.1, path, some (place ++ [child.1])⟩
  | .link _ =>
    match t.resolve? path with
    | none => none
    | some target =>
      if t.isDirPlace target then
        if above.contains target then none else some ⟨child.1, path, some target⟩
      else some ⟨child.1, path, none⟩

/-- The entries of the directory `dir`, which is at `place`. -/
def entries (t : FileTree) (above : List Place) (dir : Path) (place : Place) : List Entry :=
  (((t.node? place).map Node.children).getD []).filterMap (t.entry? above dir place)

/-- The entries of a directory, walked on its own. -/
def listing (t : FileTree) (dir : Path) : List Entry :=
  match t.resolve? dir with
  | some place => if t.isDirPlace place then t.entries [place] dir place else []
  | none => []

/-- The directories below one that `enters` lets in, each before those below it. -/
def dirsBelow (t : FileTree) (enters : String → Bool) :
    Nat → List Place → Path → Place → List Path
  | 0, _, _, _ => []
  | depth + 1, above, path, place =>
    (t.entries (place :: above) path place).flatMap fun e =>
      match e.dir? with
      | some p => if enters e.name then
          e.path :: t.dirsBelow enters depth (place :: above) e.path p
        else []
      | none => []

/-- A walk follows no link twice to one directory, and between links it goes down the tree: so deep
it can go. -/
def walkDepth (t : FileTree) : Nat := (t.size + 1) * (t.size + 1)

/-- The directories below `root` in the order of a walk. -/
def walk (t : FileTree) (enters : String → Bool) (root : Path) : List Path :=
  match t.resolve? root with
  | some place =>
    if t.isDirPlace place then t.dirsBelow enters t.walkDepth [] root place else []
  | none => []

end ViewLayers.FileTree
