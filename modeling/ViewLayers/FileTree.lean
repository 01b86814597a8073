import ViewLayers.Path

/-!
A tree of directories, files and symbolic links, and the directory in it that relative paths start
from.
-/

namespace ViewLayers

/-- Children stand in increasing order of their names. -/
inductive Node where
  /-- A file with its text, or without one if it holds no valid UTF-8. -/
  | file (text : Option String)
  | link (target : Path)
  | directory (children : List (String × Node))

namespace Node

def empty : Node := .directory []

def children : Node → List (String × Node)
  | .directory cs => cs
  | _ => []

def child? (t : Node) (name : String) : Option Node := (t.children.find? (·.1 == name)).map (·.2)

/-- The node that a chain of names leads to, no link followed. -/
def node? (t : Node) : List String → Option Node
  | [] => some t
  | name :: names => (t.child? name).bind (·.node? names)

/-- Put a node under a name, in the order of names, in place of one that was there. -/
def putChild (name : String) (node : Node) : List (String × Node) → List (String × Node)
  | [] => [(name, node)]
  | (n, t) :: cs =>
    if name < n then (name, node) :: (n, t) :: cs
    else if name == n then (name, node) :: cs
    else (n, t) :: putChild name node cs

/-- Put a node at the end of a chain of names, and make the directories that are missing on the
way. A directory that is already there is kept if `node` is an empty one. -/
def put (t : Node) (node : Node) : List String → Node
  | [] => match node, t with
    | .directory [], .directory cs => .directory cs
    | _, _ => node
  | name :: names =>
    .directory (putChild name (((t.child? name).getD empty).put node names) t.children)

mutual

/-- The number of nodes. -/
def size : Node → Nat
  | .file _ | .link _ => 1
  | .directory cs => 1 + sizeOfChildren cs

def sizeOfChildren : List (String × Node) → Nat
  | [] => 0
  | (_, t) :: cs => t.size + sizeOfChildren cs

end

end Node

structure FileTree where
  /-- What `/` leads to. -/
  top : Node
  /-- The names on the way down to the directory that relative paths start from. -/
  start : List String

namespace FileTree

/-- The node that a chain of names leads to from `/`, no link followed. -/
def node? (t : FileTree) (names : List String) : Option Node := t.top.node? names

def size (t : FileTree) : Nat := t.top.size

/-- Where a path starts. -/
def startOf (t : FileTree) (p : Path) : List String := if p.isAbsolute then [] else t.start

/-- The names of a path that has only names. -/
def namesOf (p : Path) : List String :=
  p.steps.filterMap fun
    | .name s => some s
    | _ => none

def put (t : FileTree) (node : Node) (p : Path) : FileTree :=
  { t with top := t.top.put node (t.startOf p ++ namesOf p) }

/-- The directory that relative paths start from in a tree that is built. It has a name that no
file can have, so that no absolute path leads into it. -/
def startName : String := "\x00"

/-- A tree from its directories, files and links. -/
def build (dirs : List Path) (files : List (Path × Option String)) (links : List (Path × Path)) :
    FileTree :=
  let t : FileTree := ⟨Node.empty.put .empty [startName], [startName]⟩
  let t := dirs.foldl (fun t p => t.put .empty p) t
  let t := files.foldl (fun t (p, text) => t.put (.file text) p) t
  links.foldl (fun t (p, target) => t.put (.link target) p) t

end FileTree

end ViewLayers
