import ViewLayers.Path.Spelling
import ViewLayers.Wrapper.Synthesis

/-!
The registry of a project's components, by their directories. An import that leads to such a
directory is given an id of its own, and the id stands for the component's wrapper.
-/

namespace ViewLayers

/-- Things by the normal forms of their directories; no two entries have the same one. -/
structure Catalog (κ : Type) where
  components : List (Path × κ)

namespace Catalog

variable {κ ω : Type}

/-- Put a thing under its directory, over one that was there. -/
def insert (k : Catalog κ) (directory : Path) (c : κ) : Catalog κ :=
  let key := directory.normalize
  ⟨k.components.filter (fun e => e.1.steps ≠ key.steps) ++ [(key, c)]⟩

def ofList (directory : κ → Path) (cs : List κ) : Catalog κ :=
  cs.foldl (fun k c => k.insert (directory c) c) ⟨[]⟩

def size (k : Catalog κ) : Nat := k.components.length

def isEmpty (k : Catalog κ) : Bool := k.components.isEmpty

/-- The thing under a path that means the same as its key. -/
def find? (k : Catalog κ) (key : Path) : Option κ :=
  (k.components.find? fun e => e.1.steps = key.steps).map (·.2)

def get? (k : Catalog κ) (directory : Path) : Option κ := k.find? directory.normalize

/-- What every id begins with. -/
def idMark : String := "\x00weave:component:"

/-- The normal form of what a source leads to from a file. -/
def target (sp : Spelling) (source : String) (file : Path) : Path :=
  ((file.parent?.getD ⟨""⟩).join (sp.read source)).normalize

/-- The id of the thing that `source` leads to from the file `importer`. Only sources that begin
with a dot or a slash lead to one. -/
def resolve? (k : Catalog κ) (sp : Spelling) (source : String) (importer : Option Path) :
    Option String :=
  match importer with
  | none => none
  | some importer =>
    match source.toList with
    | c :: _ =>
      if c = '.' ∨ c = '/' then
        if (k.find? (target sp source importer)).isSome then
          some (idMark ++ sp.write (target sp source importer))
        else none
      else none
    | [] => none

/-- The thing that an id stands for. -/
def component? (k : Catalog κ) (sp : Spelling) (id : String) : Option κ :=
  if idMark.toList.isPrefixOf id.toList then
    k.find? (sp.read (String.ofList (id.toList.drop idMark.length)))
  else none

/-- What is made of the thing that an id stands for. -/
def load? (k : Catalog κ) (sp : Spelling) (make : κ → ω) (id : String) : Option ω :=
  (k.component? sp id).map make

end Catalog

structure Registry extends Catalog Component where
  root : Path
  options : Options

namespace Registry

def ofList (root : Path) (options : Options) (cs : List Component) : Registry :=
  { Catalog.ofList Component.directory cs with root, options }

def resolve? (r : Registry) (source : String) (importer : Option Path) : Option String :=
  r.toCatalog.resolve? .plain source importer

/-- The wrapper that an id stands for. -/
def load? (r : Registry) (t : FileTree) (id : String) (p : HygienePrefix) : Option String :=
  r.toCatalog.load? .plain (fun c => c.wrapper t r.root r.options p) id

end Registry

end ViewLayers
