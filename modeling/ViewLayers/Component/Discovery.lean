import ViewLayers.Component.Basic
import ViewLayers.FileTree.Walk

/-!
Finding components in a file tree by the names of their files. A directory with a view is a
component if it has a concern, a skin or a route. Directories in brackets hold routes, and no
components.
-/

namespace ViewLayers

namespace Convention

def viewExtensions : List String := [".tsx", ".jsx"]
def entryExtensions : List String := [".ts", ".tsx", ".js", ".jsx"]
def skinsDirectory : Path := ⟨"skins"⟩
def routesDirectory : Path := ⟨"[routes]"⟩
def indexStem : String := "index"
def loaderStem : String := "async"
def metadataStem : String := "meta"

/-- The name in brackets, without them. -/
def bracketed? (name : String) : Option String :=
  match name.toList with
  | '[' :: cs => if cs.getLast? = some ']' then some (String.ofList cs.dropLast) else none
  | _ => none

def isBracketed (name : String) : Bool := (bracketed? name).isSome

/-- What stands before `ending` in a name. -/
def withoutEnding? (name ending : String) : Option String :=
  if ending.toList.isSuffixOf name.toList then
    some (String.ofList (name.toList.take (name.length - ending.length)))
  else none

/-- The name of an entry file without its extension. -/
def entryStem? (name : String) : Option String :=
  (entryExtensions.findSome? (withoutEnding? name)).filter (· != "")

end Convention

namespace FileTree

open Convention

/-- The first file among those named by the stem and one of the extensions. -/
def findFile (t : FileTree) (dir : Path) (stem : String) (extensions : List String) :
    Option Path :=
  (extensions.map fun e => dir.join ⟨stem ++ e⟩).find? t.isFile

/-- The file of a concern: beside the view, or the index of a directory of its own. -/
def findConcern (t : FileTree) (dir : Path) (k : Concern) : Option Path :=
  match t.findFile dir k.stem entryExtensions with
  | some p => some p
  | none =>
    let sub := dir.join ⟨k.stem⟩
    if t.isDir sub then t.findFile sub indexStem entryExtensions else none

/-- The files of a directory of skins under their stems; the index is none of them. -/
def findSkins (t : FileTree) (dir : Path) : Dict Path :=
  let stems := (t.listing dir).filterMap fun e =>
    if e.isDir then none else (entryStem? e.name).filter (· != indexStem)
  Dict.ofList (stems.filterMap fun s => (t.findFile dir s entryExtensions).map (s, ·))

/-- How deep routes can lie: between two links they go down the tree. -/
def routeDepth (t : FileTree) : Nat := (maxLinks + 2) * (t.size + 1)

/-- The routes in a directory, one for each directory in brackets. -/
def routesIn (t : FileTree) : Nat → Path → List Route
  | 0, _ => []
  | depth + 1, dir =>
    (t.listing dir).filterMap fun e =>
      if e.isDir then
        (bracketed? e.name).map fun segment =>
          { segment
            pattern := routePattern segment
            directory := e.path
            view := t.findFile e.path indexStem viewExtensions
            loader := t.findFile e.path loaderStem entryExtensions
            metadata := t.findFile e.path metadataStem entryExtensions
            children := t.routesIn depth e.path }
      else none

def findRoutes (t : FileTree) (root : Path) : List Route :=
  if t.isDir root then t.routesIn t.routeDepth root else []

/-- The name of the component in `dir`: its steps below the root, or all of them elsewhere. -/
def componentName (root dir : Path) : String :=
  Text.joinWith "/" (((root.below? dir).getD dir.steps).map Step.text)

/-- The component in a directory, if it is one. -/
def describe (t : FileTree) (root dir : Path) : Option Component :=
  match t.findFile dir indexStem viewExtensions with
  | none => none
  | some view =>
    let c : Component :=
      { name := componentName root dir
        directory := dir
        view
        concerns := .ofFunction (t.findConcern dir)
        skins := t.findSkins (dir.join skinsDirectory)
        routes := t.findRoutes (dir.join routesDirectory) }
    if c.isManaged then some c else none

/-- All components below a directory, each before those below it. -/
def components (t : FileTree) (root : Path) : List Component :=
  (t.walk (fun name => !isBracketed name) root).filterMap (t.describe root)

end FileTree

end ViewLayers
