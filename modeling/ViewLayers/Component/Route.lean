import ViewLayers.Path

/-!
Routes: a forest of path segments, each with the files that render it, load its data and describe
it.
-/

namespace ViewLayers

/-- The path pattern that a segment stands for: `...` matches all, `@name` a parameter, `@name?` an
optional one, and anything else itself. -/
def routePattern (segment : String) : String :=
  if segment = "..." then "*"
  else match segment.toList with
    | '@' :: cs =>
      if cs.getLast? = some '?' then
        let name := cs.dropLast
        if name.isEmpty then segment else ":" ++ String.ofList name ++ "?"
      else if cs.isEmpty then segment
      else ":" ++ String.ofList cs
    | _ => segment

structure Route where
  segment : String
  pattern : String
  directory : Path
  view : Option Path
  loader : Option Path
  metadata : Option Path
  children : List Route

namespace Route

/-- A route with nothing but its segment and directory. -/
def bare (segment : String) (directory : Path) : Route :=
  ⟨segment, routePattern segment, directory, none, none, none, []⟩

mutual

/-- The number of levels from here down. -/
def depth : Route → Nat
  | ⟨_, _, _, _, _, _, cs⟩ => 1 + depthOfList cs

def depthOfList : List Route → Nat
  | [] => 0
  | r :: rs => max r.depth (depthOfList rs)

end

mutual

/-- Whether a route here or below loads data. -/
def hasLoader : Route → Bool
  | ⟨_, _, _, _, l, _, cs⟩ => l.isSome || anyHasLoader cs

def anyHasLoader : List Route → Bool
  | [] => false
  | r :: rs => r.hasLoader || anyHasLoader rs

end

mutual

/-- The routes of a forest, each before those below it. -/
def preorder : Route → List Route
  | r@⟨_, _, _, _, _, _, cs⟩ => r :: preorderOfList cs

def preorderOfList : List Route → List Route
  | [] => []
  | r :: rs => r.preorder ++ preorderOfList rs

end

end Route

end ViewLayers
