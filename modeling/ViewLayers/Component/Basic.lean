import ViewLayers.Component.Concern
import ViewLayers.Component.Name
import ViewLayers.Component.Route
import ViewLayers.Dict

/-!
A component: a directory with a view, and the concerns, skins and routes found beside it.
-/

namespace ViewLayers

structure Component where
  /-- The directory's path below the root of all components, with slashes. -/
  name : String
  directory : Path
  view : Path
  concerns : Concerns
  skins : Dict Path
  routes : List Route

namespace Component

def has (c : Component) (k : Concern) : Bool := (c.concerns.get k).isSome

/-- A component is managed if anything is there to put around its view. -/
def isManaged (c : Component) : Bool :=
  !c.concerns.isEmpty || !c.skins.isEmpty || !c.routes.isEmpty

def hasRouteLoaders (c : Component) : Bool := Route.anyHasLoader c.routes

def displayName (c : Component) : String := ViewLayers.displayName c.name

end Component

end ViewLayers
