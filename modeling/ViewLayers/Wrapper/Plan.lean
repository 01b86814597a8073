import ViewLayers.Component.Basic

/-!
Which layers stand around a view. From the outside in they are the error boundary, the suspense
boundary, the theme, the function that runs the hooks, and the view.
-/

namespace ViewLayers

structure Plan where
  errorBoundary : Bool
  /-- Forced by localization and themes, which suspend while they load. -/
  suspense : Bool
  themed : Bool
  /-- A function of its own runs hooks. -/
  hookCore : Bool
  /-- Hooks and boundaries stand in different functions. -/
  split : Bool
deriving DecidableEq

/-- The plan for a component whose async file gives `bindings` bindings. -/
def Component.plan (c : Component) (bindings : Nat) : Plan :=
  let themed := !c.skins.isEmpty
  { errorBoundary := c.has .error
    suspense := c.has .placeholder || c.has .i18n || themed
    themed
    hookCore := decide (0 < bindings) || c.has .i18n || !c.routes.isEmpty
    split := c.has .i18n || themed }

end ViewLayers
