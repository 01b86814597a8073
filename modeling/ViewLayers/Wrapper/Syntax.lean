import ViewLayers.Wrapper.Prefix

/-!
The modules that wrappers are: imports, and sections of declarations. An identifier is introduced
by the wrapper, and then named by what it stands for, or taken over from the async file.
-/

namespace ViewLayers.Wrapper

/-- What an identifier that the wrapper introduces stands for. -/
inductive Role where
  | createElement | lazy | suspense
  | useRoutes
  | useDataPlane | useAsyncHandler | useRouteLoader | useI18n | errorBoundary | skinned
  | placeholder | errorFallback | i18nBundle
  | skin (i : Nat)
  | routeLoader (i : Nat)
  | routeMeta (i : Nat)
  | view | i18nDefaults | localeFiles
  | routeView (i : Nat)
  | route (i : Nat)
  | routes | core | themed
  /-- The exported function, by its display name. -/
  | component (displayName : String)
  | props | dataPlane | load | messages | routed
  /-- The binding of an async export. -/
  | binding (name : String)
deriving DecidableEq

/-- What follows the prefix in the identifier. -/
def Role.suffix : Role → String
  | .createElement => "createElement"
  | .lazy => "lazy"
  | .suspense => "suspense"
  | .useRoutes => "useRoutes"
  | .useDataPlane => "useDataPlane"
  | .useAsyncHandler => "useAsyncHandler"
  | .useRouteLoader => "useRouteLoader"
  | .useI18n => "useI18n"
  | .errorBoundary => "errorBoundary"
  | .skinned => "skinned"
  | .placeholder => "placeholder"
  | .errorFallback => "errorFallback"
  | .i18nBundle => "i18nBundle"
  | .skin i => "skin" ++ toString i
  | .routeLoader i => "routeLoader" ++ toString i
  | .routeMeta i => "routeMeta" ++ toString i
  | .view => "view"
  | .i18nDefaults => "i18nDefaults"
  | .localeFiles => "translations"
  | .routeView i => "routeView" ++ toString i
  | .route i => "route" ++ toString i
  | .routes => "routes"
  | .core => "core"
  | .themed => "themed"
  | .component displayName => displayName
  | .props => "props"
  | .dataPlane => "dataPlane"
  | .load => "load"
  | .messages => "messages"
  | .routed => "routed"
  | .binding name => "binding_" ++ name

inductive Ident where
  | own (r : Role)
  /-- A name of the async file, used as it is. -/
  | taken (name : String)
deriving DecidableEq

def Ident.name (p : HygienePrefix) : Ident → String
  | .own r => p.ident r.suffix
  | .taken name => name

inductive Key where
  | name (s : String)
  | text (s : String)
  /-- All properties of the value. -/
  | spread

inductive Expr where
  | ident (i : Ident)
  | text (s : String)
  | null
  | yes
  | member (e : Expr) (name : String)
  | orElse (e e' : Expr)
  | call (f : Ident) (args : List Expr)
  /-- The files that match a pattern. -/
  | glob (args : List Expr)
  /-- A module loaded on demand. -/
  | load (specifier : String)
  /-- A function without parameters. -/
  | thunk (e : Expr)
  | object (fields : List (Key × Expr))
  | list (es : List Expr)
  /-- The element of a boundary around another. -/
  | boundary (component : Role) (fallback inner : Expr)

def Expr.own (r : Role) : Expr := .ident (.own r)

inductive Import where
  | named (source : String) (names : List (String × Ident))
  | default (source : String) (name : Role)

inductive Decl where
  | const (name : Role) (value : Expr)
  /-- A function of the props: its constants, and what it returns. -/
  | function (name : Role) (locals : List (Role × Expr)) (result : Expr)
  | displayName (name : Role) (text : String)
  | exportDefault (name : Role)

structure Module where
  imports : List Import
  sections : List (List Decl)

end ViewLayers.Wrapper
