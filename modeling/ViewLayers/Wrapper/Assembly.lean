import ViewLayers.Wrapper.Options
import ViewLayers.Wrapper.Plan
import ViewLayers.Wrapper.Syntax

/-!
The wrapper module of a component. Each layer of the plan becomes a part of it, and every file of
the component an import.
-/

namespace ViewLayers.Wrapper

open Text

/-! ### Names -/

/-- Words that cannot name an import. -/
def reservedNames : List String :=
  ["await", "break", "case", "catch", "class", "const", "continue", "debugger", "default",
   "delete", "do", "else", "enum", "export", "extends", "false", "finally", "for", "function",
   "if", "implements", "import", "in", "instanceof", "interface", "let", "new", "null",
   "package", "private", "protected", "public", "return", "static", "super", "switch", "this",
   "throw", "true", "try", "typeof", "var", "void", "while", "with", "yield", "arguments",
   "eval"]

/-- Whether an export can be imported under its own name. -/
def isUsable (name : String) : Bool :=
  isAsciiIdentifier name.toList && !reservedNames.contains name

/-- How a module refers to a file: from the project's root on if it lies below it, else by its
whole path with forward slashes. -/
def specifier (root file : Path) : String :=
  match root.below? file with
  | some steps =>
    "/" ++ joinWith "/" (steps.filterMap fun
      | .name s => some s
      | _ => none)
  | none => String.ofList (file.text.toList.map fun c => if c = '\\' then '/' else c)

/-! ### What a wrapper is made of -/

structure NumberedRoute where
  index : Nat
  route : Route
  loaderExport : Option String

/-- What goes into a wrapper: the component, where its project is, what to import from, the exports
of a file, and the usable ones of the async file. -/
structure Source where
  component : Component
  root : Path
  options : Options
  exportsOf : Path → List String

namespace Source

def bindings (s : Source) : List String :=
  match s.component.concerns.get .async with
  | some file => (s.exportsOf file).filter isUsable
  | none => []

def plan (s : Source) : Plan := s.component.plan s.bindings.length

def specifier (s : Source) (file : Path) : String := Wrapper.specifier s.root file

def routes (s : Source) : List NumberedRoute :=
  (Route.preorderOfList s.component.routes).zipIdx.map fun (r, i) =>
    ⟨i, r, r.loader.bind fun file => (s.exportsOf file).head?⟩

/-! ### Imports -/

def optional {α : Type} (b : Bool) (a : α) : List α := if b then [a] else []

@[simp] theorem mem_optional {α : Type} {b : Bool} {a x : α} :
    x ∈ optional b a ↔ b = true ∧ x = a := by
  cases b <;> simp [optional]

@[simp] theorem map_optional {α β : Type} (f : α → β) (b : Bool) (a : α) :
    (optional b a).map f = optional b (f a) := by
  cases b <;> simp [optional]

theorem flatMap_optional {α β : Type} (f : α → List β) (b : Bool) (a : α) :
    (optional b a).flatMap f = if b then f a else [] := by
  cases b <;> simp [optional]

def frameworkNames (s : Source) : List (String × Role) :=
  [("createElement", .createElement), ("lazy", .lazy)]
    ++ optional s.plan.suspense ("Suspense", .suspense)

def runtimeNames (s : Source) : List (String × Role) :=
  let binds := !s.bindings.isEmpty
  let loads := s.component.hasRouteLoaders
  optional (binds || loads) ("useDataPlane", .useDataPlane)
    ++ optional binds ("useAsyncHandler", .useAsyncHandler)
    ++ optional loads ("useRouteLoader", .useRouteLoader)
    ++ optional (s.component.has .i18n) ("useI18n", .useI18n)
    ++ optional s.plan.errorBoundary ("ErrorBoundary", .errorBoundary)
    ++ optional s.plan.themed ("skinned", .skinned)

/-- An import of names under identifiers of the wrapper, unless there are none. -/
def importOwn (source : String) (names : List (String × Role)) : List Import :=
  optional (!names.isEmpty) (.named source (names.map fun (n, r) => (n, .own r)))

def importFile (s : Source) (file : Option Path) (r : Role) : List Import :=
  match file with
  | some file => [.default (s.specifier file) r]
  | none => []

def importBindings (s : Source) : List Import :=
  match s.component.concerns.get .async with
  | some file =>
    optional (!s.bindings.isEmpty)
      (.named (s.specifier file) (s.bindings.map fun n => (n, .taken n)))
  | none => []

def importSkins (s : Source) : List Import :=
  s.component.skins.values.zipIdx.map fun (file, i) => .default (s.specifier file) (.skin i)

def importRoute (s : Source) (r : NumberedRoute) : List Import :=
  (match r.route.loader with
    | some file =>
      match r.loaderExport with
      | some name => [.named (s.specifier file) [(name, .own (.routeLoader r.index))]]
      | none => [.default (s.specifier file) (.routeLoader r.index)]
    | none => [])
    ++ s.importFile r.route.metadata (.routeMeta r.index)

def imports (s : Source) : List Import :=
  importOwn s.options.frameworkModule s.frameworkNames
    ++ importOwn s.options.routerModule
        (optional (!s.component.routes.isEmpty) ("useRoutes", .useRoutes))
    ++ importOwn s.options.runtimeModule s.runtimeNames
    ++ s.importBindings
    ++ s.importFile (s.component.concerns.get .placeholder) .placeholder
    ++ s.importFile (s.component.concerns.get .error) .errorFallback
    ++ s.importFile (s.component.concerns.get .i18n) .i18nBundle
    ++ s.importSkins
    ++ s.routes.flatMap s.importRoute

/-! ### Elements -/

/-- The element of a component, with props if any are given. -/
def element (component : Role) (props : Option Expr) : Expr :=
  .call (.own .createElement) (.own component :: props.toList)

/-- The incoming props, with others over them if there are any. -/
def withProps (fields : List (String × Expr)) : Expr :=
  if fields.isEmpty then .own .props
  else .object ((.spread, .own .props) :: fields.map fun (k, e) => (.name k, e))

/-- An element inside the boundaries of the plan. -/
def bounded (s : Source) (e : Expr) : Expr :=
  let fallback := if s.component.has .placeholder then element .placeholder none else .null
  let e := if s.plan.suspense then .boundary .suspense fallback e else e
  if s.plan.errorBoundary then .boundary .errorBoundary (.own .errorFallback) e else e

/-! ### Declarations -/

/-- A component that is loaded when it is first rendered. -/
def lazyDecl (s : Source) (r : Role) (file : Path) : Decl :=
  .const r (.call (.own .lazy) [.thunk (.load (s.specifier file))])

/-- The pattern of the files that hold messages by locale, beside the component's own. -/
def localeFilesPattern (s : Source) : String :=
  s.specifier (s.component.directory.join ⟨"i18n"⟩) ++ "/*.json"

def localeFiles (s : Source) : Expr :=
  if s.options.globsLocaleFiles then
    .glob [.text s.localeFilesPattern,
      .object [(.name "query", .text "?url"), (.name "import", .text "default"),
        (.name "eager", .yes)]]
  else .object []

def viewSection (s : Source) : List Decl :=
  s.lazyDecl .view s.component.view ::
    if s.component.has .i18n then
      [.const .i18nDefaults (.thunk (.own .i18nBundle)), .const .localeFiles s.localeFiles]
    else []

/-- The component of a route that runs its loader and renders its view. -/
def routeFunction (i : Nat) : Decl :=
  .function (.route i)
    [(.dataPlane, .call (.own .useDataPlane) []),
     (.load, .call (.own .useRouteLoader) [.own (.routeLoader i), .own .dataPlane])]
    (element (.routeView i) (some (withProps [("load", .own .load)])))

def routeSections (s : Source) (r : NumberedRoute) : List (List Decl) :=
  match r.route.view with
  | some view =>
    [s.lazyDecl (.routeView r.index) view]
      :: optional r.route.loader.isSome [routeFunction r.index]
  | none => []

mutual

/-- The number of routes here and below. -/
def routeCount : Route → Nat
  | ⟨_, _, _, _, _, _, cs⟩ => 1 + routeCounts cs

def routeCounts : List Route → Nat
  | [] => 0
  | r :: rs => routeCount r + routeCounts rs

end

mutual

/-- The object of the route with number `i`. -/
def routeObject (i : Nat) : Route → Expr
  | ⟨_, pattern, _, view, loader, metadata, cs⟩ =>
    let path :=
      if metadata.isSome then .orElse (.member (.own (.routeMeta i)) "path") (.text pattern)
      else .text pattern
    let shown := if loader.isSome then Role.route i else .routeView i
    .object ((.name "path", path)
      :: (optional view.isSome (.name "element", element shown none)
        ++ optional (!cs.isEmpty) (.name "children", .list (routeObjects (i + 1) cs))))

/-- The objects of routes numbered from `i` on. -/
def routeObjects (i : Nat) : List Route → List Expr
  | [] => []
  | r :: rs => routeObject i r :: routeObjects (i + routeCount r) rs

end

def routesSections (s : Source) : List (List Decl) :=
  if s.component.routes.isEmpty then []
  else s.routes.flatMap s.routeSections
    ++ [[.const .routes (.list (routeObjects 0 s.component.routes))]]

def themedDecl (s : Source) (target : Role) : Decl :=
  .const .themed (.call (.own .skinned) [.own target,
    .object (s.component.skins.keys.zipIdx.map fun (k, i) => (.text k, .own (.skin i)))])

/-! ### Functions -/

/-- The constants of the function that runs the hooks. -/
def hookLocals (s : Source) : List (Role × Expr) :=
  (if s.bindings.isEmpty then [] else
    (.dataPlane, .call (.own .useDataPlane) []) :: s.bindings.map fun n =>
      (.binding n, .call (.own .useAsyncHandler) [.ident (.taken n), .own .dataPlane]))
    ++ optional (s.component.has .i18n)
      (.messages, .call (.own .useI18n)
        [.own .i18nDefaults, .text s.component.name, .own .localeFiles])
    ++ optional (!s.component.routes.isEmpty)
      (.routed, .call (.own .useRoutes) [.own .routes])

/-- The props that the hooks give to the view. -/
def viewProps (s : Source) : List (String × Expr) :=
  (s.bindings.map fun n => (n, .own (.binding n)))
    ++ optional (s.component.has .i18n) ("i18n", .own .messages)
    ++ optional (!s.component.routes.isEmpty) ("routes", .own .routed)

/-- A function that runs every hook and renders the view, inside what `around` puts there. -/
def hookFunction (s : Source) (name : Role) (around : Expr → Expr) : Decl :=
  .function name s.hookLocals (around (element .view (some (withProps s.viewProps))))

def exported (s : Source) : Role := .component s.component.displayName

/-- The functions of the plan. Where hooks and boundaries stand apart, the hooks have a function of
their own, and the exported one renders the boundaries around what the theme makes of it. -/
def layerSections (s : Source) : List (List Decl) :=
  if s.plan.split then
    let inner := if s.plan.hookCore then Role.core else .view
    optional s.plan.hookCore [s.hookFunction .core id]
      ++ optional s.plan.themed [s.themedDecl inner]
      ++ [[.function s.exported []
          (s.bounded (element (if s.plan.themed then .themed else .core) (some (.own .props))))]]
  else [[s.hookFunction s.exported s.bounded]]

def sections (s : Source) : List (List Decl) :=
  s.viewSection :: s.routesSections ++ s.layerSections
    ++ [[.displayName s.exported s.component.displayName, .exportDefault s.exported]]

/-- The wrapper module. -/
def module (s : Source) : Module := ⟨s.imports, s.sections⟩

end Source

end ViewLayers.Wrapper
