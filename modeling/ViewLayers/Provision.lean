import ViewLayers.Dict
import ViewLayers.Text.Displayed

/-!
Data planes, which hold named clients and services for the components below their providers, and
programs that provide and use them. A plane is provided while the body of its provider runs, also if
the body unwinds; the innermost provider's plane is the one in use.
-/

namespace ViewLayers

inductive ItemKind where
  | text
  | flag
  | integer
deriving DecidableEq

inductive Item where
  | text (s : String)
  | flag (b : Bool)
  | integer (n : Int)

def Item.kind : Item → ItemKind
  | .text _ => .text
  | .flag _ => .flag
  | .integer _ => .integer

structure DataPlane where
  clients : Dict Item := ∅
  services : Dict Item := ∅

inductive ItemSort where
  | client
  | service

namespace DataPlane

def items (p : DataPlane) : ItemSort → Dict Item
  | .client => p.clients
  | .service => p.services

/-- An item by its name, if it is of the kind that is asked for. -/
def item? (p : DataPlane) (sort : ItemSort) (name : String) (kind : ItemKind) : Option Item :=
  ((p.items sort).get? name).filter (·.kind = kind)

def withClient (p : DataPlane) (name : String) (i : Item) : DataPlane :=
  { p with clients := p.clients.insert name i }

def withService (p : DataPlane) (name : String) (i : Item) : DataPlane :=
  { p with services := p.services.insert name i }

/-- A plane with more items; a later one goes over an earlier one with its name. -/
def extend (p : DataPlane) (clients services : List (String × Item)) : DataPlane :=
  let p := clients.foldl (fun p (name, i) => p.withClient name i) p
  services.foldl (fun p (name, i) => p.withService name i) p

/-- A plane as it is shown: the names of what it holds. -/
def shown (p : DataPlane) : String :=
  "DataPlane \x7b clients: " ++ Text.Displayed.displayList p.clients.keys
    ++ ", services: " ++ Text.Displayed.displayList p.services.keys ++ " \x7d"

end DataPlane

namespace Provision

inductive Step where
  | use
  /-- Look up an item, in a given plane or in the one in use. -/
  | lookup (sort : ItemSort) (name : String) (kind : ItemKind) (plane : Option DataPlane)
  | provide (plane : DataPlane) (body : List Step)
  /-- Provide the plane in use with one more client. -/
  | extend (name : String) (client : Item) (body : List Step)
  /-- Unwind to the nearest enclosing catch. -/
  | unwind
  | guarded (body : List Step)
  /-- Run the body on its own, with no plane provided. -/
  | apart (body : List Step)

inductive Answer where
  | plane (p : DataPlane)
  | item (i : Option Item)
  /-- A plane was asked for where none is provided. -/
  | outside
  | body (answers : List Answer)
  | caught
  /-- The unwinding ended what ran on its own. -/
  | broken

/-- What is said where a plane is asked for and none is provided. -/
def outsideMessage : String := "use_data_plane must be called within DataPlane::provide"

mutual

/-- Run a step where some planes are provided, the innermost first: its answer, or none if it
unwinds, and the planes that are provided afterwards. -/
def run (planes : List DataPlane) : Step → Option Answer × List DataPlane
  | .use => (some (planes.head?.elim .outside .plane), planes)
  | .lookup sort name kind plane =>
    (some ((plane.or planes.head?).elim .outside fun p => .item (p.item? sort name kind)), planes)
  | .provide plane body =>
    let (r, inner) := runAll (plane :: planes) body
    (r.map .body, inner.tail)
  | .extend name client body =>
    match planes with
    | [] => (some .outside, [])
    | p :: _ =>
      let (r, inner) := runAll (p.withClient name client :: planes) body
      (r.map .body, inner.tail)
  | .unwind => (none, planes)
  | .guarded body =>
    let (r, planes) := runAll planes body
    (some (r.elim .caught .body), planes)
  | .apart body => (some ((runAll [] body).1.elim .broken .body), planes)

def runAll (planes : List DataPlane) : List Step → Option (List Answer) × List DataPlane
  | [] => (some [], planes)
  | s :: ss =>
    match run planes s with
    | (none, planes) => (none, planes)
    | (some a, planes) =>
      let (r, planes) := runAll planes ss
      (r.map (a :: ·), planes)

end

end Provision

end ViewLayers
