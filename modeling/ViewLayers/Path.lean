import ViewLayers.Text.Split

/-!
Paths. A path keeps its text as written; what it means is its list of steps, in which repeated and
trailing slashes and inner `.` steps are gone.
-/

namespace ViewLayers

open Text

structure Path where
  text : String
deriving DecidableEq, Inhabited

/-- A step of a path. `root` and `here` stand only first. -/
inductive Step where
  | root
  | here
  | up
  | name (s : String)
deriving DecidableEq

namespace Step

/-- The step that a piece between slashes stands for, if any. -/
def ofPiece : List Char → Option Step
  | [] => none
  | ['.'] => none
  | ['.', '.'] => some .up
  | cs => some (.name (String.ofList cs))

def text : Step → String
  | .root => "/"
  | .here => "."
  | .up => ".."
  | .name s => s

end Step

namespace Path

def isSlash (c : Char) : Bool := c == '/'

def isAbsolute (p : Path) : Bool := p.text.toList.head? == some '/'

/-- The pieces of the text between its slashes. -/
def pieces (p : Path) : List (List Char) := splitBy isSlash p.text.toList

def steps (p : Path) : List Step :=
  let first := match p.pieces with
    | ['.'] :: _ => [Step.here]
    | _ => if p.isAbsolute then [Step.root] else []
  first ++ p.pieces.filterMap Step.ofPiece

/-- The text of a list of steps, a slash between each and the next. -/
def ofSteps : List Step → Path
  | .root :: ss => ⟨"/" ++ joinWith "/" (ss.map Step.text)⟩
  | ss => ⟨joinWith "/" (ss.map Step.text)⟩

/-- `q` as seen from `p`: an absolute one takes its place, another is put after it. -/
def join (p q : Path) : Path :=
  if q.isAbsolute then q
  else if p.text.isEmpty || p.text.toList.getLast? == some '/' then ⟨p.text ++ q.text⟩
  else ⟨p.text ++ "/" ++ q.text⟩

/-- The steps of `p` below `base`, if it lies there. -/
def below? (base p : Path) : Option (List Step) :=
  if base.steps.isPrefixOf p.steps then some (p.steps.drop base.steps.length) else none

/-- All but the last step; the root and the empty path have no parent. -/
def parent? (p : Path) : Option Path :=
  match p.steps.getLast? with
  | none | some .root => none
  | some _ => some (ofSteps p.steps.dropLast)

/-- The last step, if it is a name. -/
def fileName? (p : Path) : Option String :=
  match p.steps.getLast? with
  | some (.name s) => some s
  | _ => none

/-- What follows the last dot of a name; none if the dot stands first or is missing. -/
def extension? (p : Path) : Option String :=
  p.fileName?.bind fun s =>
    match splitBy (· == '.') s.toList with
    | [] | [_] | [[], _] => none
    | pieces => pieces.getLast?.map String.ofList

/-! ### Locations -/

/-- One step from a location, which is a list of steps without `.` and `..`. -/
def resolveStep (seen : List Step) : Step → List Step
  | .root => [.root]
  | .here => seen
  | .up => if seen == [.root] then seen else seen.dropLast
  | .name s => seen ++ [.name s]

/-- The location after `ss`, starting from `seen`. -/
def resolve (seen ss : List Step) : List Step := ss.foldl resolveStep seen

/-- The path without `.` and `..`, found from its text alone. A `..` at the top is dropped. -/
def normalize (p : Path) : Path := ofSteps (resolve [] p.steps)

end Path

end ViewLayers
