import ViewLayers.Text.Quoted
import ViewLayers.Text.Split
import ViewLayers.Wrapper.Syntax

/-!
The text of a wrapper module. It is made of pieces: fixed text, places for the prefix, and string
literals, in which all text from outside is quoted.
-/

namespace ViewLayers.Wrapper

open Text

inductive Piece where
  | fixed (s : String)
  /-- Where the prefix goes. -/
  | hole
  | literal (s : String)
deriving DecidableEq

def Piece.text (p : HygienePrefix) : Piece → String
  | .fixed s => s
  | .hole => p.token
  | .literal s => Quoted.literal s

abbrev Pieces := List Piece

namespace Pieces

def text (p : HygienePrefix) (ps : Pieces) : String := String.join (ps.map (Piece.text p))

/-- Pieces with a fixed text between them. -/
def joined (sep : String) : List Pieces → Pieces
  | [] => []
  | [ps] => ps
  | ps :: pss => ps ++ .fixed sep :: joined sep pss

end Pieces

/-- The blanks at the start of a line of the given level. -/
def indent (level : Nat) : String := String.ofList (List.replicate (2 * level) ' ')

def Role.pieces (r : Role) : Pieces := [.hole, .fixed r.suffix]

def Ident.pieces : Ident → Pieces
  | .own r => r.pieces
  | .taken name => [.fixed name]

namespace Expr

mutual

/-- The text of an expression on a line of the given level. Lists and boundaries go over lines. -/
def pieces (level : Nat) : Expr → Pieces
  | ident i => i.pieces
  | text s => [.literal s]
  | null => [.fixed "null"]
  | yes => [.fixed "true"]
  | member e name => e.pieces level ++ [.fixed ("." ++ name)]
  | orElse e e' => e.pieces level ++ .fixed " ?? " :: e'.pieces level
  | call f args => f.pieces ++ .fixed "(" :: Pieces.joined ", " (piecesOfList level args)
      ++ [.fixed ")"]
  | glob args => .fixed "import.meta.glob(" :: Pieces.joined ", " (piecesOfList level args)
      ++ [.fixed ")"]
  | load s => [.fixed "import(", .literal s, .fixed ")"]
  | thunk e => .fixed "() => " :: e.pieces level
  | object [] => [.fixed "\x7b\x7d"]
  | object (f :: fs) => .fixed "\x7b " :: Pieces.joined ", " (piecesOfFields level (f :: fs))
      ++ [.fixed " \x7d"]
  | list [] => [.fixed "[]"]
  | list (e :: es) => .fixed ("[\n" ++ indent (level + 1))
      :: Pieces.joined (",\n" ++ indent (level + 1)) (piecesOfList (level + 1) (e :: es))
      ++ [.fixed (",\n" ++ indent level ++ "]")]
  | boundary component fallback inner =>
    Role.createElement.pieces ++ .fixed "(" :: component.pieces
      ++ .fixed ", \x7b fallback: " :: fallback.pieces level
      ++ .fixed (" \x7d,\n" ++ indent (level + 1)) :: inner.pieces (level + 1) ++ [.fixed ")"]

def piecesOfList (level : Nat) : List Expr → List Pieces
  | [] => []
  | e :: es => e.pieces level :: piecesOfList level es

def piecesOfFields (level : Nat) : List (Key × Expr) → List Pieces
  | [] => []
  | (.name k, e) :: fs => (.fixed (k ++ ": ") :: e.pieces level) :: piecesOfFields level fs
  | (.text k, e) :: fs => (.literal k :: .fixed ": " :: e.pieces level) :: piecesOfFields level fs
  | (.spread, e) :: fs => (.fixed "..." :: e.pieces level) :: piecesOfFields level fs

end

end Expr

/-- A name and what it is called here; once only if both are one. -/
def namePieces (p : HygienePrefix) (name : String) (i : Ident) : Pieces :=
  if name = i.name p then [.fixed name] else .fixed (name ++ " as ") :: i.pieces

def Import.pieces (p : HygienePrefix) : Import → Pieces
  | .named source names =>
    .fixed "import \x7b " :: Pieces.joined ", " (names.map fun (n, i) => namePieces p n i)
      ++ [.fixed " \x7d from ", .literal source, .fixed ";"]
  | .default source r =>
    .fixed "import " :: r.pieces ++ [.fixed " from ", .literal source, .fixed ";"]

def constPieces (level : Nat) (r : Role) (e : Expr) : Pieces :=
  .fixed (indent level ++ "const ") :: r.pieces ++ .fixed " = " :: e.pieces level ++ [.fixed ";"]

def Decl.pieces : Decl → Pieces
  | .const r e => constPieces 0 r e
  | .function r locals result =>
    .fixed "function " :: r.pieces ++ .fixed "(" :: Role.props.pieces ++ .fixed ") \x7b\n"
      :: Pieces.joined "\n" (locals.map (fun (r, e) => constPieces 1 r e)
        ++ [.fixed "  return " :: result.pieces 1 ++ [.fixed ";"]])
      ++ [.fixed "\n\x7d"]
  | .displayName r s => r.pieces ++ [.fixed ".displayName = ", .literal s, .fixed ";"]
  | .exportDefault r => .fixed "export default " :: r.pieces ++ [.fixed ";"]

/-- The imports, then the sections, with blank lines between. -/
def Module.pieces (p : HygienePrefix) (m : Module) : Pieces :=
  Pieces.joined "\n\n" (Pieces.joined "\n" (m.imports.map (Import.pieces p))
    :: m.sections.map fun ds => Pieces.joined "\n" (ds.map Decl.pieces)) ++ [.fixed "\n"]

def Module.text (p : HygienePrefix) (m : Module) : String := (m.pieces p).text p

end ViewLayers.Wrapper
