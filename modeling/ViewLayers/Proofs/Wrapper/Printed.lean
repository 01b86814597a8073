import Mathlib.Data.List.Forall2
import ViewLayers.Proofs.Wrapper.Mentions
import ViewLayers.Wrapper.Printer

/-!
What the text of a wrapper names. The prefix stands only before the suffixes of what the tree
mentions or introduces, and in that order.
-/

namespace ViewLayers.Wrapper

namespace Pieces

/-- The texts right after the places for the prefix. -/
def named : Pieces → List String
  | .hole :: .fixed t :: ps => t :: named ps
  | _ :: ps => named ps
  | [] => []

/-- Pieces that name a list of texts, whatever comes after them. -/
def Names (ps : Pieces) (ts : List String) : Prop := ∀ qs, named (ps ++ qs) = ts ++ named qs

namespace Names

variable {ps qs : Pieces} {ts us : List String}

lemma nil : Names [] [] := fun _ => rfl

lemma fixed {t : String} (h : Names ps ts) : Names (.fixed t :: ps) ts := fun qs => h qs

lemma literal {t : String} (h : Names ps ts) : Names (.literal t :: ps) ts := fun qs => h qs

lemma role (r : Role) : Names r.pieces [r.suffix] := fun _ => rfl

lemma append (h : Names ps ts) (h' : Names qs us) : Names (ps ++ qs) (ts ++ us) := by
  intro rs
  rw [List.append_assoc, h, h', List.append_assoc]

lemma closed {t : String} (h : Names ps ts) : Names (ps ++ [.fixed t]) ts := by
  simpa using h.append (fixed nil)

lemma joined (sep : String) : {pss : List Pieces} → {tss : List (List String)} →
    List.Forall₂ Names pss tss → Names (Pieces.joined sep pss) tss.flatten
  | [], _, .nil => nil
  | [_], _, .cons h .nil => by simpa [Pieces.joined] using h
  | _ :: _ :: _, _, .cons h (.cons h' hs) => h.append (fixed (joined sep (.cons h' hs)))

end Names

end Pieces

open Pieces

def Ident.suffix? : Ident → Option String
  | .own r => some r.suffix
  | .taken _ => none

/-- The suffixes of those identifiers that the wrapper introduces. -/
def suffixes (is : List Ident) : List String := is.filterMap Ident.suffix?

@[simp] lemma suffixes_own (r : Role) (is : List Ident) :
    suffixes (.own r :: is) = r.suffix :: suffixes is := rfl

@[simp] lemma suffixes_append (is js : List Ident) :
    suffixes (is ++ js) = suffixes is ++ suffixes js := List.filterMap_append

lemma suffixes_flatMap {α : Type} (f : α → List Ident) (as : List α) :
    (as.map fun a => suffixes (f a)).flatten = suffixes (as.flatMap f) := by
  induction as with
  | nil => rfl
  | cons a as ih => rw [List.map_cons, List.flatten_cons, ih, List.flatMap_cons, suffixes_append]

lemma Ident.names_pieces (i : Ident) : Names i.pieces (suffixes [i]) := by
  cases i with
  | own r => exact .role r
  | taken name => exact Names.nil.fixed

/-! ### Expressions -/

namespace Expr

mutual

/-- The text of an expression names what the expression mentions. -/
theorem names_pieces (level : Nat) : (e : Expr) →
    Names (e.pieces level) (suffixes (e.mentions true))
  | ident i => i.names_pieces
  | text _ => Names.nil.literal
  | null => Names.nil.fixed
  | yes => Names.nil.fixed
  | member e _ => (names_pieces level e).closed
  | orElse e e' => by
    rw [pieces, mentions, suffixes_append]
    exact (names_pieces level e).append (names_pieces level e').fixed
  | call f args => by
    have hargs := Names.joined ", " (names_piecesOfList level args)
    rw [suffixes_flatMap] at hargs
    rw [pieces, mentions, mentionsOfList_eq]
    change Names _ (suffixes ([f] ++ _))
    rw [suffixes_append]
    exact (f.names_pieces.append hargs.fixed).closed
  | glob args => by
    have hargs := Names.joined ", " (names_piecesOfList level args)
    rw [suffixes_flatMap] at hargs
    rw [pieces, mentions, mentionsOfList_eq]
    exact hargs.fixed.closed
  | load _ => Names.nil.fixed.literal.fixed
  | thunk e => (names_pieces level e).fixed
  | object [] => Names.nil.fixed
  | object (f :: fs) => by
    have hfields := Names.joined ", " (names_piecesOfFields level (f :: fs))
    rw [suffixes_flatMap] at hfields
    rw [pieces, mentions, mentionsOfFields_eq]
    exact hfields.fixed.closed
  | list [] => Names.nil.fixed
  | list (e :: es) => by
    have hes := Names.joined (",\n" ++ indent (level + 1))
      (names_piecesOfList (level + 1) (e :: es))
    rw [suffixes_flatMap] at hes
    rw [pieces, mentions, mentionsOfList_eq]
    exact hes.fixed.closed
  | boundary component fallback inner => by
    have hfallback := names_pieces level fallback
    have hinner := names_pieces (level + 1) inner
    rw [pieces, mentions, suffixes_own, suffixes_own, suffixes_append]
    exact ((((Names.role _).append (Names.role component).fixed).append hfallback.fixed).append
      hinner.fixed).closed

theorem names_piecesOfList (level : Nat) : (es : List Expr) →
    List.Forall₂ Names (piecesOfList level es) (es.map fun e => suffixes (e.mentions true))
  | [] => .nil
  | e :: es => .cons (names_pieces level e) (names_piecesOfList level es)

theorem names_piecesOfFields (level : Nat) : (fs : List (Key × Expr)) →
    List.Forall₂ Names (piecesOfFields level fs) (fs.map fun f => suffixes (f.2.mentions true))
  | [] => .nil
  | (.name _, e) :: fs => .cons (names_pieces level e).fixed (names_piecesOfFields level fs)
  | (.text _, e) :: fs => .cons (names_pieces level e).fixed.literal (names_piecesOfFields level fs)
  | (.spread, e) :: fs => .cons (names_pieces level e).fixed (names_piecesOfFields level fs)

end

end Expr

/-! ### Declarations -/

/-- All identifiers that stand in a declaration, in order. -/
def Decl.occurrences : Decl → List Ident
  | .const r e => .own r :: e.mentions true
  | .function r locals result => .own r :: .own .props
      :: (locals.flatMap (fun l => .own l.1 :: l.2.mentions true) ++ result.mentions true)
  | .displayName r _ | .exportDefault r => [.own r]

lemma names_constPieces (level : Nat) (r : Role) (e : Expr) :
    Names (constPieces level r e) (suffixes (.own r :: e.mentions true)) :=
  (((Names.role r).append (e.names_pieces level).fixed).fixed).closed

lemma names_locals (locals : List (Role × Expr)) :
    List.Forall₂ Names (locals.map fun (r, e) => constPieces 1 r e)
      (locals.map fun l => suffixes (.own l.1 :: l.2.mentions true)) := by
  induction locals with
  | nil => exact .nil
  | cons l locals ih => exact .cons (names_constPieces 1 l.1 l.2) ih

/-- **The text of a declaration names what stands in it**, and the prefix is nowhere else. -/
theorem Decl.names_pieces (d : Decl) : Names d.pieces (suffixes d.occurrences) := by
  cases d with
  | const r e => exact names_constPieces 0 r e
  | function r locals result =>
    have hresult : Names (.fixed "  return " :: result.pieces 1 ++ [.fixed ";"])
        (suffixes (result.mentions true)) := (result.names_pieces 1).fixed.closed
    have hbody := Names.joined "\n" (List.rel_append (names_locals locals) (.cons hresult .nil))
    rw [List.flatten_append, suffixes_flatMap, List.flatten_singleton, ← suffixes_append] at hbody
    rw [occurrences, suffixes_own, suffixes_own]
    exact (((Names.role r).fixed.append (Names.role .props).fixed).append hbody.fixed).closed
  | displayName r s => exact (Names.role r).append Names.nil.fixed.literal.fixed
  | exportDefault r => exact (Names.role r).fixed.closed

end ViewLayers.Wrapper
