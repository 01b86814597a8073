import ViewLayers.Proofs.Script.Words
import ViewLayers.Proofs.Wrapper.Hygiene

/-!
The clauses of the imports of a wrapper. What they are called in the module is always legal there.
What they take from a file is legal, whatever the file exports, but for the first export of a
loader, which is not looked at.
-/

namespace ViewLayers

open Text Script

namespace Wrapper

variable {p : HygienePrefix}

/-! ### Clauses and their text -/

/-- A clause of an import: what it takes from the file, if it says so, and what that is called in
the module. -/
structure Clause where
  export? : Option String
  name : String
deriving DecidableEq

def Clause.text : Clause → String
  | ⟨none, name⟩ => name
  | ⟨some n, name⟩ => if n = name then n else n ++ " as " ++ name

def Import.clauses (p : HygienePrefix) : Import → List Clause
  | .named _ names => names.map fun (n, i) => ⟨some n, i.name p⟩
  | .default _ r => [⟨none, p.ident r.suffix⟩]

/-- An import that is written from its clauses. Those that say what they take stand in braces. -/
def Import.written (p : HygienePrefix) (i : Import) : String :=
  let clauses := joinWith ", " ((i.clauses p).map Clause.text)
  match i with
  | .named source _ => "import \x7b " ++ clauses ++ " \x7d from " ++ Quoted.literal source ++ ";"
  | .default source _ => "import " ++ clauses ++ " from " ++ Quoted.literal source ++ ";"

namespace Pieces

@[simp] lemma text_nil : text p [] = "" := rfl

@[simp] lemma text_cons (x : Piece) (ps : Pieces) : text p (x :: ps) = x.text p ++ text p ps := by
  simp [text]

@[simp] lemma text_append (ps qs : Pieces) : text p (ps ++ qs) = text p ps ++ text p qs := by
  simp [text]

lemma text_joined (sep : String) : (pss : List Pieces) →
    text p (joined sep pss) = joinWith sep (pss.map (text p))
  | [] => rfl
  | [_] => rfl
  | ps :: qs :: pss => by
    have hrest := text_joined sep (qs :: pss)
    change text p (ps ++ .fixed sep :: joined sep (qs :: pss)) = _
    rw [text_append, text_cons, hrest, ← String.append_assoc]
    rfl

end Pieces

open Pieces

lemma Role.text_pieces (r : Role) : r.pieces.text p = p.ident r.suffix := by
  simp [Role.pieces, Piece.text, HygienePrefix.ident]

lemma Ident.text_pieces (i : Ident) : i.pieces.text p = i.name p := by
  cases i with
  | own r => exact r.text_pieces
  | taken name => simp [Ident.pieces, Piece.text, Ident.name]

lemma text_namePieces (n : String) (i : Ident) :
    (namePieces p n i).text p = Clause.text ⟨some n, i.name p⟩ := by
  unfold namePieces Clause.text
  dsimp only
  split
  · rw [text_cons, text_nil, String.append_empty]
    rfl
  · rw [text_cons, i.text_pieces]
    rfl

lemma Import.text_pieces (i : Import) : (i.pieces p).text p = i.written p := by
  cases i with
  | named source names =>
    have hclauses : (names.map fun (n, i) => namePieces p n i).map (text p) =
        ((Import.named source names).clauses p).map Clause.text := by
      rw [List.map_map, Import.clauses, List.map_map]
      exact List.map_congr_left fun x _ => text_namePieces x.1 x.2
    rw [Import.pieces, List.cons_append, text_cons, text_append, text_joined, hclauses]
    simp [Import.written, Piece.text, String.append_assoc]
  | default source r =>
    rw [Import.pieces, List.cons_append, text_cons, text_append, r.text_pieces]
    simp [Import.written, Import.clauses, Clause.text, Piece.text, joinWith, String.append_assoc]

/-! ### Legal clauses -/

/-- A text that can stand for an export: the name of an identifier, or a string literal. -/
def IsExportName (t : String) : Prop :=
  (∃ name escaped, tokenAt t.toList = some (.word name escaped, [])) ∨
    ∃ value, tokenAt t.toList = some (.string (some value), [])

/-- A text that a module can bind: an identifier that is no word of the language. -/
def IsBindingName (t : String) : Prop :=
  tokenAt t.toList = some (.word t false, []) ∧
    t ∉ reservedWords ∧ t ∉ strictWords ∧ t ≠ "arguments" ∧ t ≠ "eval"

lemma isExportName_of_isAsciiIdentifier {t : String} (h : isAsciiIdentifier t.toList = true) :
    IsExportName t := .inl ⟨_, _, tokenAt_of_isAsciiIdentifier h⟩

lemma isBindingName_of_not_reserved {t : String} (h : isAsciiIdentifier t.toList = true)
    (hw : t ∉ reservedNames) : IsBindingName t := by
  have hreserved : ∀ w ∈ reservedWords ++ strictWords ++ ["arguments", "eval"],
      w ∈ reservedNames := by decide
  simp only [List.forall_mem_append, List.forall_mem_cons] at hreserved
  obtain ⟨⟨hwords, hstrict⟩, harguments, heval, -⟩ := hreserved
  refine ⟨?_, fun h => hw (hwords t h), fun h => hw (hstrict t h), fun h => hw (h ▸ harguments),
    fun h => hw (h ▸ heval)⟩
  rw [tokenAt_of_isAsciiIdentifier h, String.ofList_toList]

lemma isAsciiIdentifier_of_isUsable {n : String} (h : isUsable n = true) :
    isAsciiIdentifier n.toList = true ∧ n ∉ reservedNames := by
  simpa [isUsable] using h

/-! ### What is asked for by name -/

/-- The exports that an import names. -/
def Import.exports : Import → List String
  | .named _ names => names.map Prod.fst
  | .default _ _ => []

lemma Import.mem_exports_iff {i : Import} {n : String} :
    n ∈ i.exports ↔ ∃ c ∈ i.clauses p, c.export? = some n := by
  cases i with
  | named source names => simp [Import.exports, Import.clauses]
  | default source r => simp [Import.exports, Import.clauses]

namespace Source

variable {s : Source}

lemma exports_importOwn (source : String) (names : List (String × Role)) :
    (importOwn source names).flatMap Import.exports = names.map Prod.fst := by
  cases names with
  | nil => rfl
  | cons n ns => simp [importOwn, optional, Import.exports]

lemma exports_importFile (file : Option Path) (r : Role) :
    (s.importFile file r).flatMap Import.exports = [] := by
  cases file <;> rfl

lemma exports_importBindings (s : Source) :
    s.importBindings.flatMap Import.exports = s.bindings := by
  unfold importBindings
  split
  · rw [flatMap_optional]
    cases h : s.bindings <;> simp [Import.exports, Function.comp_def]
  · rename_i h
    simp [bindings, h]

lemma exports_importSkins (s : Source) : s.importSkins.flatMap Import.exports = [] := by
  rw [importSkins, List.flatMap_map]
  exact List.flatMap_eq_nil_iff.2 fun _ _ => rfl

lemma exports_importRoute {q : NumberedRoute} (hq : q ∈ s.routes) :
    (s.importRoute q).flatMap Import.exports = q.loaderExport.toList := by
  obtain ⟨⟨route, i⟩, -, rfl⟩ := mem_routes_iff.1 hq
  rw [importRoute, List.flatMap_append, exports_importFile, List.append_nil]
  dsimp only
  cases route.loader with
  | none => rfl
  | some file =>
    rw [Option.bind_some]
    cases (s.exportsOf file).head? <;> rfl

lemma exports_module (s : Source) : s.module.imports.flatMap Import.exports =
    (s.frameworkNames ++ optional (!s.component.routes.isEmpty) ("useRoutes", Role.useRoutes)
      ++ s.runtimeNames).map Prod.fst ++ s.bindings
      ++ s.routes.flatMap fun q => q.loaderExport.toList := by
  have hroutes : (s.routes.flatMap s.importRoute).flatMap Import.exports =
      s.routes.flatMap fun q => q.loaderExport.toList := by
    rw [List.flatMap_assoc]
    exact List.flatMap_congr fun q hq => exports_importRoute hq
  simp only [module, imports, List.flatMap_append, exports_importOwn, exports_importFile,
    exports_importBindings, exports_importSkins, hroutes, List.map_append, List.nil_append,
    List.append_assoc]

lemma isAsciiIdentifier_library {x : String × Role}
    (h : x ∈ s.frameworkNames ++ optional (!s.component.routes.isEmpty)
      ("useRoutes", Role.useRoutes) ++ s.runtimeNames) : isAsciiIdentifier x.1.toList = true := by
  have hnames : ∀ y ∈ libraryNames, isAsciiIdentifier y.1.toList = true := by decide
  rcases List.mem_append.1 h with h | h
  · rcases List.mem_append.1 h with h | h
    · exact hnames x (s.frameworkNames_subset h)
    · exact hnames x (routerNames_subset _ h)
  · exact hnames x (s.runtimeNames_subset h)

lemma isExportName_iff : (∀ n ∈ s.module.imports.flatMap Import.exports, IsExportName n) ↔
    ∀ q ∈ s.routes, ∀ n, q.loaderExport = some n → IsExportName n := by
  rw [exports_module]
  constructor
  · intro h q hq n hn
    exact h n (List.mem_append_right _ (List.mem_flatMap.2 ⟨q, hq, Option.mem_toList.2 hn⟩))
  · intro h n hn
    rcases List.mem_append.1 hn with hn | hn
    · rcases List.mem_append.1 hn with hn | hn
      · obtain ⟨x, hx, rfl⟩ := List.mem_map.1 hn
        exact isExportName_of_isAsciiIdentifier (isAsciiIdentifier_library hx)
      · exact isExportName_of_isAsciiIdentifier
          (isAsciiIdentifier_of_isUsable (isUsable_of_mem_bindings hn)).1
    · obtain ⟨q, hq, hn⟩ := List.mem_flatMap.1 hn
      exact h q hq n (Option.mem_toList.1 hn)

/-! ### What is bound -/

lemma isBindingName_of_mem_bound {x : Ident} (h : x ∈ s.module.bound) :
    IsBindingName (x.name p) := by
  cases x with
  | own r =>
    have hlegal := (admissible_of_mem_topRoles (mem_topRoles_iff.2 h)).legal p
    exact isBindingName_of_not_reserved hlegal.1 hlegal.2
  | taken n =>
    have hlegal := isAsciiIdentifier_of_isUsable
      (isUsable_of_mem_bindings ((taken_mem_bound_iff s n).1 h))
    exact isBindingName_of_not_reserved hlegal.1 hlegal.2

lemma exists_binds_of_mem_clauses {i : Import} {c : Clause} (h : c ∈ i.clauses p) :
    ∃ x ∈ i.binds, c.name = x.name p := by
  cases i with
  | named source names =>
    obtain ⟨x, hx, rfl⟩ := List.mem_map.1 h
    exact ⟨x.2, List.mem_map.2 ⟨x, hx, rfl⟩, rfl⟩
  | default source r =>
    obtain rfl := List.mem_singleton.1 h
    exact ⟨.own r, List.mem_singleton_self _, rfl⟩

/-- **The clauses of a wrapper are legal iff its loaders let them be.** An import is written from
its clauses; each is called by an identifier that is no word of the language; and each that names
an export names it by an identifier or a literal exactly if that is what the first export of every
loader reads as. -/
theorem clauses_legal_iff (s : Source) (p : HygienePrefix) :
    (∀ i ∈ s.module.imports, (i.pieces p).text p = i.written p ∧
      ∀ c ∈ i.clauses p, IsBindingName c.name) ∧
    ((∀ i ∈ s.module.imports, ∀ c ∈ i.clauses p, ∀ n, c.export? = some n → IsExportName n) ↔
      ∀ q ∈ s.routes, ∀ n, q.loaderExport = some n → IsExportName n) := by
  refine ⟨fun i hi => ⟨i.text_pieces, fun c hc => ?_⟩, ?_⟩
  · obtain ⟨x, hx, hname⟩ := exists_binds_of_mem_clauses hc
    rw [hname]
    exact isBindingName_of_mem_bound
      (List.mem_append_left _ (List.mem_flatMap.2 ⟨i, hi, hx⟩))
  · rw [← isExportName_iff]
    constructor
    · intro h n hn
      obtain ⟨i, hi, hn⟩ := List.mem_flatMap.1 hn
      obtain ⟨c, hc, hexport⟩ := Import.mem_exports_iff.1 hn
      exact h i hi c hc n hexport
    · intro h i hi c hc n hexport
      exact h n (List.mem_flatMap.2 ⟨i, hi, Import.mem_exports_iff.2 ⟨c, hc, hexport⟩⟩)

end Source

end Wrapper

end ViewLayers
