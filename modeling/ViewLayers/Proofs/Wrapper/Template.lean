import Mathlib.Algebra.Order.BigOperators.Group.List
import Mathlib.Algebra.Order.Ring.Nat
import ViewLayers.Proofs.Wrapper.Declarations
import ViewLayers.Proofs.Wrapper.Printed

/-!
One template for all prefixes. The prefix decides one thing only about a wrapper: whether the first
export of a route's loader already has the name that it is imported under, and so is named once.
Everywhere else it is put where the template has a place for it.
-/

namespace ViewLayers.Wrapper

namespace Pieces

/-- The number of characters in the text of some pieces. -/
def size (p : HygienePrefix) (ps : Pieces) : Nat := (ps.text p).length

variable {p : HygienePrefix}

@[simp] lemma size_append (ps qs : Pieces) : size p (ps ++ qs) = size p ps + size p qs := by
  simp [size, text, String.join_append]

@[simp] lemma size_cons (x : Piece) (ps : Pieces) :
    size p (x :: ps) = (x.text p).length + size p ps := by
  simp [size, text]

lemma size_joined (sep : String) (pss : List Pieces) :
    size p (joined sep pss) = (pss.map (size p)).sum + (pss.length - 1) * sep.length := by
  induction pss with
  | nil => simp [joined, size, text]
  | cons ps pss ih =>
    cases pss with
    | nil => simp [joined]
    | cons qs pss =>
      have hjoined :
          joined sep (ps :: qs :: pss) = ps ++ .fixed sep :: joined sep (qs :: pss) := rfl
      rw [hjoined, size_append, size_cons, ih, Piece.text]
      simp only [List.map_cons, List.sum_cons, List.length_cons, Nat.add_sub_cancel, Nat.succ_mul]
      omega

lemma size_joined_le {α : Type} (sep : String) {f g : α → Pieces} {as : List α}
    (h : ∀ a ∈ as, size p (f a) ≤ size p (g a)) :
    size p (joined sep (as.map f)) ≤ size p (joined sep (as.map g)) := by
  rw [size_joined, size_joined, List.length_map, List.length_map, List.map_map, List.map_map]
  exact Nat.add_le_add_right (List.sum_le_sum h) _

lemma size_joined_lt {α : Type} (sep : String) {f g : α → Pieces} {as : List α}
    (h : ∀ a ∈ as, size p (f a) ≤ size p (g a)) {a : α} (ha : a ∈ as)
    (hlt : size p (f a) < size p (g a)) :
    size p (joined sep (as.map f)) < size p (joined sep (as.map g)) := by
  rw [size_joined, size_joined, List.length_map, List.length_map, List.map_map, List.map_map]
  exact Nat.add_lt_add_right (List.sum_lt_sum _ _ h ⟨a, ha, hlt⟩) _

end Pieces

open Pieces

lemma Piece.eq_hole_or_text_eq (x : Piece) : x = .hole ∨ ∃ text, ∀ p, x.text p = text := by
  cases x with
  | fixed s => exact .inr ⟨s, fun _ => rfl⟩
  | hole => exact .inl rfl
  | literal s => exact .inr ⟨_, fun _ => rfl⟩

/-! ### Imports -/

/-- A name and what it is called here, with no regard to the prefix. -/
def nameTemplate (name : String) : Ident → Pieces
  | .own r => .fixed (name ++ " as ") :: r.pieces
  | .taken name' =>
    if name = name' then [.fixed name] else [.fixed (name ++ " as "), .fixed name']

variable {p : HygienePrefix}

lemma namePieces_eq {name : String} {i : Ident} (h : ∀ r, i = .own r → name ≠ i.name p) :
    namePieces p name i = nameTemplate name i := by
  cases i with
  | own r => exact if_neg (h r rfl)
  | taken name' => rfl

lemma size_namePieces_lt {name : String} {r : Role} (h : name = (Ident.own r).name p) :
    size p (namePieces p name (.own r)) < size p (nameTemplate name (.own r)) := by
  rw [namePieces, if_pos h, nameTemplate, size_cons, size_cons, Piece.text, Piece.text,
    String.length_append]
  have : " as ".length = 4 := rfl
  have : size p [] = 0 := rfl
  omega

lemma size_namePieces_le (name : String) (i : Ident) :
    size p (namePieces p name i) ≤ size p (nameTemplate name i) := by
  by_cases h : ∃ r, i = .own r ∧ name = i.name p
  · obtain ⟨r, rfl, h⟩ := h
    exact Nat.le_of_lt (size_namePieces_lt h)
  · rw [namePieces_eq fun r hr hn => h ⟨r, hr, hn⟩]

namespace Import

/-- What an import brings in by name. -/
def names : Import → List (String × Ident)
  | named _ names => names
  | default _ _ => []

def template : Import → Pieces
  | named source names =>
    .fixed "import \x7b " :: joined ", " (names.map fun x => nameTemplate x.1 x.2)
      ++ [.fixed " \x7d from ", .literal source, .fixed ";"]
  | default source r =>
    .fixed "import " :: r.pieces ++ [.fixed " from ", .literal source, .fixed ";"]

/-- No name is the identifier that it is imported under. -/
def Renames (p : HygienePrefix) (i : Import) : Prop :=
  ∀ n r, (n, .own r) ∈ i.names → n ≠ p.ident r.suffix

@[simp] lemma renames_default {source : String} {r : Role} : (default source r).Renames p := by
  simp [Renames, names]

@[simp] lemma renames_singleton_iff {source name : String} {r : Role} :
    (named source [(name, .own r)]).Renames p ↔ name ≠ p.ident r.suffix := by
  simp [Renames, names]

lemma pieces_named (p : HygienePrefix) (source : String) (names : List (String × Ident)) :
    (named source names).pieces p =
      .fixed "import \x7b " :: joined ", " (names.map fun x => namePieces p x.1 x.2)
        ++ [.fixed " \x7d from ", .literal source, .fixed ";"] := rfl

lemma pieces_eq_template {i : Import} (h : i.Renames p) : i.pieces p = i.template := by
  cases i with
  | named source names =>
    have hnames : (names.map fun x => namePieces p x.1 x.2) =
        names.map fun x => nameTemplate x.1 x.2 := by
      refine List.map_congr_left fun x hx => namePieces_eq fun r hr => ?_
      obtain ⟨n, i⟩ := x
      obtain rfl : i = .own r := hr
      exact h n r hx
    rw [pieces_named, template, hnames]
  | default source r => rfl

lemma size_pieces_le (i : Import) : size p (i.pieces p) ≤ size p i.template := by
  cases i with
  | named source names =>
    have := size_joined_le (p := p) ", " fun x (_ : x ∈ names) => size_namePieces_le x.1 x.2
    rw [pieces_named, template]
    simp only [size_append, size_cons]
    omega
  | default source r => exact Nat.le_refl _

lemma size_pieces_lt {i : Import} (h : ¬ i.Renames p) :
    size p (i.pieces p) < size p i.template := by
  simp only [Renames, not_forall, not_not] at h
  obtain ⟨n, r, hn, he⟩ := h
  cases i with
  | named source names =>
    have := size_joined_lt (p := p) ", " (fun x (_ : x ∈ names) => size_namePieces_le x.1 x.2) hn
      (size_namePieces_lt he)
    rw [pieces_named, template]
    simp only [size_append, size_cons]
    omega
  | default source r => simp [names] at hn

lemma names_nameTemplate (name : String) (i : Ident) :
    Names (nameTemplate name i) (suffixes [i]) := by
  cases i with
  | own r => exact (Names.role r).fixed
  | taken name' =>
    change Names (if name = name' then _ else _) []
    split
    · exact Names.nil.fixed
    · exact Names.nil.fixed.fixed

lemma names_template (i : Import) : Names i.template (suffixes i.binds) := by
  cases i with
  | named source names =>
    have hparts : List.Forall₂ Names (names.map fun x => nameTemplate x.1 x.2)
        (names.map fun x => suffixes [x.2]) := by
      rw [List.forall₂_map_left_iff, List.forall₂_map_right_iff]
      exact List.forall₂_same.2 fun x _ => names_nameTemplate x.1 x.2
    have hjoined := Names.joined ", " hparts
    rw [suffixes_flatMap, ← List.map_eq_flatMap] at hjoined
    rw [← List.append_nil (suffixes _)]
    exact hjoined.fixed.append Names.nil.fixed.literal.fixed
  | default source r =>
    exact (Names.role r).fixed.append (Names.nil.fixed.literal).fixed

end Import

/-! ### Modules -/

namespace Module

def template (m : Module) : Pieces :=
  joined "\n\n" (joined "\n" (m.imports.map Import.template)
    :: m.sections.map fun ds => joined "\n" (ds.map Decl.pieces)) ++ [.fixed "\n"]

/-- The identifiers that stand in a module, in order. -/
def occurrences (m : Module) : List Ident := m.imported ++ m.decls.flatMap Decl.occurrences

/-- **A module is its template with the prefix put in**, unless it imports a name under that very
name. -/
theorem text_eq_template_iff (p : HygienePrefix) (m : Module) :
    m.text p = m.template.text p ↔ ∀ i ∈ m.imports, i.Renames p := by
  constructor
  · intro h
    by_contra hne
    simp only [not_forall] at hne
    obtain ⟨i, hi, hr⟩ := hne
    have hlt := size_joined_lt "\n" (fun i _ => Import.size_pieces_le i) hi
      (Import.size_pieces_lt hr)
    have hsize : size p (m.pieces p) = size p m.template := congrArg String.length h
    rw [pieces, template, size_append, size_append, size_joined, size_joined] at hsize
    simp only [List.map_cons, List.sum_cons, List.length_cons] at hsize
    omega
  · intro h
    have himports : m.imports.map (Import.pieces p) = m.imports.map Import.template :=
      List.map_congr_left fun i hi => Import.pieces_eq_template (h i hi)
    rw [text, pieces, template, himports]

lemma names_sections (sections : List (List Decl)) :
    List.Forall₂ Names (sections.map fun ds => joined "\n" (ds.map Decl.pieces))
      (sections.map fun ds => suffixes (ds.flatMap Decl.occurrences)) := by
  rw [List.forall₂_map_left_iff, List.forall₂_map_right_iff]
  refine List.forall₂_same.2 fun ds _ => ?_
  rw [← suffixes_flatMap]
  refine Names.joined "\n" ?_
  rw [List.forall₂_map_left_iff, List.forall₂_map_right_iff]
  exact List.forall₂_same.2 fun d _ => d.names_pieces

lemma names_template (m : Module) : Names m.template (suffixes m.occurrences) := by
  have himports : Names (joined "\n" (m.imports.map Import.template)) (suffixes m.imported) := by
    rw [imported, ← suffixes_flatMap]
    refine Names.joined "\n" ?_
    rw [List.forall₂_map_left_iff, List.forall₂_map_right_iff]
    exact List.forall₂_same.2 fun i _ => i.names_template
  have hall := Names.joined "\n\n" (.cons himports (names_sections m.sections))
  rw [List.flatten_cons, suffixes_flatMap, ← suffixes_append] at hall
  have hdecls : m.decls.flatMap Decl.occurrences =
      m.sections.flatMap fun ds => ds.flatMap Decl.occurrences := by
    rw [decls, List.flatten_eq_flatMap, List.flatMap_assoc]
    rfl
  rw [occurrences, hdecls]
  exact hall.closed

end Module

/-! ### Wrappers -/

namespace Source

variable {s : Source}

lemma length_suffix_of_mem {x : String × Role} (h : x ∈ libraryNames) :
    x.2.suffix.length = x.1.length := by
  revert x
  decide

lemma length_token_pos (p : HygienePrefix) : 0 < p.token.length := by
  have hv := p.valid
  rw [← String.length_toList]
  unfold isPrefixToken at hv
  cases h : p.token.toList with
  | nil => simp [h, Text.isAsciiIdentifier] at hv
  | cons c cs => simp

lemma renames_importOwn (p : HygienePrefix) (source : String) {names : List (String × Role)}
    (h : names ⊆ libraryNames) : ∀ i ∈ importOwn source names, i.Renames p := by
  intro i hi n r hn he
  obtain ⟨-, rfl⟩ := mem_optional.1 hi
  obtain ⟨⟨n', r'⟩, hx, heq⟩ := List.mem_map.1 hn
  cases heq
  have hlen : r.suffix.length = n.length := length_suffix_of_mem (h hx)
  have hp := length_token_pos p
  rw [he, HygienePrefix.ident, String.length_append] at hlen
  omega

lemma renames_importFile (p : HygienePrefix) (file : Option Path) (r : Role) :
    ∀ i ∈ s.importFile file r, i.Renames p := by
  cases file <;> simp [importFile]

lemma renames_importBindings (s : Source) (p : HygienePrefix) :
    ∀ i ∈ s.importBindings, i.Renames p := by
  intro i hi n r hn
  unfold importBindings at hi
  split at hi
  · obtain ⟨-, rfl⟩ := mem_optional.1 hi
    simp [Import.names] at hn
  · simp at hi

/-- Only the import of a loader's first export can be under the very name of that export. -/
lemma renames_importRoute_iff {q : NumberedRoute} (hq : q ∈ s.routes) :
    (∀ i ∈ s.importRoute q, i.Renames p) ↔
      q.loaderExport ≠ some (p.ident (Role.routeLoader q.index).suffix) := by
  obtain ⟨⟨route, i⟩, -, rfl⟩ := mem_routes_iff.1 hq
  simp only [importRoute, List.mem_append, or_imp, forall_and,
    iff_true_intro (renames_importFile p route.metadata (.routeMeta i)), and_true]
  cases route.loader with
  | none => simp
  | some file => cases he : (s.exportsOf file).head? <;> simp [he]

lemma renames_imports_iff (s : Source) (p : HygienePrefix) :
    (∀ i ∈ s.module.imports, i.Renames p) ↔
      ∀ q ∈ s.routes, q.loaderExport ≠ some (p.ident (Role.routeLoader q.index).suffix) := by
  have hskins : ∀ i ∈ s.importSkins, i.Renames p := by
    intro i hi
    obtain ⟨x, -, rfl⟩ := List.mem_map.1 hi
    exact Import.renames_default
  have hroutes : (∀ i ∈ s.routes.flatMap s.importRoute, i.Renames p) ↔
      ∀ q ∈ s.routes, q.loaderExport ≠ some (p.ident (Role.routeLoader q.index).suffix) := by
    simp only [List.mem_flatMap, forall_exists_index, and_imp]
    rw [forall_comm]
    exact forall_congr' fun q => ⟨fun h hq => (renames_importRoute_iff hq).1 fun i hi => h i hq hi,
      fun h i hq hi => (renames_importRoute_iff hq).2 (h hq) i hi⟩
  rw [← hroutes]
  simp only [module, imports, List.mem_append, or_imp, forall_and,
    iff_true_intro hskins, iff_true_intro (renames_importBindings s p),
    iff_true_intro (renames_importFile _ _ _),
    iff_true_intro (renames_importOwn p _ s.frameworkNames_subset),
    iff_true_intro (renames_importOwn p _ (routerNames_subset _)),
    iff_true_intro (renames_importOwn p _ s.runtimeNames_subset),
    true_and]

/-- **One wrapper for all prefixes.** A component has one template, of fixed text and places for the
prefix, which stand before the suffixes of the identifiers that the wrapper introduces, in their
order. Under every prefix the wrapper is the template with that prefix put in, as long as no
loader's first export is the identifier that the prefix makes for it; and only so long. -/
theorem exists_template (s : Source) : ∃ template : Pieces,
    (∀ x ∈ template, x = .hole ∨ ∃ text, ∀ p, x.text p = text) ∧
    template.Names (suffixes s.module.occurrences) ∧
    ∀ p : HygienePrefix, s.module.text p = template.text p ↔
      ∀ q ∈ s.routes, q.loaderExport ≠ some (p.ident (Role.routeLoader q.index).suffix) := by
  refine ⟨s.module.template, fun x _ => x.eq_hole_or_text_eq, s.module.names_template,
    fun p => ?_⟩
  rw [Module.text_eq_template_iff, renames_imports_iff]

end Source

end ViewLayers.Wrapper
