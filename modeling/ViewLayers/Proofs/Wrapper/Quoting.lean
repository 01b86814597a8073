import Mathlib.Data.List.Forall2
import ViewLayers.Proofs.Script.Literals
import ViewLayers.Wrapper.Printer

/-!
Code around literals. Two prints are alike if they are one code around literals of their own, and
then the script reader finds that same code in both, and in each of them its own literals.
-/

namespace ViewLayers.Wrapper

open Script Text

/-- A text without a double quote, which so begins no literal. -/
def IsCode (t : String) : Prop := '"' ∉ t.toList

instance (t : String) : Decidable (IsCode t) := inferInstanceAs (Decidable (_ ∉ _))

lemma IsCode.append {t u : String} (ht : IsCode t) (hu : IsCode u) : IsCode (t ++ u) := by
  simpa [IsCode] using ⟨ht, hu⟩

lemma isCode_of_all {f : Char → Bool} {t : String} (h : t.toList.all f = true)
    (hf : f '"' = false) : IsCode t := by
  intro hq
  have := List.all_eq_true.1 h _ hq
  rw [hf] at this
  exact Bool.false_ne_true this

lemma isCode_indent (level : Nat) : IsCode (indent level) := by
  intro h
  rw [indent, String.toList_ofList] at h
  exact absurd (List.eq_of_mem_replicate h) (by decide)

lemma isCode_toString (i : Nat) : IsCode (toString i) := by
  have hdigits : (toString i).toList.all Char.isDigit = true := by
    simpa using fun c h => Nat.isDigit_of_mem_toDigits (b := 10) (by decide) (by decide) h
  exact isCode_of_all hdigits rfl

lemma isCode_of_isAsciiIdentifier {t : String} (h : isAsciiIdentifier t.toList = true) :
    IsCode t := by
  refine isCode_of_all (f := isAsciiPart) ?_ (by decide)
  cases hc : t.toList with
  | nil => rfl
  | cons c cs =>
    rw [hc, isAsciiIdentifier, Bool.and_eq_true] at h
    rw [List.all_cons, isAsciiPart_of_isAsciiStart h.1, h.2, Bool.and_self]

lemma HygienePrefix.isCode_token (p : HygienePrefix) : IsCode p.token := by
  have hv := p.valid
  rw [isPrefixToken] at hv
  exact isCode_of_isAsciiIdentifier hv

/-- Names that come from outside are code. -/
def Role.Plain : Role → Prop
  | component displayName => IsCode displayName
  | binding name => IsCode name
  | _ => True

lemma Role.isCode_suffix {r : Role} (h : r.Plain) : IsCode r.suffix := by
  cases r with
  | component displayName => exact h
  | binding name => exact .append (t := "binding_") (by decide) h
  | skin i => exact .append (by decide) (isCode_toString i)
  | routeLoader i => exact .append (by decide) (isCode_toString i)
  | routeMeta i => exact .append (by decide) (isCode_toString i)
  | routeView i => exact .append (by decide) (isCode_toString i)
  | route i => exact .append (by decide) (isCode_toString i)
  | _ => decide

namespace Pieces

/-- The same code around literals that are `ts` on one side and `us` on the other. -/
inductive Alike : Pieces → Pieces → List String → List String → Prop
  | nil : Alike [] [] [] []
  | fixed {t : String} {ps qs : Pieces} {ts us : List String} (ht : IsCode t)
      (h : Alike ps qs ts us) : Alike (.fixed t :: ps) (.fixed t :: qs) ts us
  | hole {ps qs : Pieces} {ts us : List String} (h : Alike ps qs ts us) :
      Alike (.hole :: ps) (.hole :: qs) ts us
  | literal {t u : String} {ps qs : Pieces} {ts us : List String} (h : Alike ps qs ts us) :
      Alike (.literal t :: ps) (.literal u :: qs) (t :: ts) (u :: us)

/-- **Prints that are alike fall apart alike**: into the same code, and the literals of each. -/
theorem Alike.exists_cut {ps qs : Pieces} {ts us : List String} (h : Alike ps qs ts us)
    (p : HygienePrefix) : ∃ code, cut (ps.text p).toList = some (code, ts) ∧
      cut (qs.text p).toList = some (code, us) := by
  have hcons : ∀ (x : Piece) (ps : Pieces),
      (text p (x :: ps)).toList = (x.text p).toList ++ (text p ps).toList := by
    intro x ps
    simp [text]
  induction h with
  | nil => exact ⟨[[]], by simp [text, cut], by simp [text, cut]⟩
  | @fixed t _ _ _ _ ht _ ih =>
    obtain ⟨code, hps, hqs⟩ := ih
    refine ⟨code.modifyHead (t.toList ++ ·), ?_, ?_⟩
    · rw [hcons, Piece.text, cut_of_code ht, hps, Option.map_some]
    · rw [hcons, Piece.text, cut_of_code ht, hqs, Option.map_some]
  | hole _ ih =>
    obtain ⟨code, hps, hqs⟩ := ih
    have hp := HygienePrefix.isCode_token p
    refine ⟨code.modifyHead (p.token.toList ++ ·), ?_, ?_⟩
    · rw [hcons, Piece.text, cut_of_code hp, hps, Option.map_some]
    · rw [hcons, Piece.text, cut_of_code hp, hqs, Option.map_some]
  | literal _ ih =>
    obtain ⟨code, hps, hqs⟩ := ih
    refine ⟨[] :: code, ?_, ?_⟩
    · rw [hcons, Piece.text, cut_literal, hps, Option.map_some]
    · rw [hcons, Piece.text, cut_literal, hqs, Option.map_some]

namespace Alike

variable {ps qs ps' qs' : Pieces} {ts us ts' us' : List String}

lemma append (h : Alike ps qs ts us) (h' : Alike ps' qs' ts' us') :
    Alike (ps ++ ps') (qs ++ qs') (ts ++ ts') (us ++ us') := by
  induction h with
  | nil => exact h'
  | fixed ht _ ih => exact ih.fixed ht
  | hole _ ih => exact ih.hole
  | literal _ ih => exact ih.literal

lemma closed {t : String} (ht : IsCode t) (h : Alike ps qs ts us) :
    Alike (ps ++ [.fixed t]) (qs ++ [.fixed t]) ts us := by
  simpa using h.append (nil.fixed ht)

lemma role {r : Role} (h : r.Plain) : Alike r.pieces r.pieces [] [] :=
  (nil.fixed (Role.isCode_suffix h)).hole

end Alike

inductive AllAlike : List Pieces → List Pieces → List String → List String → Prop
  | nil : AllAlike [] [] [] []
  | cons {ps qs : Pieces} {pss qss : List Pieces} {ts us ts' us' : List String}
      (h : Alike ps qs ts us) (hs : AllAlike pss qss ts' us') :
      AllAlike (ps :: pss) (qs :: qss) (ts ++ ts') (us ++ us')

namespace AllAlike

variable {pss qss pss' qss' : List Pieces} {ts us ts' us' : List String}

lemma singleton {ps qs : Pieces} (h : Alike ps qs ts us) : AllAlike [ps] [qs] ts us := by
  simpa using cons h nil

lemma append (h : AllAlike pss qss ts us) (h' : AllAlike pss' qss' ts' us') :
    AllAlike (pss ++ pss') (qss ++ qss') (ts ++ ts') (us ++ us') := by
  induction h with
  | nil => exact h'
  | cons h _ ih =>
    rw [List.append_assoc, List.append_assoc]
    exact cons h ih

lemma length_eq (h : AllAlike pss qss ts us) : pss.length = qss.length := by
  induction h with
  | nil => rfl
  | cons _ _ ih => rw [List.length_cons, List.length_cons, ih]

lemma map {α β : Type} {as : List α} {bs : List β} {f : α → Pieces} {g : β → Pieces}
    {t : α → List String} {u : β → List String}
    (h : List.Forall₂ (fun a b => Alike (f a) (g b) (t a) (u b)) as bs) :
    AllAlike (as.map f) (bs.map g) (as.flatMap t) (bs.flatMap u) := by
  induction h with
  | nil => exact nil
  | cons h _ ih => exact cons h ih

lemma map_singleton {α β : Type} {as : List α} {bs : List β} {f : α → Pieces} {g : β → Pieces}
    {t : α → String} {u : β → String}
    (h : List.Forall₂ (fun a b => Alike (f a) (g b) [t a] [u b]) as bs) :
    AllAlike (as.map f) (bs.map g) (as.map t) (bs.map u) := by
  rw [List.map_eq_flatMap (f := t), List.map_eq_flatMap (f := u)]
  exact map h

lemma flatMap {α β : Type} {as : List α} {bs : List β} {f : α → List Pieces}
    {g : β → List Pieces} {t : α → List String} {u : β → List String}
    (h : List.Forall₂ (fun a b => AllAlike (f a) (g b) (t a) (u b)) as bs) :
    AllAlike (as.flatMap f) (bs.flatMap g) (as.flatMap t) (bs.flatMap u) := by
  induction h with
  | nil => exact nil
  | cons h _ ih => exact h.append ih

lemma joined {sep : String} (hsep : IsCode sep) (h : AllAlike pss qss ts us) :
    Alike (joined sep pss) (joined sep qss) ts us := by
  induction h with
  | nil => exact .nil
  | cons h hs ih =>
    cases hs with
    | nil => simpa [Pieces.joined] using h
    | cons h' hs => exact h.append (ih.fixed hsep)

end AllAlike

end Pieces

open Pieces

/-! ### Expressions -/

namespace Expr

variable {e e' : Expr} {es es' : List Expr} {fs fs' : List (Key × Expr)}
  {ts us ts' us' : List String}

def Alike (e e' : Expr) (ts us : List String) : Prop :=
  ∀ level, Pieces.Alike (e.pieces level) (e'.pieces level) ts us

def AllAlike (es es' : List Expr) (ts us : List String) : Prop :=
  ∀ level, Pieces.AllAlike (piecesOfList level es) (piecesOfList level es') ts us

def FieldsAlike (fs fs' : List (Key × Expr)) (ts us : List String) : Prop :=
  ∀ level, Pieces.AllAlike (piecesOfFields level fs) (piecesOfFields level fs') ts us

lemma length_piecesOfList (level : Nat) (es : List Expr) :
    (piecesOfList level es).length = es.length := by
  induction es with
  | nil => rfl
  | cons e es ih => rw [piecesOfList, List.length_cons, ih, List.length_cons]

lemma length_piecesOfFields (level : Nat) (fs : List (Key × Expr)) :
    (piecesOfFields level fs).length = fs.length := by
  induction fs with
  | nil => rfl
  | cons f fs ih =>
    obtain ⟨k, e⟩ := f
    cases k <;> rw [piecesOfFields, List.length_cons, ih, List.length_cons]

namespace AllAlike

lemma nil : AllAlike [] [] [] [] := fun _ => .nil

lemma cons (h : Alike e e' ts us) (hs : AllAlike es es' ts' us') :
    AllAlike (e :: es) (e' :: es') (ts ++ ts') (us ++ us') :=
  fun level => .cons (h level) (hs level)

lemma singleton (h : Alike e e' ts us) : AllAlike [e] [e'] ts us :=
  fun level => .singleton (h level)

lemma cons_own {r : Role} (hr : r.Plain) (hs : AllAlike es es' ts us) :
    AllAlike (.own r :: es) (.own r :: es') ts us := by
  intro level
  have hr : Pieces.Alike ((Expr.own r).pieces level) ((Expr.own r).pieces level) [] [] := by
    simpa [Expr.own, pieces, Ident.pieces] using Pieces.Alike.role hr
  exact .cons hr (hs level)

lemma length_eq (h : AllAlike es es' ts us) : es.length = es'.length := by
  simpa only [length_piecesOfList] using (h 0).length_eq

end AllAlike

namespace FieldsAlike

lemma nil : FieldsAlike [] [] [] [] := fun _ => .nil

lemma name {k : String} (hk : IsCode (k ++ ": ")) (h : Alike e e' ts us)
    (hs : FieldsAlike fs fs' ts' us') :
    FieldsAlike ((.name k, e) :: fs) ((.name k, e') :: fs') (ts ++ ts') (us ++ us') :=
  fun level => .cons ((h level).fixed hk) (hs level)

lemma text (k k' : String) (h : Alike e e' ts us) (hs : FieldsAlike fs fs' ts' us') :
    FieldsAlike ((.text k, e) :: fs) ((.text k', e') :: fs') (k :: ts ++ ts') (k' :: us ++ us') :=
  fun level => .cons ((h level).fixed (by decide)).literal (hs level)

lemma spread (h : Alike e e' ts us) (hs : FieldsAlike fs fs' ts' us') :
    FieldsAlike ((.spread, e) :: fs) ((.spread, e') :: fs') (ts ++ ts') (us ++ us') :=
  fun level => .cons ((h level).fixed (by decide)) (hs level)

lemma length_eq (h : FieldsAlike fs fs' ts us) : fs.length = fs'.length := by
  simpa only [length_piecesOfFields] using (h 0).length_eq

end FieldsAlike

namespace Alike

lemma own {r : Role} (h : r.Plain) : Alike (own r) (own r) [] [] :=
  fun level => by simpa [Expr.own, pieces, Ident.pieces] using Pieces.Alike.role h

lemma taken {name : String} (h : IsCode name) :
    Alike (ident (.taken name)) (ident (.taken name)) [] [] :=
  fun level => by simpa [pieces, Ident.pieces] using Pieces.Alike.nil.fixed h

lemma text (t u : String) : Alike (text t) (text u) [t] [u] :=
  fun level => by simpa [pieces] using Pieces.Alike.nil.literal

lemma null : Alike null null [] [] :=
  fun level => by simpa [pieces] using Pieces.Alike.nil.fixed (t := "null") (by decide)

lemma yes : Alike yes yes [] [] :=
  fun level => by simpa [pieces] using Pieces.Alike.nil.fixed (t := "true") (by decide)

lemma member {name : String} (h : Alike e e' ts us) (hn : IsCode ("." ++ name)) :
    Alike (member e name) (member e' name) ts us :=
  fun level => by simpa only [pieces] using (h level).closed hn

lemma orElse {d d' : Expr} (h : Alike e e' ts us) (h' : Alike d d' ts' us') :
    Alike (orElse e d) (orElse e' d') (ts ++ ts') (us ++ us') :=
  fun level => by simpa only [pieces] using (h level).append ((h' level).fixed (by decide))

lemma call {r : Role} (hr : r.Plain) (h : AllAlike es es' ts us) :
    Alike (call (.own r) es) (call (.own r) es') ts us := by
  intro level
  have hargs := (h level).joined (show IsCode ", " by decide)
  rw [pieces, pieces]
  exact ((Pieces.Alike.role hr).append (hargs.fixed (by decide))).closed (by decide)

lemma glob (h : AllAlike es es' ts us) : Alike (glob es) (glob es') ts us := by
  intro level
  have hargs := (h level).joined (show IsCode ", " by decide)
  rw [pieces, pieces]
  exact (hargs.fixed (by decide)).closed (by decide)

lemma load (t u : String) : Alike (load t) (load u) [t] [u] :=
  fun level => ((Pieces.Alike.nil.fixed (by decide)).literal).fixed (by decide)

lemma thunk (h : Alike e e' ts us) : Alike (thunk e) (thunk e') ts us :=
  fun level => (h level).fixed (by decide)

lemma object (h : FieldsAlike fs fs' ts us) : Alike (object fs) (object fs') ts us := by
  intro level
  have hfields := (h level).joined (show IsCode ", " by decide)
  cases fs with
  | nil =>
    obtain rfl := List.eq_nil_of_length_eq_zero h.length_eq.symm
    cases h level
    exact Pieces.Alike.nil.fixed (by decide)
  | cons f fs =>
    obtain ⟨f', fs', rfl⟩ := List.exists_cons_of_length_eq_add_one h.length_eq.symm
    rw [pieces, pieces]
    exact (hfields.fixed (by decide)).closed (by decide)

lemma list (h : AllAlike es es' ts us) : Alike (list es) (list es') ts us := by
  intro level
  have hindent := isCode_indent (level + 1)
  have hes := (h (level + 1)).joined (.append (t := ",\n") (by decide) hindent)
  cases es with
  | nil =>
    obtain rfl := List.eq_nil_of_length_eq_zero h.length_eq.symm
    cases h level
    exact Pieces.Alike.nil.fixed (by decide)
  | cons e es =>
    obtain ⟨e', es', rfl⟩ := List.exists_cons_of_length_eq_add_one h.length_eq.symm
    rw [pieces, pieces]
    exact (hes.fixed (.append (by decide) hindent)).closed
      (.append (.append (by decide) (isCode_indent level)) (by decide))

lemma boundary {r : Role} {d d' : Expr} (hr : r.Plain) (h : Alike d d' ts us)
    (h' : Alike e e' ts' us') :
    Alike (boundary r d e) (boundary r d' e') (ts ++ ts') (us ++ us') := by
  intro level
  have hcreate : Role.createElement.Plain := trivial
  have hinner := (h' (level + 1)).fixed (t := " \x7d,\n" ++ indent (level + 1))
    (.append (by decide) (isCode_indent _))
  rw [pieces, pieces]
  exact (((((Pieces.Alike.role hcreate).append ((Pieces.Alike.role hr).fixed (by decide))).append
    ((h level).fixed (by decide))).append hinner).closed (by decide))

end Alike

end Expr

/-! ### Declarations and imports -/

variable {ts us ts' us' : List String}

def Decl.Alike (d d' : Decl) (ts us : List String) : Prop :=
  Pieces.Alike d.pieces d'.pieces ts us

/-- Constants of a function that are alike one by one. -/
def LocalsAlike (ls ls' : List (Role × Expr)) (ts us : List String) : Prop :=
  Pieces.AllAlike (ls.map fun l => constPieces 1 l.1 l.2) (ls'.map fun l => constPieces 1 l.1 l.2)
    ts us

lemma alike_constPieces {r : Role} {e e' : Expr} (level : Nat) (hr : r.Plain)
    (h : Expr.Alike e e' ts us) :
    Pieces.Alike (constPieces level r e) (constPieces level r e') ts us :=
  (((Pieces.Alike.role hr).append ((h level).fixed (by decide))).fixed
    (.append (isCode_indent level) (by decide))).closed (by decide)

namespace LocalsAlike

lemma nil : LocalsAlike [] [] [] [] := Pieces.AllAlike.nil

lemma cons {r : Role} {e e' : Expr} {ls ls' : List (Role × Expr)} (hr : r.Plain)
    (h : Expr.Alike e e' ts us) (hs : LocalsAlike ls ls' ts' us') :
    LocalsAlike ((r, e) :: ls) ((r, e') :: ls') (ts ++ ts') (us ++ us') :=
  Pieces.AllAlike.cons (alike_constPieces 1 hr h) hs

lemma same {ls : List (Role × Expr)} (h : ∀ l ∈ ls, l.1.Plain ∧ Expr.Alike l.2 l.2 [] []) :
    LocalsAlike ls ls [] [] := by
  induction ls with
  | nil => exact nil
  | cons l ls ih =>
    obtain ⟨hr, he⟩ := h l List.mem_cons_self
    exact cons hr he (ih fun l hl => h l (List.mem_cons_of_mem _ hl))

lemma append {ls ls' ks ks' : List (Role × Expr)} (h : LocalsAlike ls ls' ts us)
    (h' : LocalsAlike ks ks' ts' us') :
    LocalsAlike (ls ++ ks) (ls' ++ ks') (ts ++ ts') (us ++ us') := by
  unfold LocalsAlike
  rw [List.map_append, List.map_append]
  exact Pieces.AllAlike.append h h'

end LocalsAlike

namespace Decl.Alike

variable {r : Role} {e e' : Expr}

lemma const (hr : r.Plain) (h : Expr.Alike e e' ts us) :
    Decl.Alike (.const r e) (.const r e') ts us :=
  alike_constPieces 0 hr h

lemma function {ls ls' : List (Role × Expr)} (hr : r.Plain) (hl : LocalsAlike ls ls' ts us)
    (h : Expr.Alike e e' ts' us') :
    Decl.Alike (.function r ls e) (.function r ls' e') (ts ++ ts') (us ++ us') := by
  have hresult := ((h 1).fixed (t := "  return ") (by decide)).closed (t := ";") (by decide)
  have hbody := (Pieces.AllAlike.append hl (.singleton hresult)).joined
    (show IsCode "\n" by decide)
  have hprops := (Pieces.Alike.role (r := .props) trivial).fixed (t := "(") (by decide)
  exact ((((Pieces.Alike.role hr).append hprops).fixed (by decide)).append
    (hbody.fixed (by decide))).closed (by decide)

lemma displayName (hr : r.Plain) (t u : String) :
    Decl.Alike (.displayName r t) (.displayName r u) [t] [u] :=
  (Pieces.Alike.role hr).append ((Pieces.Alike.nil.fixed (by decide)).literal.fixed (by decide))

lemma exportDefault (hr : r.Plain) : Decl.Alike (.exportDefault r) (.exportDefault r) [] [] :=
  ((Pieces.Alike.role hr).fixed (by decide)).closed (by decide)

end Decl.Alike

/-- Declarations that are alike one by one. -/
def DeclsAlike (ds ds' : List Decl) (ts us : List String) : Prop :=
  Pieces.AllAlike (ds.map Decl.pieces) (ds'.map Decl.pieces) ts us

namespace DeclsAlike

variable {d d' : Decl} {ds ds' : List Decl}

lemma cons (h : d.Alike d' ts us) (hs : DeclsAlike ds ds' ts' us') :
    DeclsAlike (d :: ds) (d' :: ds') (ts ++ ts') (us ++ us') :=
  Pieces.AllAlike.cons h hs

lemma singleton (h : d.Alike d' ts us) : DeclsAlike [d] [d'] ts us :=
  Pieces.AllAlike.singleton h

lemma joined (h : DeclsAlike ds ds' ts us) :
    Pieces.Alike (joined "\n" (ds.map Decl.pieces)) (joined "\n" (ds'.map Decl.pieces)) ts us :=
  Pieces.AllAlike.joined (by decide) h

end DeclsAlike

/-- Sections that are alike one by one. -/
def SectionsAlike (sections sections' : List (List Decl)) (ts us : List String) : Prop :=
  Pieces.AllAlike (sections.map fun ds => joined "\n" (ds.map Decl.pieces))
    (sections'.map fun ds => joined "\n" (ds.map Decl.pieces)) ts us

namespace SectionsAlike

variable {ss ss' ss₁ ss₁' : List (List Decl)}

lemma nil : SectionsAlike [] [] [] [] := Pieces.AllAlike.nil

lemma singleton {ds ds' : List Decl} (h : DeclsAlike ds ds' ts us) :
    SectionsAlike [ds] [ds'] ts us :=
  Pieces.AllAlike.singleton h.joined

lemma append (h : SectionsAlike ss ss' ts us) (h' : SectionsAlike ss₁ ss₁' ts' us') :
    SectionsAlike (ss ++ ss₁) (ss' ++ ss₁') (ts ++ ts') (us ++ us') := by
  unfold SectionsAlike
  rw [List.map_append, List.map_append]
  exact Pieces.AllAlike.append h h'

end SectionsAlike

def ImportsAlike (p : HygienePrefix) (is is' : List Import) (ts us : List String) : Prop :=
  Pieces.AllAlike (is.map (Import.pieces p)) (is'.map (Import.pieces p)) ts us

lemma ImportsAlike.append {p : HygienePrefix} {is is' js js' : List Import}
    (h : ImportsAlike p is is' ts us) (h' : ImportsAlike p js js' ts' us') :
    ImportsAlike p (is ++ js) (is' ++ js') (ts ++ ts') (us ++ us') := by
  unfold ImportsAlike
  rw [List.map_append, List.map_append]
  exact Pieces.AllAlike.append h h'

lemma alike_namePieces (p : HygienePrefix) {name : String} {i : Ident} (hn : IsCode name)
    (hi : Pieces.Alike i.pieces i.pieces [] []) :
    Pieces.Alike (namePieces p name i) (namePieces p name i) [] [] := by
  unfold namePieces
  split
  · exact Pieces.Alike.nil.fixed hn
  · exact hi.fixed (.append hn (by decide))

lemma alike_default (p : HygienePrefix) {r : Role} (hr : r.Plain) (t u : String) :
    Pieces.Alike (Import.pieces p (.default t r)) (Import.pieces p (.default u r)) [t] [u] :=
  ((Pieces.Alike.role hr).fixed (by decide)).append
    ((Pieces.Alike.nil.fixed (by decide)).literal.fixed (by decide))

lemma alike_named (p : HygienePrefix) {names : List (String × Ident)}
    (h : ∀ x ∈ names, IsCode x.1 ∧ Pieces.Alike x.2.pieces x.2.pieces [] []) (t u : String) :
    Pieces.Alike (Import.pieces p (.named t names)) (Import.pieces p (.named u names)) [t] [u] := by
  have hnames : Pieces.AllAlike (names.map fun x => namePieces p x.1 x.2)
      (names.map fun x => namePieces p x.1 x.2) [] [] := by
    have hnone : (names.flatMap fun _ => ([] : List String)) = [] :=
      List.flatMap_eq_nil_iff.2 fun _ _ => rfl
    rw [← hnone]
    exact .map (List.forall₂_same.2 fun x hx => alike_namePieces p (h x hx).1 (h x hx).2)
  exact ((hnames.joined (by decide)).fixed (by decide)).append
    ((Pieces.Alike.nil.fixed (by decide)).literal.fixed (by decide))

lemma alike_module (p : HygienePrefix) (m m' : Module)
    (hi : ImportsAlike p m.imports m'.imports ts us)
    (hs : SectionsAlike m.sections m'.sections ts' us') :
    Pieces.Alike (m.pieces p) (m'.pieces p) (ts ++ ts') (us ++ us') :=
  (Pieces.AllAlike.joined (by decide) (.cons (hi.joined (by decide)) hs)).closed (by decide)

end ViewLayers.Wrapper
