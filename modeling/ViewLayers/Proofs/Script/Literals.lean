import Mathlib.Data.List.Basic
import ViewLayers.Script.Lexer
import ViewLayers.Text.Quoted

/-!
Double-quoted literals of a script. A quoted text is read back as that text, whatever it holds, and
the reader stops right after it; so a script falls apart into its literals and the code between
them.
-/

namespace ViewLayers.Script

open Text

/-! ### Escapes -/

variable {quote : Char} {taken : List Nat}

lemma stringPoints_of_escape {cs rest : List Char} {ns : List Nat}
    (h : escape cs = some (ns, rest)) :
    stringPoints quote taken ('\\' :: cs) = stringPoints quote (ns.reverse ++ taken) rest := by
  rw [stringPoints]
  split
  · rename_i ns' rest' h'
    rw [h] at h'
    cases h'
    rfl
  · rename_i h'
    rw [h] at h'
    cases h'

lemma stringPoints_of_plain {c : Char} (cs : List Char) (hb : c ≠ '\\') (hq : c ≠ quote)
    (hn : c ≠ '\n') (hr : c ≠ '\r') :
    stringPoints quote taken (c :: cs) = stringPoints quote (c.toNat :: taken) cs := by
  rw [stringPoints]
  · simp [hq, hn, hr]
  · exact hb

lemma hexValue_hexDigit {n : Nat} (h : n < 16) : hexValue (Quoted.hexDigit n) = some n := by
  revert n
  decide

lemma unicodeEscape_control {n : Nat} (h : n < 32) (rest : List Char) :
    unicodeEscape ('0' :: '0' :: Quoted.hexDigit (n / 16) :: Quoted.hexDigit (n % 16) :: rest) =
      some (n, rest) := by
  have h0 : hexValue '0' = some 0 := rfl
  have hhigh := hexValue_hexDigit (n := n / 16) (by omega)
  have hlow := hexValue_hexDigit (n := n % 16) (by omega)
  have hsum : 16 * (n / 16) + n % 16 = n := Nat.div_add_mod n 16
  simp [unicodeEscape, hexNumber, h0, hhigh, hlow, hsum]

/-- What a character is written as is read as that character. -/
lemma stringPoints_encodeChar (c : Char) (rest : List Char) :
    stringPoints '"' taken (Quoted.encodeChar c ++ rest) =
      stringPoints '"' (c.toNat :: taken) rest := by
  have hletter : ∀ {d : Char} {n : Nat}, escape (d :: rest) = some ([n], rest) → c.toNat = n →
      stringPoints '"' taken ('\\' :: d :: rest) = stringPoints '"' (c.toNat :: taken) rest :=
    fun h hn => hn ▸ stringPoints_of_escape h
  unfold Quoted.encodeChar
  by_cases hquote : c = '"'
  · rw [if_pos hquote]
    exact hletter (by simp [escape, isLineBreak, isOctal]) (congrArg Char.toNat hquote)
  by_cases hslash : c = '\\'
  · rw [if_neg hquote, if_pos hslash]
    exact hletter (by simp [escape, isLineBreak, isOctal]) (congrArg Char.toNat hslash)
  by_cases hline : c = '\n'
  · rw [if_neg hquote, if_neg hslash, if_pos hline]
    exact hletter (by simp [escape]) (congrArg Char.toNat hline)
  by_cases hreturn : c = '\r'
  · rw [if_neg hquote, if_neg hslash, if_neg hline, if_pos hreturn]
    exact hletter (by simp [escape]) (congrArg Char.toNat hreturn)
  by_cases htab : c = '\t'
  · rw [if_neg hquote, if_neg hslash, if_neg hline, if_neg hreturn, if_pos htab]
    exact hletter (by simp [escape]) (congrArg Char.toNat htab)
  rw [if_neg hquote, if_neg hslash, if_neg hline, if_neg hreturn, if_neg htab]
  -- two more letters, then the control characters that have none, and all the rest
  split
  · rename_i h
    exact hletter (by simp [escape]) h
  split
  · rename_i h
    exact hletter (by simp [escape]) h
  split
  · rename_i h
    have hescape : ∀ rest, escape ('u' :: '0' :: '0' :: Quoted.hexDigit (c.toNat / 16)
        :: Quoted.hexDigit (c.toNat % 16) :: rest) = some ([c.toNat], rest) := by
      intro rest
      simp [escape, unicodeEscape_control h]
    exact stringPoints_of_escape (hescape rest)
  · exact stringPoints_of_plain rest hslash hquote hline hreturn

lemma stringPoints_encode (cs rest : List Char) :
    stringPoints '"' taken (Quoted.encode cs ++ '"' :: rest) =
      some (taken.reverse ++ cs.map Char.toNat, rest) := by
  induction cs generalizing taken with
  | nil =>
    rw [Quoted.encode, List.flatMap_nil, List.nil_append, stringPoints]
    · simp
    · simp
  | cons c cs ih =>
    rw [Quoted.encode, List.flatMap_cons, List.append_assoc, stringPoints_encodeChar,
      ← Quoted.encode, ih]
    simp

lemma not_surrogate (c : Char) : ¬ (0xd800 ≤ c.toNat ∧ c.toNat < 0xe000) := by
  have hv : c.toNat < 0xd800 ∨ 0xdfff < c.toNat ∧ c.toNat < 0x110000 := c.valid
  omega

lemma joinSurrogates_map_toNat : (cs : List Char) → joinSurrogates (cs.map Char.toNat) = some cs
  | [] => rfl
  | [c] => by
    have := not_surrogate c
    simp [joinSurrogates, this]
  | c :: d :: cs => by
    have hc := not_surrogate c
    have hhigh : ¬ (((0xd800 ≤ c.toNat ∧ c.toNat < 0xdc00) ∧ 0xdc00 ≤ d.toNat) ∧
      d.toNat < 0xe000) := by omega
    have ih := joinSurrogates_map_toNat (d :: cs)
    rw [List.map_cons] at ih
    simp [joinSurrogates, hc, hhigh, ih]

/-! ### Reading literals -/

/-- What a double-quoted literal stands for, from after its opening quote, and what follows it. -/
def quoted? (cs : List Char) : Option (String × List Char) :=
  (stringPoints '"' [] cs).bind fun (ns, rest) =>
    (joinSurrogates ns).map fun ds => (String.ofList ds, rest)

/-- **Whatever a text holds, its literal is read as that text**, and the reader stops behind it. -/
theorem quoted?_literal (s : String) (rest : List Char) :
    quoted? (Quoted.encode s.toList ++ '"' :: rest) = some (s, rest) := by
  simp [quoted?, stringPoints_encode, joinSurrogates_map_toNat]

lemma toList_literal_append (s : String) (rest : List Char) :
    (Quoted.literal s).toList ++ rest = '"' :: (Quoted.encode s.toList ++ '"' :: rest) := by
  simp [Quoted.literal]

lemma literal_append_inj {s s' : String} {rest rest' : List Char}
    (h : (Quoted.literal s).toList ++ rest = (Quoted.literal s').toList ++ rest') :
    s = s' ∧ rest = rest' := by
  rw [toList_literal_append, toList_literal_append] at h
  have hread := quoted?_literal s rest
  rw [(List.cons.inj h).2, quoted?_literal] at hread
  cases hread
  exact ⟨rfl, rfl⟩

lemma stringPoints_length {cs rest : List Char} {ns : List Nat}
    (h : stringPoints quote taken cs = some (ns, rest)) : rest.length < cs.length := by
  fun_induction stringPoints quote taken cs with
  | case1 => simp at h
  | case2 taken ds ns es hes hlen ih =>
    have hrest := ih h
    rw [List.length_cons]
    omega
  | case3 => simp at h
  | case4 taken c ds _ hq =>
    cases h
    simp
  | case5 => simp at h
  | case6 taken c ds _ _ _ ih =>
    have hrest := ih h
    rw [List.length_cons]
    omega

lemma quoted?_length {cs rest : List Char} {s : String} (h : quoted? cs = some (s, rest)) :
    rest.length < cs.length := by
  obtain ⟨⟨ns, rest'⟩, hp, h⟩ := Option.bind_eq_some_iff.1 h
  obtain ⟨ds, -, heq⟩ := Option.map_eq_some_iff.1 h
  cases heq
  exact stringPoints_length hp

/-- A script cut at its double-quoted literals: the code before, between and after them, and what
they stand for. None if a literal does not end. -/
def cut (cs : List Char) : Option (List (List Char) × List String) :=
  match cs with
  | [] => some ([[]], [])
  | c :: cs =>
    if c = '"' then
      match h : quoted? cs with
      | some (s, rest) =>
        have := quoted?_length h
        (cut rest).map fun (code, texts) => ([] :: code, s :: texts)
      | none => none
    else (cut cs).map fun (code, texts) => (code.modifyHead (c :: ·), texts)
termination_by cs.length

lemma cut_of_code {cs : List Char} (h : '"' ∉ cs) (rest : List Char) :
    cut (cs ++ rest) = (cut rest).map fun x => (x.1.modifyHead (cs ++ ·), x.2) := by
  induction cs with
  | nil =>
    have hid :
        (fun x : List (List Char) × List String => (x.1.modifyHead ([] ++ ·), x.2)) = id := by
      funext ⟨code, texts⟩
      cases code <;> rfl
    rw [hid, Option.map_id, id, List.nil_append]
  | cons c cs ih =>
    rw [List.mem_cons, not_or] at h
    rw [List.cons_append, cut, if_neg (Ne.symm h.1), ih h.2, Option.map_map]
    simp [Function.comp_def, List.modifyHead_modifyHead]

lemma cut_literal (s : String) (rest : List Char) :
    cut ((Quoted.literal s).toList ++ rest) =
      (cut rest).map fun x => ([] :: x.1, s :: x.2) := by
  rw [toList_literal_append, cut, if_pos rfl]
  split
  · rename_i s' rest' h
    rw [quoted?_literal] at h
    cases h
    rfl
  · rename_i h
    rw [quoted?_literal] at h
    cases h

end ViewLayers.Script
