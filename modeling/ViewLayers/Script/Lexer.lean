import ViewLayers.Script.Token
import ViewLayers.Text.Identifier

/-!
Reading one token from the characters of a script. Each reader takes the characters from its
first one on and returns what follows the token; `none` stands for a malformed token.
-/

namespace ViewLayers.Script

open ViewLayers.Text

def isLineBreak (c : Char) : Bool :=
  c == '\n' || c == '\r' || c.toNat == 0x2028 || c.toNat == 0x2029

/-- Blanks that end no line. -/
def isBlank (c : Char) : Bool :=
  [0x20, 0x09, 0x0b, 0x0c, 0xa0, 0xfeff, 0x85, 0x1680, 0x180e, 0x202f, 0x205f, 0x3000].contains
    c.toNat || (0x2000 ≤ c.toNat && c.toNat ≤ 0x200b)

inductive Gap where
  | code
  | line
  | block

/-- Skip blanks and comments, and say whether a line ended among them. -/
def skipGap : Gap → Bool → List Char → Option (Bool × List Char)
  | .block, _, [] => none
  | .code, nl, [] => some (nl, [])
  | .line, nl, [] => some (nl, [])
  | .code, nl, '/' :: '/' :: cs => skipGap .line nl cs
  | .code, nl, '/' :: '*' :: cs => skipGap .block nl cs
  | .code, nl, c :: cs =>
    if isLineBreak c then skipGap .code true cs
    else if isBlank c then skipGap .code nl cs
    else some (nl, c :: cs)
  | .line, nl, c :: cs =>
    if isLineBreak c then skipGap .code true cs else skipGap .line nl cs
  | .block, nl, '*' :: '/' :: cs => skipGap .code nl cs
  | .block, nl, c :: cs => skipGap .block (nl || isLineBreak c) cs

/-! ### Escapes -/

def hexValue (c : Char) : Option Nat :=
  if c.isDigit then some (c.toNat - '0'.toNat)
  else if 'a' ≤ c ∧ c ≤ 'f' then some (c.toNat - 'a'.toNat + 10)
  else if 'A' ≤ c ∧ c ≤ 'F' then some (c.toNat - 'A'.toNat + 10)
  else none

/-- The number that `n` hexadecimal digits stand for. -/
def hexNumber : Nat → Nat → List Char → Option (Nat × List Char)
  | 0, v, cs => some (v, cs)
  | _ + 1, _, [] => none
  | n + 1, v, c :: cs => (hexValue c).bind fun d => hexNumber n (16 * v + d) cs

/-- Hexadecimal digits up to a closing brace, for a code point. -/
def bracedNumber : Nat → List Char → Option (Nat × List Char)
  | _, [] => none
  | v, c :: cs =>
    if c == '}' then some (v, cs)
    else (hexValue c).bind fun d =>
      if 16 * v + d ≤ 0x10ffff then bracedNumber (16 * v + d) cs else none

/-- What follows `\u`. -/
def unicodeEscape : List Char → Option (Nat × List Char)
  | '{' :: '}' :: _ => none
  | '{' :: cs => bracedNumber 0 cs
  | cs => hexNumber 4 0 cs

theorem hexNumber_length {n v m : Nat} {cs rest : List Char}
    (h : hexNumber n v cs = some (m, rest)) : rest.length ≤ cs.length := by
  fun_induction hexNumber n v cs with
  | case1 => simp_all
  | case2 => simp at h
  | case3 n v c cs ih =>
    obtain ⟨d, _, h⟩ := Option.bind_eq_some_iff.1 h
    exact Nat.le_succ_of_le (ih d h)

theorem bracedNumber_length {v m : Nat} {cs rest : List Char}
    (h : bracedNumber v cs = some (m, rest)) : rest.length ≤ cs.length := by
  fun_induction bracedNumber v cs with
  | case1 => simp at h
  | case2 => simp_all
  | case3 v c cs _ ih =>
    obtain ⟨d, _, h⟩ := Option.bind_eq_some_iff.1 h
    split at h
    · exact Nat.le_succ_of_le (ih d h)
    · simp at h

/-- An escape takes no characters back. -/
theorem unicodeEscape_length {n : Nat} {cs rest : List Char}
    (h : unicodeEscape cs = some (n, rest)) : rest.length ≤ cs.length := by
  unfold unicodeEscape at h
  split at h
  · simp at h
  · exact Nat.le_succ_of_le (bracedNumber_length h)
  · exact hexNumber_length h

/-! ### Words -/

/-- The characters of an identifier, after `taken` of them. -/
def wordChars (taken : List Char) (escaped : Bool) (cs : List Char) :
    Option (List Char × Bool × List Char) :=
  let fits (c : Char) := if taken.isEmpty then isIdentifierStart c else isIdentifierPart c
  match cs with
  | '\\' :: 'u' :: ds =>
    match h : unicodeEscape ds with
    | some (n, es) =>
      let c := Char.ofNat n
      have := unicodeEscape_length h
      if c.toNat == n && fits c then wordChars (c :: taken) true es else none
    | none => none
  | c :: ds =>
    if fits c then wordChars (c :: taken) escaped ds
    else if c == '\\' || taken.isEmpty then none
    else some (taken.reverse, escaped, c :: ds)
  | [] => if taken.isEmpty then none else some (taken.reverse, escaped, [])
termination_by cs.length

def word (cs : List Char) : Option (Token × List Char) :=
  (wordChars [] false cs).map fun (w, escaped, cs) =>
    (.word (String.ofList w) escaped, cs)

/-! ### Numbers -/

def isOctal (c : Char) : Bool := '0' ≤ c && c ≤ '7'
def isBinary (c : Char) : Bool := c == '0' || c == '1'
def isHex (c : Char) : Bool := (hexValue c).isSome

/-- More digits of a number, single underscores between them. -/
def moreDigits (p : Char → Bool) : List Char → Option (List Char)
  | '_' :: c :: cs => if p c then moreDigits p cs else none
  | c :: cs => if p c then moreDigits p cs else if c == '_' then none else some (c :: cs)
  | [] => some []

def digits (p : Char → Bool) : List Char → Option (List Char)
  | c :: cs => if p c then moreDigits p cs else none
  | [] => none

/-- An exponent, if one stands here. -/
def exponent : List Char → Option (List Char)
  | c :: cs =>
    if c == 'e' || c == 'E' then
      match cs with
      | s :: ds => if s == '+' || s == '-' then digits Char.isDigit ds else digits Char.isDigit cs
      | [] => none
    else some (c :: cs)
  | [] => some []

/-- What may follow the integer part of a decimal number. -/
def fraction : List Char → Option (List Char)
  | '.' :: cs =>
    match cs with
    | c :: _ => if c.isDigit then (digits Char.isDigit cs).bind exponent else
        if c == '_' then none else exponent cs
    | [] => some []
  | cs => exponent cs

/-- A number ends where no digit and no identifier follows. -/
def numberEnd (t : Token) : List Char → Option (Token × List Char)
  | c :: cs => if c.isDigit || isIdentifierStart c then none else some (t, c :: cs)
  | [] => some (t, [])

def maybeBig : List Char → Option (Token × List Char)
  | 'n' :: cs => numberEnd .bigint cs
  | cs => numberEnd .number cs

def number : List Char → Option (Token × List Char)
  | '0' :: c :: cs =>
    if c == 'x' || c == 'X' then (digits isHex cs).bind maybeBig
    else if c == 'o' || c == 'O' then (digits isOctal cs).bind maybeBig
    else if c == 'b' || c == 'B' then (digits isBinary cs).bind maybeBig
    else if c == 'n' then numberEnd .bigint cs
    else if c == '_' then none
    else if c.isDigit then
      -- a leading zero makes an octal number, or a decimal one if an `8` or `9` is among its digits
      let ds := (c :: cs).takeWhile Char.isDigit
      let rest := (c :: cs).dropWhile Char.isDigit
      if ds.all isOctal then numberEnd .number rest else (fraction rest).bind (numberEnd .number)
    else (fraction (c :: cs)).bind (numberEnd .number)
  | cs =>
    (digits Char.isDigit cs).bind fun rest =>
      match rest with
      | 'n' :: rest => numberEnd .bigint rest
      | rest => (fraction rest).bind (numberEnd .number)

/-! ### Strings -/

/-- Join surrogate halves that stand together; `none` if one stands alone. -/
def joinSurrogates : List Nat → Option (List Char)
  | [] => some []
  | [n] => if 0xd800 ≤ n && n < 0xe000 then none else some [Char.ofNat n]
  | n :: m :: ns =>
    if 0xd800 ≤ n && n < 0xdc00 && 0xdc00 ≤ m && m < 0xe000 then
      (joinSurrogates ns).map (Char.ofNat (0x10000 + (n - 0xd800) * 0x400 + (m - 0xdc00)) :: ·)
    else if 0xd800 ≤ n && n < 0xe000 then none
    else (joinSurrogates (m :: ns)).map (Char.ofNat n :: ·)

/-- The code points an escape stands for, from after the backslash. -/
def escape : List Char → Option (List Nat × List Char)
  | [] => none
  | 'n' :: cs => some ([10], cs)
  | 't' :: cs => some ([9], cs)
  | 'r' :: cs => some ([13], cs)
  | 'b' :: cs => some ([8], cs)
  | 'f' :: cs => some ([12], cs)
  | 'v' :: cs => some ([11], cs)
  | '\r' :: '\n' :: cs => some ([], cs)
  | 'x' :: cs => (hexNumber 2 0 cs).map fun (n, cs) => ([n], cs)
  | 'u' :: cs => (unicodeEscape cs).map fun (n, cs) => ([n], cs)
  | c :: cs =>
    if isLineBreak c then some ([], cs)
    else if isOctal c then
      -- up to three octal digits, below 256
      let ds := ((c :: cs).takeWhile isOctal).take (if c ≤ '3' then 3 else 2)
      let v := ds.foldl (fun v d => 8 * v + (d.toNat - '0'.toNat)) 0
      some ([v], (c :: cs).drop ds.length)
    else some ([c.toNat], cs)

/-- An escape takes no characters back. -/
theorem escape_length {cs rest : List Char} {ns : List Nat} (h : escape cs = some (ns, rest)) :
    rest.length ≤ cs.length := by
  revert h
  fun_cases escape cs
  case case9 =>
    simp only [Option.map_eq_some_iff, Prod.mk.injEq, Prod.exists]
    rintro ⟨n, r, h, _, rfl⟩
    exact Nat.le_succ_of_le (hexNumber_length h)
  case case10 =>
    simp only [Option.map_eq_some_iff, Prod.mk.injEq, Prod.exists]
    rintro ⟨n, r, h, _, rfl⟩
    exact Nat.le_succ_of_le (unicodeEscape_length h)
  all_goals grind

/-- The code points of a string literal up to `quote`, latest first in `taken`. -/
def stringPoints (quote : Char) (taken : List Nat) (cs : List Char) :
    Option (List Nat × List Char) :=
  match cs with
  | [] => none
  | '\\' :: ds =>
    match h : escape ds with
    | some (ns, es) =>
      have := escape_length h
      stringPoints quote (ns.reverse ++ taken) es
    | none => none
  | c :: ds =>
    if c == quote then some (taken.reverse, ds)
    else if c == '\n' || c == '\r' then none
    else stringPoints quote (c.toNat :: taken) ds
termination_by cs.length

def string (quote : Char) (cs : List Char) : Option (Token × List Char) :=
  (stringPoints quote [] cs).map fun (ns, cs) =>
    (.string ((joinSurrogates ns).map String.ofList), cs)

/-- Whether an escape may stand in an untagged template. -/
def templateEscapeOk : List Char → Bool
  | '0' :: c :: _ => !c.isDigit
  | 'x' :: cs => (hexNumber 2 0 cs).isSome
  | 'u' :: cs => (unicodeEscape cs).isSome
  | c :: _ => !('1' ≤ c && c ≤ '9')
  | [] => false

/-- The characters of a template, up to its end or its next substitution. -/
def template (ok : Bool) : List Char → Option (Token × List Char)
  | [] => none
  | '`' :: cs => some (.template false ok, cs)
  | '$' :: '{' :: cs => some (.template true ok, cs)
  | '\\' :: c :: cs => template (ok && templateEscapeOk (c :: cs)) cs
  | _ :: cs => template ok cs

/-! ### Regular expressions -/

/-- The body of a regular expression up to its closing slash; `inClass` between brackets. -/
def regexBody : Bool → List Char → Option (List Char)
  | _, [] => none
  | inClass, '\\' :: c :: cs => if isLineBreak c then none else regexBody inClass cs
  | inClass, c :: cs =>
    if isLineBreak c then none
    else if c == '/' && !inClass then some cs
    else if c == '[' then regexBody true cs
    else if c == ']' then regexBody false cs
    else regexBody inClass cs

/-- The flags are distinct letters of a fixed set, and not both `u` and `v`. -/
def regexFlags (cs : List Char) : Option (List Char) :=
  let flags := cs.takeWhile isAsciiPart
  if flags.all (fun c => ['d', 'g', 'i', 'm', 's', 'u', 'v', 'y'].contains c) && flags.Nodup
      && !(flags.contains 'u' && flags.contains 'v') then
    some (cs.dropWhile isAsciiPart)
  else none

/-- A regular expression, from after its opening slash. -/
def regex (cs : List Char) : Option (List Char) := (regexBody false cs).bind regexFlags

/-! ### Tokens -/

/-- The first of `texts` that `cs` begins with. -/
def markOf (texts : List String) (cs : List Char) : Option (Token × List Char) :=
  (texts.find? fun t => t.toList.isPrefixOf cs).map fun t => (.mark t, cs.drop t.length)

/-- The token that begins with the first of these characters, no blank before it. -/
def tokenAt (cs : List Char) : Option (Token × List Char) :=
  match cs with
  | [] => some (.eof, [])
  | '"' :: cs => string '"' cs
  | '\'' :: cs => string '\'' cs
  | '`' :: cs => template true cs
  | '#' :: rest => (word rest).bind fun
    | (.word w _, rest) => some (.privateName w, rest)
    | _ => none
  | '?' :: '.' :: c :: rest =>
    if c.isDigit then some (.mark "?", '.' :: c :: rest) else some (.mark "?.", c :: rest)
  | '?' :: '.' :: [] => some (.mark "?.", [])
  | '.' :: c :: rest => if c.isDigit then number ('0' :: '.' :: c :: rest) else markOf marks cs
  | c :: _ =>
    if c.isDigit then number cs
    else match markOf marks cs with
      | some r => some r
      | none => word cs

/-- A token with where it stands: whether a line ended before it, the characters from its first
one on, and the characters after it. -/
structure Lexeme where
  token : Token
  newline : Bool
  here : List Char
  rest : List Char

/-- The next token after blanks and comments. -/
def lexeme (cs : List Char) : Lexeme :=
  match skipGap .code false cs with
  | none => ⟨.bad, false, [], []⟩
  | some (newline, here) =>
    match tokenAt here with
    | some (token, rest) => ⟨token, newline, here, rest⟩
    | none => ⟨.bad, newline, here, []⟩

/-- The first token of a script, after a line that names its interpreter. -/
def firstLexeme (cs : List Char) : Lexeme :=
  match cs with
  | '#' :: '!' :: cs => lexeme (cs.dropWhile fun c => !isLineBreak c)
  | cs => lexeme cs

/-! ### Markup -/

/-- What stands between elements of markup: text, or the mark that ends it. -/
def childLexeme (cs : List Char) : Lexeme :=
  match cs with
  | [] => ⟨.eof, false, [], []⟩
  | c :: rest =>
    if c == '<' then ⟨.mark "<", false, cs, rest⟩
    else if c == '{' then ⟨.mark "\x7b", false, cs, rest⟩
    else
      let stops (c : Char) := c == '<' || c == '{' || c == '>' || c == '}'
      match cs.dropWhile (fun c => !stops c) with
      | [] => ⟨.text, false, cs, []⟩
      | d :: ds =>
        if d == '<' || d == '{' then ⟨.text, false, cs, d :: ds⟩ else ⟨.bad, false, cs, []⟩

/-- The value of an attribute: a string has no escapes and may run over lines. -/
def attributeLexeme (cs : List Char) : Lexeme :=
  match skipGap .code false cs with
  | some (newline, c :: rest) =>
    if c == '"' || c == '\'' then
      match rest.dropWhile (· != c) with
      | _ :: after => ⟨.string none, newline, c :: rest, after⟩
      | [] => ⟨.bad, newline, c :: rest, []⟩
    else lexeme cs
  | _ => lexeme cs

/-- A name of markup, which may hold hyphens. -/
def hyphenated (cs : List Char) : List Char × List Char :=
  let part (c : Char) := isIdentifierPart c || c == '-'
  (cs.takeWhile part, cs.dropWhile part)

end ViewLayers.Script
