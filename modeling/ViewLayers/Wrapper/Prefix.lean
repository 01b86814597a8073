import ViewLayers.Json.Reading
import ViewLayers.Text.Identifier

/-!
Hygiene prefixes: the token that starts every identifier a wrapper introduces.
-/

namespace ViewLayers

open Text

/-- Whether a text is an ASCII identifier, and so can start any number of them. -/
def isPrefixToken (s : String) : Bool := isAsciiIdentifier s.toList

structure HygienePrefix where
  token : String
  valid : isPrefixToken token = true
deriving DecidableEq

namespace HygienePrefix

/-- Why a token is no prefix. -/
def refusal (token : String) : String :=
  s!"invalid hygiene prefix `{token}`: expected [A-Za-z_$][A-Za-z0-9_$]*"

def ofToken? (token : String) : Except String HygienePrefix :=
  if h : isPrefixToken token = true then .ok ⟨token, h⟩ else .error (refusal token)

def ident (p : HygienePrefix) (suffix : String) : String := p.token ++ suffix

def ofJson (v : Json) : Json.Result HygienePrefix := do
  let token ← v.toText
  match ofToken? token with
  | .ok p => return p
  | .error m => throw (.refused m)

/-- The last `n` hexadecimal digits of a number. -/
def lastDigits : Nat → Nat → List Char
  | 0, _ => []
  | n + 1, v => lastDigits n (v / 16) ++ [Nat.digitChar (v % 16)]

theorem isAsciiPart_digitChar (v : Nat) : isAsciiPart (Nat.digitChar (v % 16)) = true := by
  have h : ∀ d < 16, isAsciiPart (Nat.digitChar d) = true := by decide
  exact h _ (Nat.mod_lt _ (by decide))

theorem all_isAsciiPart_lastDigits (n v : Nat) : (lastDigits n v).all isAsciiPart = true := by
  induction n generalizing v with
  | zero => rfl
  | succ n ih => simp [lastDigits, ih, isAsciiPart_digitChar]

/-- The prefix numbered `n`: a short token with eight hexadecimal digits. -/
def numbered (n : Nat) : HygienePrefix :=
  ⟨String.ofList ('_' :: 'w' :: lastDigits 8 n ++ ['_']), by
    have := all_isAsciiPart_lastDigits 8 n
    simp only [isPrefixToken, String.toList_ofList, isAsciiIdentifier, List.cons_append,
      List.all_cons, List.all_append, this]
    decide⟩

end HygienePrefix

end ViewLayers
