import ViewLayers.Script.Lexer
import ViewLayers.Script.Syntax

/-!
Reading tokens under a context. A reading fails, or goes on with a flaw noted: a flaw spoils the
script as a failure does, but makes no other reading be tried.
-/

namespace ViewLayers.Script

structure Dialect where
  types : Bool
  markup : Bool

structure Context where
  dialect : Dialect
  /-- The length of the script. -/
  size : Nat
  /-- `in` is an operator. -/
  inOperator : Bool
  awaits : Bool
  yields : Bool
  returns : Bool
  /-- Under `declare`, where nothing has to be initialised. -/
  ambient : Bool
  /-- Conditional types may be written without parentheses. -/
  conditionals : Bool
  /-- In a decorator, which no brackets follow. -/
  decorating : Bool

/-- What a function changes of the context around it. -/
def Context.inFunction (awaits yields : Bool) (c : Context) : Context :=
  { c with inOperator := true, awaits, yields, returns := true, decorating := false,
           conditionals := true }

structure State where
  head : Lexeme
  flawed : Bool
  /-- Properties such as `a = 1` that no pattern has taken up. -/
  uncovered : Nat

abbrev Rules := (g : Goal) → Context → State → Option (g.Result × State)

structure Scope where
  rules : Rules
  context : Context

abbrev Reading := ReaderT Scope (StateT State Option)

namespace Reading

variable {α β : Type}

/-- Read a recursive part of the grammar. -/
def call (g : Goal) : Reading g.Result := fun e s => e.rules g e.context s

def context : Reading Context := return (← read).context

def within (f : Context → Context) (p : Reading α) : Reading α := fun e s =>
  p { e with context := f e.context } s

def fail : Reading α := failure

def flaw : Reading Unit := modify fun s => { s with flawed := true }

def flawIf (b : Bool) : Reading Unit := if b then flaw else pure ()

/-- The result of `p`, or `none` with nothing read. -/
def attempt (p : Reading α) : Reading (Option α) := fun e s =>
  match p e s with
  | some (a, s') => some (some a, s')
  | none => some (none, s)

/-- Whether `p` reads `true` from here; nothing is read. -/
def ahead (p : Reading Bool) : Reading Bool := fun e s =>
  match p e s with
  | some (b, _) => some (b, s)
  | none => some (false, s)

def token : Reading Token := return (← get).head.token

/-- Whether a line ended before the token. -/
def newline : Reading Bool := return (← get).head.newline

def moveTo (f : Lexeme → Lexeme) : Reading Unit := modify fun s => { s with head := f s.head }

def advance : Reading Unit := moveTo fun l => lexeme l.rest

def atMark (m : String) : Reading Bool := return (← token) == .mark m

def atWord (w : String) : Reading Bool := return (← token) == .word w false

def eatMark (m : String) : Reading Bool := do
  if ← atMark m then advance; return true else return false

def eatWord (w : String) : Reading Bool := do
  if ← atWord w then advance; return true else return false

def expectMark (m : String) : Reading Unit := do unless ← eatMark m do fail

def expectWord (w : String) : Reading Unit := do unless ← eatWord w do fail

/-- Whether the token after this one is as `p` says. -/
def next (p : Reading Bool) : Reading Bool := ahead (do advance; p)

/-- Rounds of `body` until one ends with an answer. -/
def rounds (body : β → Reading (β ⊕ α)) : Nat → β → Reading α
  | 0, _ => fail
  | n + 1, b => do
    match ← body b with
    | .inl b => rounds body n b
    | .inr a => return a

/-- Rounds that each read a token, the last perhaps none: there are no more than characters. -/
def repeating (b : β) (body : β → Reading (β ⊕ α)) : Reading α := do
  rounds body ((← context).size + 2) b

/-- Items up to the mark `close`, commas between them, and whether a comma stood last. -/
def commaList (close : String) (item : Reading α) : Reading (List α × Bool) := do
  let r ← repeating ([], false) fun (items, comma) => do
    if ← atMark close then return .inr (items.reverse, comma)
    let a ← item
    if ← eatMark "," then return .inl (a :: items, true)
    return .inr ((a :: items).reverse, false)
  expectMark close
  return r

/-- The end of a statement: a semicolon, or a place where one may be left out. -/
def semicolon : Reading Unit := do
  if ← eatMark ";" then return
  unless (← newline) || (← atMark "\x7d") || (← token) == .eof do fail

/-! ### Names -/

/-- Any word. -/
def anyWord : Reading String := do
  match ← token with
  | .word w _ => advance; return w
  | _ => fail

def atAnyWord : Reading Bool := do
  match ← token with
  | .word .. => return true
  | _ => return false

/-- Whether the token can name a variable. -/
def atIdentifier : Reading Bool := do
  match ← token with
  | .word w _ => return !reservedWords.contains w
  | _ => return false

/-- The name of a variable. -/
def identifier : Reading String := do
  unless ← atIdentifier do fail
  let w ← anyWord
  let c ← context
  flawIf (c.awaits && w == "await" || c.yields && w == "yield")
  return w

def atString : Reading Bool := do
  match ← token with
  | .string _ => return true
  | _ => return false

def expectString : Reading Unit := do
  if ← atString then advance else fail

/-- Whether a plain name of a property stands here: a word, string or number. -/
def atPlainKey : Reading Bool := do
  match ← token with
  | .word .. | .string _ | .number | .bigint | .privateName _ => return true
  | _ => return false

def atPrivateName : Reading Bool := do
  match ← token with
  | .privateName _ => return true
  | _ => return false

def withIn (p : Reading α) : Reading α := within (fun c => { c with inOperator := true }) p

/-- An assignment expression where `in` is an operator. -/
def value : Reading Expr := withIn (call (.assign true))

/-- Expressions with commas between them. -/
def expression : Reading Expr := do
  let e ← call (.assign true)
  unless ← atMark "," do return e
  repeating () fun _ => do
    unless ← eatMark "," do return .inr .sequence
    let _ ← call (.assign true)
    return .inl ()

/-- The name of a property, in brackets if computed. -/
def propertyKey : Reading Unit := do
  if ← eatMark "[" then
    let _ ← value
    expectMark "]"
  else if ← atPlainKey then advance else fail

/-- Split a token that begins with `<` after its first character, or take a `>` alone. -/
def splitAngle : Reading Unit := do
  match ← token with
  | .mark m =>
    if m.startsWith "<" && m != "<" then
      moveTo fun l => ⟨.mark "<", l.newline, l.here, l.here.drop 1⟩
  | _ => pure ()

/-- The template part that follows a substitution. -/
def templateTail : Reading Unit := do
  unless ← atMark "\x7d" do fail
  moveTo fun l =>
    match template true (l.here.drop 1) with
    | some (t, rest) => ⟨t, false, l.here, rest⟩
    | none => ⟨.bad, false, [], []⟩

/-- A template, each substitution read by `part`. -/
def templateOf (tagged : Bool) (part : Reading Unit) : Reading Unit :=
  repeating () fun _ => do
    match ← token with
    | .template opens ok =>
      flawIf (!ok && !tagged)
      advance
      if opens then
        part
        templateTail
        return .inl ()
      return .inr ()
    | _ => fail

end Reading

end ViewLayers.Script
