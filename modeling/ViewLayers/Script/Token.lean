/-!
The tokens of a script. Punctuation carries its text; a `>` is always read alone, and the grammar
joins it to what follows where an operator may stand.
-/

namespace ViewLayers.Script

inductive Token where
  /-- A keyword or identifier, with its escapes decoded. -/
  | word (name : String) (escaped : Bool)
  | privateName (name : String)
  | number
  | bigint
  /-- The value, or `none` if it holds half of a surrogate pair. -/
  | string (value : Option String)
  /-- Up to the closing backtick, or up to a substitution if `opens`. -/
  | template (opens wellFormed : Bool)
  | mark (text : String)
  /-- Characters between two elements of markup. -/
  | text
  | eof
  | bad
deriving DecidableEq

/-- The punctuation, so ordered that the first that fits is the longest. -/
def marks : List String :=
  ["...", "**=", "<<=", "===", "!==", "&&=", "||=", "??=",
   "<<", "<=", "++", "+=", "--", "-=", "**", "*=", "/=", "%=", "&&", "&=", "||", "|=", "^=",
   "!=", "==", "=>", "??",
   "\x7b", "\x7d", "(", ")", "[", "]", ".", ";", ",", "<", ">", "+", "-", "*", "/", "%", "&", "|",
   "^", "!", "=", "~", "?", ":", "@"]

/-- The operators that begin with `>`, longest first. -/
def greaterMarks : List String := [">>>=", ">>>", ">>=", ">>", ">=", ">"]

/-- Words that never name anything. -/
def reservedWords : List String :=
  ["break", "case", "catch", "class", "const", "continue", "debugger", "default", "delete", "do",
   "else", "enum", "export", "extends", "false", "finally", "for", "function", "if", "import",
   "in", "instanceof", "new", "null", "return", "super", "switch", "this", "throw", "true", "try",
   "typeof", "var", "void", "while", "with"]

/-- Words that a module may not export under their own name besides the reserved ones. -/
def strictWords : List String :=
  ["await", "implements", "interface", "let", "package", "private", "protected", "public",
   "static", "yield"]

end ViewLayers.Script
