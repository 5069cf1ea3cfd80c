/-!
# Symbols

The operators and delimiters of the language, each with the one text that it is written as
(`Symbol.spelling`). All but `==` and `!=` are a single character (`Symbol.ofChar?`); those two are
the symbols that an `=` directly behind another symbol makes of it (`Symbol.withEquals?`).
-/

namespace ScriptFront

/-- An operator or delimiter. -/
inductive Symbol where
  | assign
  | plus
  | minus
  | bang
  | asterisk
  | slash
  | less
  | greater
  | equal
  | notEqual
  | comma
  | semicolon
  | colon
  | leftParen
  | rightParen
  | leftBrace
  | rightBrace
  | leftBracket
  | rightBracket
  deriving DecidableEq

namespace Symbol

/-- The text that the symbol is written as. -/
def spelling : Symbol → String
  | assign => "="
  | plus => "+"
  | minus => "-"
  | bang => "!"
  | asterisk => "*"
  | slash => "/"
  | less => "<"
  | greater => ">"
  | equal => "=="
  | notEqual => "!="
  | comma => ","
  | semicolon => ";"
  | colon => ":"
  | leftParen => "("
  | rightParen => ")"
  | leftBrace => "\x7b"
  | rightBrace => "\x7d"
  | leftBracket => "["
  | rightBracket => "]"

/-- The symbol that a character is on its own. -/
def ofChar? : Char → Option Symbol
  | '=' => some assign
  | '+' => some plus
  | '-' => some minus
  | '!' => some bang
  | '*' => some asterisk
  | '/' => some slash
  | '<' => some less
  | '>' => some greater
  | ',' => some comma
  | ';' => some semicolon
  | ':' => some colon
  | '(' => some leftParen
  | ')' => some rightParen
  | '{' => some leftBrace
  | '}' => some rightBrace
  | '[' => some leftBracket
  | ']' => some rightBracket
  | _ => none

/-- The symbol that an `=` directly behind this one makes of it. -/
def withEquals? : Symbol → Option Symbol
  | assign => some equal
  | bang => some notEqual
  | _ => none

theorem spelling_eq_singleton {c : Char} {s : Symbol} (h : ofChar? c = some s) :
    s.spelling = String.singleton c := by
  unfold ofChar? at h
  split at h <;> cases h <;> rfl

theorem spelling_withEquals {s t : Symbol} (h : s.withEquals? = some t) :
    t.spelling = s.spelling ++ "=" := by
  cases s <;> cases h <;> rfl

end Symbol

end ScriptFront
