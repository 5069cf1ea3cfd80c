import ScriptFront.CharClass
import ScriptFront.Token.Basic

/-!
# Written forms of tokens

How a token stands in a text (`Token.lexeme`), and which tokens stand in texts at all
(`Token.WellFormed`): a lexer gives no other token before the end of the input. Two tokens that
clash (`Token.Clash`) must not stand next to each other without a blank, because together they read
as something else.
-/

namespace ScriptFront

/-- A character that starts no token. -/
def IsStray (c : Char) : Prop :=
  isBlank c = false ∧ isLetter c = false ∧ isDigit c = false ∧ c ≠ '"' ∧ Symbol.ofChar? c = none

namespace Token

/-- The text that the token stands for: its literal, in quotes if it is a string. -/
def lexeme (t : Token) : String :=
  if t.kind = .string then "\"" ++ t.literal ++ "\"" else t.literal

/-- Whether the literal is one that tokens of the kind have. The end of the input is no token of the
text. -/
def WellFormed (t : Token) : Prop :=
  match t.kind with
  | .illegal => ∃ c, t.literal = String.singleton c ∧ IsStray c
  | .endOfInput => False
  | .identifier =>
    t.literal ≠ "" ∧ (∀ c ∈ t.literal.toList, isLetter c = true) ∧
      ∀ k : Keyword, t.literal ≠ k.spelling
  | .integer => t.literal ≠ "" ∧ ∀ c ∈ t.literal.toList, isDigit c = true
  | .string => '"' ∉ t.literal.toList
  | .symbol s => t.literal = s.spelling
  | .keyword k => t.literal = k.spelling

/-- Whether the token is a keyword or an identifier. -/
def isWord (t : Token) : Bool :=
  t.kind == .identifier || t.kind.isKeyword

/-- Whether the lexemes of `t` and `u`, written without a blank between them, read as something else
than `t` and `u`: two words, two integers, or a symbol that takes in the `=` that `u` starts
with. -/
def Clash (t u : Token) : Prop :=
  t.isWord ∧ u.isWord ∨ t.kind = .integer ∧ u.kind = .integer ∨
    (t.kind = .symbol .assign ∨ t.kind = .symbol .bang) ∧
      (u.kind = .symbol .assign ∨ u.kind = .symbol .equal)

end Token

end ScriptFront
