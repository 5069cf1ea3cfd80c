import ScriptFront.Token.Kind

/-!
# Tokens

A token is a kind and a literal text. Of a string the literal is what stands between the quotes; the
end of the input has the empty literal; every other literal is the source text of the token.
-/

namespace ScriptFront

/-- A unit of source text with its kind. -/
structure Token where
  /-- What the token is. -/
  kind : Kind
  /-- The text of the token. -/
  literal : String
  deriving DecidableEq

namespace Token

/-- The token at the end of the input. -/
def endOfInput : Token :=
  ⟨.endOfInput, ""⟩

/-- The token of an operator or delimiter. -/
def ofSymbol (s : Symbol) : Token :=
  ⟨.symbol s, s.spelling⟩

/-- The token of a word: a keyword or an identifier. -/
def ofWord (word : String) : Token :=
  ⟨.ofWord word, word⟩

/-- Whether the token is of the kind at the end of the input, whatever its literal. -/
def isEndOfInput (t : Token) : Bool :=
  t.kind == .endOfInput

/-- The name of the kind and, in parentheses, the literal as it is. -/
def display (t : Token) : String :=
  t.kind.name ++ "(" ++ t.literal ++ ")"

end Token

end ScriptFront
