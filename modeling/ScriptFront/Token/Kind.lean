import ScriptFront.Token.Keyword
import ScriptFront.Token.Symbol

/-!
# Kinds of tokens

The kinds that a token can have. A symbol is named by its spelling, every other kind by a word in
capitals (`Kind.name`).
-/

namespace ScriptFront

/-- What a token is. -/
inductive Kind where
  /-- A character that belongs to no token. -/
  | illegal
  | endOfInput
  | identifier
  /-- A decimal number. -/
  | integer
  /-- A text between double quotes. -/
  | string
  | symbol (symbol : Symbol)
  | keyword (keyword : Keyword)
  deriving DecidableEq

namespace Kind

/-- The name of the kind. -/
def name : Kind → String
  | illegal => "ILLEGAL"
  | endOfInput => "EOF"
  | identifier => "IDENT"
  | integer => "INT"
  | string => "STRING"
  | symbol s => s.spelling
  | keyword k => k.name

/-- Whether the kind is that of a reserved word. -/
def isKeyword : Kind → Bool
  | keyword _ => true
  | _ => false

/-- The kind of a word: a keyword if it is spelled like one, else an identifier. -/
def ofWord (word : String) : Kind :=
  match Keyword.ofWord? word with
  | some k => keyword k
  | none => identifier

theorem ofWord_ne_endOfInput (word : String) : ofWord word ≠ endOfInput := by
  unfold ofWord
  split <;> simp

end Kind

end ScriptFront
