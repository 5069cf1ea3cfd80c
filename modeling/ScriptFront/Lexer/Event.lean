import ScriptFront.Text.Quoted
import ScriptFront.Token.Basic

/-!
# Lexer events

What the lexer reports while it works: every token that it gives, and before the token what is wrong
with its text, if anything is. The tokens are reported at the level `trace`, the faults at the level
`debug`.
-/

namespace ScriptFront

/-- How much detail an event belongs to. -/
inductive Level where
  | debug
  | trace
  deriving DecidableEq

/-- The name of the level. -/
def Level.name : Level → String
  | debug => "DEBUG"
  | trace => "TRACE"

/-- Something that the lexer reports. -/
inductive Event where
  /-- A character that starts no token. -/
  | illegalCharacter (c : Char)
  /-- A string whose closing quote is missing. -/
  | unterminatedString
  /-- A token is given. -/
  | scanned (token : Token)
  deriving DecidableEq

namespace Event

/-- The level that the event is reported at. -/
def level : Event → Level
  | illegalCharacter _ => .debug
  | unterminatedString => .debug
  | scanned _ => .trace

/-- The text of the report. -/
def message : Event → String
  | illegalCharacter c => "illegal character " ++ Quoted.ofChar c
  | unterminatedString => "unterminated string literal"
  | scanned t => "scanned " ++ t.display

end Event

end ScriptFront
