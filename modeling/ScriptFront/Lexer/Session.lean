import ScriptFront.Lexer.Stream

/-!
# Sessions with a lexer

A session asks one lexer for tokens in any of the ways it knows, one request after the other
(`Lexer.run`). Each request starts where the one before it stopped reading.
-/

namespace ScriptFront.Lexer

/-- A way to ask a lexer for tokens. -/
inductive Request where
  /-- One token, the end of the input included. -/
  | nextToken
  /-- One token of the stream. -/
  | next
  /-- The token of the stream behind the next `n` ones. -/
  | nth (n : Nat)
  /-- At most `n` tokens of the stream. -/
  | take (n : Nat)
  /-- The rest of the stream. -/
  | collect
  /-- The length of the rest of the stream. -/
  | count
  /-- The rest of the stream and the end of the input. -/
  | tokenize
  deriving DecidableEq

/-- The answer to a request. -/
inductive Reply where
  | token (t : Token)
  | item (t : Option Token)
  | items (ts : List Token)
  | count (n : Nat)
  deriving DecidableEq

/-- Answers one request. -/
def perform (lx : Lexer) : Request → Outcome Reply
  | .nextToken => lx.nextToken.map .token
  | .next => lx.next?.map .item
  | .nth n => (lx.nth? n).map .item
  | .take n => (lx.take n).map .items
  | .collect => lx.collect.map .items
  | .count => lx.count.map .count
  | .tokenize => lx.tokenize.map .items

/-- Answers requests in their order. -/
def run (lx : Lexer) : List Request → List (Outcome Reply)
  | [] => []
  | r :: rs =>
    let first := lx.perform r
    first :: first.lexer.run rs

end ScriptFront.Lexer
