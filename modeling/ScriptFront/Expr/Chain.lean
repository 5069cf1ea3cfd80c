import ScriptFront.Expr.Basic
import ScriptFront.Lexer.Stream

/-!
# Operator chains

Any number of `-` and `!` in front of an identifier, an integer or a string is read from a lexer as
one expression (`Expr.readChain`). The token that decides the outcome is the last one read, whether
the chain is complete or fails there.
-/

namespace ScriptFront.Expr

/-- The expression that a single token is; a token of another kind than identifier, integer and
string is none. -/
def leaf? (t : Token) : Option (Except ExprError Expr) :=
  match t.kind with
  | .identifier => some (.ok (ofName t))
  | .string => some (.ok (ofText t))
  | .integer => some (ofDigits t)
  | _ => none

/-- Reads operators up to a leaf, and gives each of them what follows it as its operand. -/
def readChain (lx : Lexer) : Outcome (Except ExprError Expr) :=
  let head := lx.nextToken
  match leaf? head.value with
  | some leaf => head.map fun _ => leaf
  | none =>
    match _h : PrefixOp.ofToken head.value with
    | .error err => head.map fun _ => .error err
    | .ok op =>
      let rest := readChain head.lexer
      ⟨rest.value.map (applied op), head.events ++ rest.events, rest.lexer⟩
termination_by lx.remaining
decreasing_by exact Lexer.remaining_nextToken_lt (PrefixOp.kind_ne_endOfInput _h)

end ScriptFront.Expr
