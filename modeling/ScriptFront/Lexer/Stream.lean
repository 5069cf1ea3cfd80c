import ScriptFront.Lexer.Basic

/-!
# Streams of tokens

A lexer is also a stream of the tokens before the end of the input (`Lexer.next?`), from which any
number of tokens can be dropped, taken or counted. The end of the input is none of them, and asking
for a token there reports nothing. Only `Lexer.tokenize` ends its list with `Token.endOfInput`.
-/

namespace ScriptFront.Lexer

/-- The next token of the stream, if there is one before the end of the input. -/
def next? (lx : Lexer) : Outcome (Option Token) :=
  let ready := lx.skipBlanks
  if ready.cursor.atEnd then ⟨none, [], ready⟩ else (readToken ready.cursor).map some

/-- Unless only blanks are left, the stream goes on from behind the blanks with `nextToken`, which
finds no further blanks to pass over. -/
theorem next?_eq (lx : Lexer) :
    lx.next? = if lx.skipBlanks.cursor.atEnd then ⟨none, [], lx.skipBlanks⟩
      else lx.skipBlanks.nextToken.map some := by
  rw [nextToken_skipBlanks]
  rfl

theorem next?_of_current_eq_some {lx : Lexer} {c : Char}
    (h : lx.skipBlanks.cursor.current = some c) : lx.next? = lx.nextToken.map some := by
  have hmore : ¬lx.skipBlanks.cursor.atEnd = true := by simp [Cursor.atEnd, h]
  rw [next?_eq, if_neg hmore, nextToken_skipBlanks]

theorem remaining_next?_lt {lx : Lexer} {t : Token} (h : lx.next?.value = some t) :
    lx.next?.lexer.remaining < lx.remaining := by
  cases hc : lx.skipBlanks.cursor.current with
  | none => simp [next?, Cursor.atEnd, hc] at h
  | some c =>
    rw [next?_of_current_eq_some hc]
    exact Nat.lt_of_lt_of_le (remaining_readToken_lt hc) lx.remaining_skipBlanks_le

/-- Drops `n` tokens of the stream, or as many as there are, and gives the next one. -/
def nth? : Nat → Lexer → Outcome (Option Token)
  | 0, lx => lx.next?
  | n + 1, lx => lx.next?.andThen fun
    | some _, rest => nth? n rest
    | none, rest => ⟨none, [], rest⟩

/-- The next `n` tokens of the stream, or as many as there are. Nothing is read beyond the last of
them, and for `n = 0` nothing at all. -/
def take : Nat → Lexer → Outcome (List Token)
  | 0, lx => ⟨[], [], lx⟩
  | n + 1, lx => lx.next?.andThen fun
    | some t, rest => (take n rest).map (t :: ·)
    | none, rest => ⟨[], [], rest⟩

/-- All tokens of the stream that are left. -/
def collect (lx : Lexer) : Outcome (List Token) :=
  let head := lx.next?
  match _h : head.value with
  | some t =>
    let rest := collect head.lexer
    ⟨t :: rest.value, head.events ++ rest.events, rest.lexer⟩
  | none => ⟨[], head.events, head.lexer⟩
termination_by lx.remaining
decreasing_by exact remaining_next?_lt _h

/-- The number of the tokens of the stream that are left. They are read. -/
def count (lx : Lexer) : Outcome Nat :=
  lx.collect.map List.length

/-- All tokens that are left and, behind them, the end of the input. -/
def tokenize (lx : Lexer) : Outcome (List Token) :=
  lx.collect.andThen fun ts rest => rest.nextToken.map fun t => ts ++ [t]

end ScriptFront.Lexer
