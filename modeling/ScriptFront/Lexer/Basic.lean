import ScriptFront.CharClass
import ScriptFront.Cursor.Run
import ScriptFront.Lexer.Event

/-!
# The lexer

A lexer reads a text from its cursor on, one token at a time. Blanks before a token are passed over;
what the token is, its first character decides (`Lexer.readToken`), with one character more for the
symbols that an `=` lengthens. At the end of the text every further token is
`Token.endOfInput`, and the cursor still moves on for each of them.

A token that is not the end of the input leaves less to read (`Lexer.remaining_nextToken_lt`).
-/

namespace ScriptFront

/-- A reader of tokens. -/
structure Lexer where
  /-- The place in the text that is read next. -/
  cursor : Cursor

/-- What an operation of a lexer comes to. -/
structure Outcome (α : Type) where
  /-- The answer. -/
  value : α
  /-- The events that were reported meanwhile, in order. -/
  events : List Event
  /-- The lexer after the operation. -/
  lexer : Lexer

namespace Outcome

variable {α β : Type}

/-- The outcome with another answer. -/
def map (f : α → β) (o : Outcome α) : Outcome β :=
  ⟨f o.value, o.events, o.lexer⟩

/-- Goes on from an outcome with the operation that its answer asks for. -/
def andThen (o : Outcome α) (f : α → Lexer → Outcome β) : Outcome β :=
  let r := f o.value o.lexer
  ⟨r.value, o.events ++ r.events, r.lexer⟩

@[simp] theorem value_map (f : α → β) (o : Outcome α) : (o.map f).value = f o.value := rfl

@[simp] theorem lexer_map (f : α → β) (o : Outcome α) : (o.map f).lexer = o.lexer := rfl

end Outcome

namespace Lexer

/-- A lexer on the first character of a text. -/
def ofString (source : String) : Lexer :=
  ⟨.ofString source⟩

/-! ### Reading one token

Each reader starts with the cursor on the first character of the token. -/

/-- Gives a token that ends before the cursor: reports what is wrong with its text, then the token
itself. -/
def give (faults : List Event) (t : Token) (cur : Cursor) : Outcome Token :=
  ⟨t, faults ++ [.scanned t], ⟨cur⟩⟩

/-- Reads an operator or delimiter, with the `=` behind it if the two make one symbol. -/
def readSymbol (s : Symbol) (cur : Cursor) : Outcome Token :=
  let wide? := if cur.peek = some '=' then s.withEquals? else none
  match wide? with
  | some wide => give [] (.ofSymbol wide) cur.advance.advance
  | none => give [] (.ofSymbol s) cur.advance

/-- Reads a string: everything up to the next quote, or up to the end of the text if there is none.
A backslash has no meaning. -/
def readString (cur : Cursor) : Outcome Token :=
  let (text, stop) := cur.advance.takeWhile (· != '"')
  give (if stop.atEnd then [.unterminatedString] else []) ⟨.string, text⟩ stop.advance

/-- Reads a keyword or identifier. -/
def readWord (cur : Cursor) : Outcome Token :=
  let (word, stop) := cur.takeWhile isLetter
  give [] (.ofWord word) stop

/-- Reads an integer. It may have any number of digits. -/
def readInteger (cur : Cursor) : Outcome Token :=
  let (digits, stop) := cur.takeWhile isDigit
  give [] ⟨.integer, digits⟩ stop

/-- Reads the token that starts at the cursor. -/
def readToken (cur : Cursor) : Outcome Token :=
  match cur.current with
  | none => give [] .endOfInput cur.advance
  | some c =>
    if c = '"' then readString cur
    else
      match Symbol.ofChar? c with
      | some s => readSymbol s cur
      | none =>
        if isLetter c then readWord cur
        else if isDigit c then readInteger cur
        else give [.illegalCharacter c] ⟨.illegal, .singleton c⟩ cur.advance

/-- Passes over the blanks before the next token. -/
def skipBlanks (lx : Lexer) : Lexer :=
  ⟨lx.cursor.skipWhile isBlank⟩

/-- Reads the next token. -/
def nextToken (lx : Lexer) : Outcome Token :=
  readToken lx.skipBlanks.cursor

theorem skipBlanks_skipBlanks (lx : Lexer) : lx.skipBlanks.skipBlanks = lx.skipBlanks :=
  congrArg Lexer.mk (Cursor.skipWhile_skipWhile isBlank lx.cursor)

theorem nextToken_skipBlanks (lx : Lexer) : lx.skipBlanks.nextToken = lx.nextToken := by
  rw [nextToken, skipBlanks_skipBlanks, nextToken]

/-! ### Progress -/

/-- A bound on the number of characters that are still to be read. -/
def remaining (lx : Lexer) : Nat :=
  lx.cursor.remaining

theorem remaining_skipBlanks_le (lx : Lexer) : lx.skipBlanks.remaining ≤ lx.remaining :=
  Cursor.remaining_skipWhile_le _ _

theorem remaining_readToken_lt {cur : Cursor} {c : Char} (h : cur.current = some c) :
    (readToken cur).lexer.remaining < cur.remaining := by
  have hlt := Cursor.remaining_advance_lt h
  have hle : ∀ cur : Cursor, cur.advance.remaining ≤ cur.remaining := fun cur =>
    Nat.le_trans cur.remaining_advance_le (Nat.le_add_left ..)
  simp only [readToken, h]
  split
  · exact Nat.lt_of_le_of_lt
      (Nat.le_trans (hle _) (Cursor.remaining_skipWhile_le _ _)) hlt
  · split
    · rw [readSymbol]
      split
      · exact Nat.lt_of_le_of_lt (hle _) hlt
      · exact hlt
    · split
      · exact Cursor.remaining_skipWhile_lt h ‹_›
      · split
        · exact Cursor.remaining_skipWhile_lt h ‹_›
        · exact hlt

/-- Only at the end of the text is the next token the end of the input. -/
theorem kind_readToken_eq_endOfInput_iff {cur : Cursor} :
    (readToken cur).value.kind = .endOfInput ↔ cur.current = none := by
  constructor
  · intro h
    cases hc : cur.current with
    | none => rfl
    | some c =>
      simp only [readToken, hc] at h
      split at h
      · cases h
      · split at h
        · rw [readSymbol] at h
          split at h <;> cases h
        · split at h
          · exact absurd h (Kind.ofWord_ne_endOfInput _)
          · split at h <;> cases h
  · intro h
    simp only [readToken, h]
    rfl

theorem remaining_nextToken_lt {lx : Lexer} (h : lx.nextToken.value.kind ≠ .endOfInput) :
    lx.nextToken.lexer.remaining < lx.remaining := by
  cases hc : lx.skipBlanks.cursor.current with
  | none => exact absurd (kind_readToken_eq_endOfInput_iff.2 hc) h
  | some c => exact Nat.lt_of_lt_of_le (remaining_readToken_lt hc) lx.remaining_skipBlanks_le

end Lexer

end ScriptFront
