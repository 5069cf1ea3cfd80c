/-!
# Cursors

A cursor stands on one character of a text, or behind its last one. It keeps the byte offsets of
that character and of the next one in the UTF-8 form of the text, so that a piece of the text can be
cut out without a count of characters. The only way to move is one character forward
(`Cursor.advance`). Behind the end no character is found, and each move adds one to both offsets.

Moving off a character makes `Cursor.remaining` smaller (`Cursor.remaining_advance_lt`), and so
every loop that moves as long as there is a character ends.
-/

namespace ScriptFront

/-- A place in a text. -/
structure Cursor where
  /-- The whole text. -/
  source : String
  /-- Byte offset of the current character. -/
  position : Nat
  /-- Byte offset of the next character. -/
  nextPosition : Nat
  /-- The current character; behind the end there is none. -/
  current : Option Char

namespace Cursor

/-- The character that starts at a byte offset of the text. A byte below 128 is one by itself. -/
def charAt? (source : String) (offset : Nat) : Option Char :=
  if h : offset < source.utf8ByteSize then
    let byte := source.getUTF8Byte ⟨offset⟩ h
    if byte < 128 then some (Char.ofUInt8 byte) else String.Pos.Raw.get? source ⟨offset⟩
  else none

/-- The piece of a text between two byte offsets. There is none if one of them is inside a character
or behind the end of the text, or if they are the wrong way round. -/
def piece? (source : String) (first last : Nat) : Option String :=
  if first ≤ last ∧ String.Pos.Raw.isValid source ⟨first⟩ ∧ String.Pos.Raw.isValid source ⟨last⟩ then
    some (String.Pos.Raw.extract source ⟨first⟩ ⟨last⟩)
  else none

/-- How far a move over a character goes, in bytes. Where there is no character it is one. -/
def width : Option Char → Nat
  | some c => c.utf8Size
  | none => 1

/-- Moves to the next character. -/
def advance (cur : Cursor) : Cursor :=
  let next := charAt? cur.source cur.nextPosition
  { cur with
    position := cur.nextPosition
    nextPosition := cur.nextPosition + width next
    current := next }

/-- The cursor on the first character of a text. -/
def ofString (source : String) : Cursor :=
  advance ⟨source, 0, 0, none⟩

/-- The character behind the current one. -/
def peek (cur : Cursor) : Option Char :=
  charAt? cur.source cur.nextPosition

/-- Whether the cursor is behind the last character. -/
def atEnd (cur : Cursor) : Bool :=
  cur.current.isNone

/-- The text from a byte offset up to the current character. An offset behind the end of the text
counts as its end, and an offset behind the current character gives the empty text; only an offset
inside a character gives none. -/
def sliceFrom? (cur : Cursor) (start : Nat) : Option String :=
  let stop := min cur.position cur.source.utf8ByteSize
  piece? cur.source (min start stop) stop

/-- The slice from a byte offset that is not inside a character. -/
def sliceFrom (cur : Cursor) (start : Nat) : String :=
  (cur.sliceFrom? start).getD ""

/-! ### What is left -/

/-- A bound on the number of characters from the current one on: one for the current character and
one for each byte behind it. -/
def remaining (cur : Cursor) : Nat :=
  cur.current.toList.length + (cur.source.utf8ByteSize - cur.nextPosition)

theorem lt_of_charAt?_eq_some {source : String} {offset : Nat} {c : Char}
    (h : charAt? source offset = some c) : offset < source.utf8ByteSize := by
  unfold charAt? at h
  split at h
  · assumption
  · cases h

theorem width_pos (c : Option Char) : 0 < width c := by
  cases c with
  | none => exact Nat.zero_lt_one
  | some c => exact c.utf8Size_pos

/-- A move takes off what is behind the current character all that it adds for the next one. -/
theorem remaining_advance_le (cur : Cursor) :
    cur.advance.remaining ≤ cur.source.utf8ByteSize - cur.nextPosition := by
  have hw := width_pos (charAt? cur.source cur.nextPosition)
  simp only [remaining, advance]
  cases hn : charAt? cur.source cur.nextPosition with
  | none =>
    simp only [Option.toList_none, List.length_nil]
    omega
  | some d =>
    have := lt_of_charAt?_eq_some hn
    rw [hn] at hw
    simp only [Option.toList_some, List.length_singleton]
    omega

theorem remaining_advance_lt {cur : Cursor} {c : Char} (h : cur.current = some c) :
    cur.advance.remaining < cur.remaining := by
  have := cur.remaining_advance_le
  simp only [remaining, h, Option.toList_some, List.length_singleton] at this ⊢
  omega

end Cursor

end ScriptFront
