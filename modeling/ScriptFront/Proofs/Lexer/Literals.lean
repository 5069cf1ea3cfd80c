import ScriptFront.Proofs.Cursor.Passage
import ScriptFront.Proofs.Lexer.Position

/-!
# Literals as slices of the text

Words, integers and strings are read by a loop, at whose end the literal is cut out of the text from
a byte offset that was noted before the loop (`Lexer.Reader`). For a string that is the offset of
its opening quote and one byte more. In no session does such an offset, or the end of the loop, fall
inside a character or behind the end of the text, and the literal is what the loop has passed over
(`Lexer.literal_after`).
-/

namespace ScriptFront.Lexer

open Cursor (Cuts Stands)
open String (utf8Len)

/-- A way to read a token whose literal is cut out of the text. -/
inductive Reader where
  | word
  | integer
  | string
  deriving DecidableEq

namespace Reader

/-- The reader of the tokens that start with the character. -/
def ofChar? (c : Char) : Option Reader :=
  if c = '"' then some string
  else if isLetter c then some word
  else if isDigit c then some integer
  else none

/-- The reader that is asked for the token at the cursor. -/
def asked? (first : Cursor) : Option Reader :=
  first.current.bind ofChar?

/-- The characters that the loop passes over. -/
def keeps : Reader → Char → Bool
  | word => isLetter
  | integer => isDigit
  | string => (· != '"')

/-- The number of moves before the loop, and behind it: over the quotes of a string. -/
def margin : Reader → Nat
  | word => 0
  | integer => 0
  | string => 1

/-- The byte offset that the literal is cut out from. -/
def start (r : Reader) (first : Cursor) : Nat :=
  first.position + r.margin

/-- The cursor at the end of the loop. -/
def stop (r : Reader) (first : Cursor) : Cursor :=
  (Cursor.advance^[r.margin] first).skipWhile r.keeps

/-- The token with the literal. -/
def token : Reader → String → Token
  | word, literal => .ofWord literal
  | integer, literal => ⟨.integer, literal⟩
  | string, literal => ⟨.string, literal⟩

/-- What is wrong with the text if the loop ends there. -/
def faults : Reader → Cursor → List Event
  | string, stop => if stop.atEnd then [.unterminatedString] else []
  | _, _ => []

/-- Reads the token at the cursor. -/
def read (r : Reader) (first : Cursor) : Outcome Token :=
  let stop := r.stop first
  give (r.faults stop) (r.token (stop.sliceFrom (r.start first))) (Cursor.advance^[r.margin] stop)

variable {r : Reader} {first : Cursor} {before after : List Char} {beyond : Nat} {source : String}

theorem class_of_ofChar? {c : Char} (h : ofChar? c = some r) :
    match r with
    | word => isLetter c = true
    | integer => isDigit c = true
    | string => c = '"' := by
  unfold ofChar? at h
  split_ifs at h with hq hl hd
  · cases h
    exact hq
  · cases h
    exact hl
  · cases h
    exact hd

theorem exists_of_asked? (h : first.Stands before after beyond) (hr : asked? first = some r) :
    ∃ c rest, after = c :: rest ∧ first.current = some c ∧ ofChar? c = some r := by
  obtain ⟨c, hc, hof⟩ := Option.bind_eq_some_iff.1 hr
  obtain ⟨rest, hrest⟩ := List.head?_eq_some_iff.1 (h.current_eq.symm.trans hc)
  exact ⟨c, rest, hrest, hc, hof⟩

/-- The lexer reads a token with the reader that is asked for it. -/
theorem readToken_eq_read (h : first.Stands before after beyond) (hr : asked? first = some r) :
    readToken first = r.read first := by
  obtain ⟨c, rest, -, hc, hof⟩ := exists_of_asked? h hr
  have hclass := class_of_ofChar? hof
  cases r with
  | word =>
    rw [readToken_letter hclass hc]
    rfl
  | integer =>
    rw [readToken_digit hclass hc]
    rfl
  | string =>
    obtain rfl : c = '"' := hclass
    have hstart : first.advance.position = first.position + 1 := by
      have hnext := h.nextPosition_eq
      rw [hc] at hnext
      exact hnext
    rw [readToken_quote hc, readString, Cursor.takeWhile, hstart]
    rfl

theorem kind_of_asked?_eq_none (hr : asked? first = none) :
    (readToken first).value.kind = .endOfInput ∨ (readToken first).value.kind = .illegal ∨
      ∃ s, (readToken first).value.kind = .symbol s := by
  cases hc : first.current with
  | none => exact .inl (kind_readToken_eq_endOfInput_iff.2 hc)
  | some c =>
    rw [asked?, hc, Option.bind_some] at hr
    unfold ofChar? at hr
    split_ifs at hr with hq hl hd
    simp only [readToken, hc, if_neg hq]
    cases Symbol.ofChar? c with
    | none =>
      simp only [if_neg hl, if_neg hd]
      exact .inr (.inl rfl)
    | some s =>
      refine .inr (.inr ?_)
      simp only [readSymbol]
      split
      · exact ⟨_, rfl⟩
      · exact ⟨_, rfl⟩

/-- A reader that is asked for the next token reads it for `nextToken` and for the stream. -/
theorem nextToken_eq_read {lx : Lexer} (h : lx.skipBlanks.cursor.Stands before after beyond)
    (hr : asked? lx.skipBlanks.cursor = some r) :
    lx.nextToken = r.read lx.skipBlanks.cursor ∧
      lx.next? = (r.read lx.skipBlanks.cursor).map some := by
  obtain ⟨c, -, -, hc, -⟩ := exists_of_asked? h hr
  have hread := readToken_eq_read h hr
  refine ⟨hread, ?_⟩
  rw [next?_of_current_eq_some hc, nextToken, hread]

/-- The moves before the loop are over characters of one byte each. -/
theorem exists_opening (h : first.Stands before after beyond) (hr : asked? first = some r) :
    ∃ opening rest, opening ++ rest = after ∧ opening.length = r.margin ∧
      utf8Len opening = r.margin ∧
      (Cursor.advance^[r.margin] first).Stands (before ++ opening) rest 0 := by
  obtain ⟨c, rest, rfl, -, hof⟩ := exists_of_asked? h hr
  have hclass := class_of_ofChar? hof
  have hbeyond := h.beyond_eq (List.cons_ne_nil c rest)
  cases r with
  | string =>
    obtain rfl : c = '"' := hclass
    exact ⟨['"'], rest, rfl, rfl, rfl, h.advance⟩
  | _ =>
    subst hbeyond
    exact ⟨[], c :: rest, rfl, rfl, rfl, by simpa [margin] using h⟩

/-- The literal is what the loop passes over, and the loop stays within what is left. -/
theorem cuts (h : first.Stands before after beyond) (hsplit : before ++ after = source.toList)
    (hr : asked? first = some r) :
    ∃ passed, Cuts source r.keeps (Cursor.advance^[r.margin] first) (r.stop first) (r.start first)
        passed ∧ r.margin + passed.length ≤ after.length := by
  obtain ⟨c, tail, hafter, -⟩ := exists_of_asked? h hr
  obtain ⟨opening, rest, rfl, hlength, hlen, hopened⟩ := exists_opening h hr
  have hstart : r.start first = (Cursor.advance^[r.margin] first).position := by
    have hbeyond := h.beyond_eq (by simp [hafter])
    rw [start, h.position_eq, hopened.position_eq, hbeyond, String.utf8Len_append, hlen]
    rfl
  refine ⟨rest.takeWhile r.keeps, ?_, ?_⟩
  · rw [hstart]
    exact hopened.cuts (by rw [List.append_assoc, hsplit]) r.keeps
  · have hle := (List.takeWhile_sublist r.keeps (l := rest)).length_le
    rw [List.length_append, hlength]
    omega

end Reader

/-- However a lexer has come to where it is: if the next token is one whose literal is cut out of
the text, then the cut is from where the literal starts to where the loop ends, neither of them is
inside a character or behind the end of the text, and what is cut out are the characters that the
loop has passed over. The other tokens are symbols, illegal characters and the end of the input. -/
theorem literal_after (source : String) (qs : List Request) :
    let lx := (ofString source).after qs
    let first := lx.skipBlanks.cursor
    (∀ r, Reader.asked? first = some r →
      (lx.nextToken = r.read first ∧ lx.next? = (r.read first).map some) ∧
        ∃ passed, Cuts source r.keeps (Cursor.advance^[r.margin] first) (r.stop first)
            (r.start first) passed ∧
          lx.nextToken.value = r.token (.ofList passed)) ∧
      (Reader.asked? first = none →
        lx.nextToken.value.kind = .endOfInput ∨ lx.nextToken.value.kind = .illegal ∨
          ∃ s, lx.nextToken.value.kind = .symbol s) := by
  intro lx first
  obtain ⟨before, after, beyond, hsplit, hfirst⟩ := exists_stands_ready source qs
  constructor
  · intro r hr
    have hread := Reader.nextToken_eq_read hfirst hr
    obtain ⟨passed, hcuts, -⟩ := Reader.cuts hfirst hsplit hr
    refine ⟨hread, passed, hcuts, ?_⟩
    rw [hread.1]
    show r.token ((r.stop first).sliceFrom (r.start first)) = _
    rw [Cursor.sliceFrom, hcuts.sliceFrom?_eq, Option.getD_some]
  · exact Reader.kind_of_asked?_eq_none

/-- A string that runs into the end of the text, with a character of two bytes in it, and the end of
the input behind it. -/
theorem literal_after_open_string :
    Reader.asked? ((ofString "a \"é").after [.next]).skipBlanks.cursor = some .string ∧
      Cuts "a \"é" (· != '"') ((ofString "a \"é").after [.next]).skipBlanks.cursor.advance
        (Reader.string.stop ((ofString "a \"é").after [.next]).skipBlanks.cursor) 3 ['é'] ∧
      Reader.asked? ((ofString "a \"é").after [.count]).skipBlanks.cursor = none ∧
      (((ofString "a \"é").after [.count]).nextToken.value.kind = .endOfInput ∨
        ((ofString "a \"é").after [.count]).nextToken.value.kind = .illegal ∨
          ∃ s, ((ofString "a \"é").after [.count]).nextToken.value.kind = .symbol s) := by
  have hasked : Reader.asked? ((ofString "a \"é").after [.next]).skipBlanks.cursor =
      some .string := by decide +kernel
  have hnone : Reader.asked? ((ofString "a \"é").after [.count]).skipBlanks.cursor = none := by
    decide +kernel
  have hstart : Reader.string.start ((ofString "a \"é").after [.next]).skipBlanks.cursor = 3 := by
    decide +kernel
  have htoken : ((ofString "a \"é").after [.next]).nextToken.value = ⟨.string, "é"⟩ := by
    decide +kernel
  obtain ⟨-, passed, hcuts, hvalue⟩ := (literal_after "a \"é" [.next]).1 .string hasked
  rw [hstart] at hcuts
  rw [htoken] at hvalue
  have hpassed : "é".toList = passed := by
    rw [(Token.mk.inj hvalue).2, String.toList_ofList]
  subst hpassed
  exact ⟨hasked, hcuts, hnone, (literal_after "a \"é" [.count]).2 hnone⟩

end ScriptFront.Lexer
