import ScriptFront.Lexer.Basic
import ScriptFront.Proofs.Cursor.View
import ScriptFront.Proofs.Token.Boundary

/-!
# The token that a text starts with

`Munch read rest r` says, without a cursor, that a text starts with one token: the characters `read`
are a lexeme which the text `rest` behind it does not lengthen, or they are a string without closing
quote, behind which nothing is left. The reading `r` is the token with what is wrong with its text.

Every text that does not start with a blank starts with a token (`exists_munch`), and it is the one
that the lexer reads (`Lexer.readToken_of_munch`): the cursor moves over `read`, and one step
further only if the closing quote is missing.
-/

namespace ScriptFront

/-- What a lexer makes of a piece of text. -/
structure Reading where
  token : Token
  /-- What is wrong with the text. -/
  faults : List Event

namespace Reading

/-- The events that are reported for the token. -/
def events (r : Reading) : List Event :=
  r.faults ++ [.scanned r.token]

/-- The reading of a lexeme. Only a stray character has something wrong with it. -/
def ofLexeme (t : Token) : Reading :=
  ⟨t, if t.kind = .illegal then t.literal.toList.map .illegalCharacter else []⟩

/-- The reading of a string without closing quote. -/
def openString (text : List Char) : Reading :=
  ⟨⟨.string, .ofList text⟩, [.unterminatedString]⟩

theorem events_endOfInput : (ofLexeme .endOfInput).events = [.scanned .endOfInput] := rfl

theorem unterminatedString_notMem_ofLexeme (t : Token) :
    Event.unterminatedString ∉ (ofLexeme t).faults := by
  unfold ofLexeme
  split_ifs <;> simp

end Reading

/-- The text `read ++ rest` starts with a token that takes up `read`. -/
inductive Munch : List Char → List Char → Reading → Prop where
  | lexeme {t : Token} {rest : List Char} (wellFormed : t.WellFormed)
      (bounded : ∀ c ∈ rest.head?, ¬ t.kind.Absorbs c) :
      Munch t.lexeme.toList rest (.ofLexeme t)
  | openString {text : List Char} (unquoted : '"' ∉ text) :
      Munch ('"' :: text) [] (.openString text)

theorem Munch.wellFormed {read rest : List Char} {r : Reading} (h : Munch read rest r) :
    r.token.WellFormed := by
  cases h with
  | lexeme ht _ => exact ht
  | openString hq => simpa [Reading.openString, Token.WellFormed] using hq

/-! ### There is always one -/

theorem exists_run (p : Char → Bool) (cs : List Char) :
    ∃ run rest, cs = run ++ rest ∧ (∀ c ∈ run, p c = true) ∧ ∀ c ∈ rest.head?, p c = false := by
  refine ⟨cs.takeWhile p, cs.dropWhile p, List.takeWhile_append_dropWhile.symm, ?_, ?_⟩
  · exact List.all_eq_true.1 List.all_takeWhile
  · intro c hc
    have := List.head?_dropWhile_not p cs
    rwa [Option.mem_def.1 hc] at this

theorem Munch.string {text : List Char} (hq : '"' ∉ text) (rest : List Char) :
    Munch ('"' :: (text ++ ['"'])) rest (.ofLexeme ⟨.string, .ofList text⟩) := by
  have hw : (Token.mk .string (.ofList text)).WellFormed := by simpa [Token.WellFormed] using hq
  have hm : Munch _ rest _ := .lexeme hw fun _ _ => id
  rwa [Token.toList_lexeme_string, String.toList_ofList] at hm

theorem Munch.word {word rest : List Char} (hne : word ≠ []) (hw : ∀ c ∈ word, isLetter c = true)
    (hr : ∀ c ∈ rest.head?, isLetter c = false) :
    Munch word rest (.ofLexeme (.ofWord (.ofList word))) := by
  have hisWord := Token.isWord_ofWord (.ofList word)
  have hwf : (Token.ofWord (.ofList word)).WellFormed :=
    Token.wellFormed_ofWord_iff.2 ⟨by simpa using hne, by simpa using hw⟩
  have hm : Munch _ rest _ := .lexeme hwf fun c hc habs => by
    rw [Token.absorbs_iff_of_isWord hisWord] at habs
    simp [hr c hc] at habs
  rwa [Token.lexeme_of_isWord hisWord, Token.ofWord, String.toList_ofList] at hm

theorem Munch.integer {digits rest : List Char} (hne : digits ≠ [])
    (hd : ∀ c ∈ digits, isDigit c = true) (hr : ∀ c ∈ rest.head?, isDigit c = false) :
    Munch digits rest (.ofLexeme ⟨.integer, .ofList digits⟩) := by
  have hwf : (Token.mk .integer (.ofList digits)).WellFormed :=
    ⟨by simpa using hne, by simpa using hd⟩
  have hm : Munch _ rest _ := .lexeme hwf fun c hc habs => by
    simp [Kind.Absorbs, hr c hc] at habs
  simpa [Token.lexeme] using hm

/-- A symbol of one character, with no `=` behind it that it takes in. -/
theorem Munch.symbol {c : Char} {s : Symbol} (hs : Symbol.ofChar? c = some s) {rest : List Char}
    (hr : ∀ d ∈ rest.head?, ¬ (Kind.symbol s).Absorbs d) :
    Munch [c] rest (.ofLexeme (.ofSymbol s)) := by
  have hm : Munch (Token.ofSymbol s).lexeme.toList rest (.ofLexeme (.ofSymbol s)) :=
    .lexeme rfl hr
  simpa [Token.lexeme, Token.ofSymbol, Symbol.spelling_eq_singleton hs] using hm

/-- A symbol of two characters takes in nothing more. -/
theorem Munch.symbolEquals {c : Char} {s wide : Symbol} (hs : Symbol.ofChar? c = some s)
    (hw : s.withEquals? = some wide) (rest : List Char) :
    Munch [c, '='] rest (.ofLexeme (.ofSymbol wide)) := by
  have hnone : wide.withEquals? = none := by cases s <;> cases hw <;> rfl
  have hm : Munch (Token.ofSymbol wide).lexeme.toList rest (.ofLexeme (.ofSymbol wide)) :=
    .lexeme rfl fun d _ habs => by simp [Token.ofSymbol, Kind.Absorbs, hnone] at habs
  simpa [Token.lexeme, Token.ofSymbol, Symbol.spelling_withEquals hw,
    Symbol.spelling_eq_singleton hs] using hm

theorem exists_munch_quote (cs : List Char) :
    ∃ read rest r, '"' :: cs = read ++ rest ∧ Munch read rest r := by
  obtain ⟨text, rest, rfl, ht, hr⟩ := exists_run (· != '"') cs
  have hq : '"' ∉ text := fun h => by simpa using ht _ h
  cases rest with
  | nil => exact ⟨_, [], _, by simp, .openString hq⟩
  | cons c rest =>
    obtain rfl : c = '"' := by simpa using hr c rfl
    exact ⟨_, rest, _, by simp, .string hq rest⟩

theorem exists_munch_symbol {c : Char} {s : Symbol} (hs : Symbol.ofChar? c = some s)
    (cs : List Char) : ∃ read rest r, c :: cs = read ++ rest ∧ Munch read rest r := by
  by_cases hb : ∃ d ∈ cs.head?, (Kind.symbol s).Absorbs d
  · obtain ⟨d, hd, hw, rfl⟩ := hb
    obtain ⟨wide, hw⟩ := Option.isSome_iff_exists.1 hw
    obtain ⟨rest, rfl⟩ := List.head?_eq_some_iff.1 hd
    exact ⟨[c, '='], rest, _, rfl, .symbolEquals hs hw rest⟩
  · exact ⟨[c], cs, _, rfl, .symbol hs fun d hd h => hb ⟨d, hd, h⟩⟩

/-- Every text that does not start with a blank starts with a token. -/
theorem exists_munch {c : Char} (cs : List Char) (hc : isBlank c = false) :
    ∃ read rest r, c :: cs = read ++ rest ∧ Munch read rest r := by
  by_cases hq : c = '"'
  · subst hq
    exact exists_munch_quote cs
  cases hs : Symbol.ofChar? c with
  | some s => exact exists_munch_symbol hs cs
  | none =>
    by_cases hl : isLetter c = true
    · obtain ⟨run, rest, rfl, hrun, hrest⟩ := exists_run isLetter cs
      have hword : ∀ d ∈ c :: run, isLetter d = true := List.forall_mem_cons.2 ⟨hl, hrun⟩
      exact ⟨c :: run, rest, _, rfl, .word (List.cons_ne_nil c run) hword hrest⟩
    by_cases hd : isDigit c = true
    · obtain ⟨run, rest, rfl, hrun, hrest⟩ := exists_run isDigit cs
      have hdigits : ∀ d ∈ c :: run, isDigit d = true := List.forall_mem_cons.2 ⟨hd, hrun⟩
      exact ⟨c :: run, rest, _, rfl, .integer (List.cons_ne_nil c run) hdigits hrest⟩
    have hw : (Token.mk .illegal (.singleton c)).WellFormed :=
      ⟨c, rfl, hc, by simpa using hl, by simpa using hd, hq, hs⟩
    refine ⟨_, cs, _, ?_, .lexeme hw fun _ _ => id⟩
    simp [Token.lexeme]

/-! ### Reading it -/

namespace Lexer

open Cursor (Stands)

variable {cur : Cursor} {before rest : List Char} {beyond : Nat}

theorem readString_closed {text : List Char} (ht : '"' ∉ text)
    (h : cur.Stands before ('"' :: (text ++ '"' :: rest)) beyond) :
    ∃ stop, readString cur = give [] ⟨.string, .ofList text⟩ stop ∧
      stop.Stands (before ++ '"' :: (text ++ ['"'])) rest 0 := by
  have hrun : ∀ c ∈ text, (c != '"') = true := fun c hc =>
    bne_iff_ne.2 fun e => ht (e ▸ hc)
  have hstop := h.advance.skipWhile_run hrun (by simp)
  have htake := h.advance.takeWhile_run hrun (by simp)
  refine ⟨_, ?_, by simpa using hstop.advance⟩
  simp [readString, htake, Cursor.atEnd, hstop.current_eq]

theorem readString_open {text : List Char} (ht : '"' ∉ text)
    (h : cur.Stands before ('"' :: text) beyond) :
    ∃ stop, readString cur = give [.unterminatedString] ⟨.string, .ofList text⟩ stop ∧
      stop.Stands (before ++ '"' :: text) [] 1 := by
  have hrun : ∀ c ∈ text, (c != '"') = true := fun c hc =>
    bne_iff_ne.2 fun e => ht (e ▸ hc)
  have hadv : cur.advance.Stands (before ++ ['"']) (text ++ []) 0 := by simpa using h.advance
  have hstop := hadv.skipWhile_run hrun (by simp)
  have htake := hadv.takeWhile_run hrun (by simp)
  refine ⟨_, ?_, by simpa using hstop.advance_end⟩
  simp [readString, htake, Cursor.atEnd, hstop.current_eq]

theorem readWord_run {word : List Char} (hw : ∀ c ∈ word, isLetter c = true)
    (hr : ∀ c ∈ rest.head?, isLetter c = false) (h : cur.Stands before (word ++ rest) 0) :
    ∃ stop, readWord cur = give [] (.ofWord (.ofList word)) stop ∧
      stop.Stands (before ++ word) rest 0 :=
  ⟨_, by simp [readWord, h.takeWhile_run hw hr], h.skipWhile_run hw hr⟩

theorem readInteger_run {digits : List Char} (hd : ∀ c ∈ digits, isDigit c = true)
    (hr : ∀ c ∈ rest.head?, isDigit c = false) (h : cur.Stands before (digits ++ rest) 0) :
    ∃ stop, readInteger cur = give [] ⟨.integer, .ofList digits⟩ stop ∧
      stop.Stands (before ++ digits) rest 0 :=
  ⟨_, by simp [readInteger, h.takeWhile_run hd hr], h.skipWhile_run hd hr⟩

theorem readSymbol_short {c : Char} {s : Symbol}
    (hr : ∀ c ∈ rest.head?, ¬ (Kind.symbol s).Absorbs c) (h : cur.Stands before (c :: rest) beyond) :
    ∃ stop, readSymbol s cur = give [] (.ofSymbol s) stop ∧ stop.Stands (before ++ [c]) rest 0 := by
  refine ⟨_, ?_, h.advance⟩
  have hwide : (if cur.peek = some '=' then s.withEquals? else none) = none := by
    split_ifs with hp
    · rw [h.peek_eq] at hp
      have hnot := hr '=' hp
      simpa [Kind.Absorbs] using hnot
    · rfl
  rw [readSymbol, hwide]

theorem readSymbol_long {c : Char} {s wide : Symbol} (hw : s.withEquals? = some wide)
    (h : cur.Stands before (c :: '=' :: rest) beyond) :
    ∃ stop, readSymbol s cur = give [] (.ofSymbol wide) stop ∧
      stop.Stands (before ++ [c, '=']) rest 0 := by
  refine ⟨_, ?_, by simpa using h.advance.advance⟩
  simp [readSymbol, h.peek_eq, hw]

/-! The first character decides which reader is asked. -/

theorem readToken_quote (hc : cur.current = some '"') : readToken cur = readString cur := by
  simp [readToken, hc]

theorem readToken_symbol {c : Char} {s : Symbol} (hs : Symbol.ofChar? c = some s)
    (hc : cur.current = some c) : readToken cur = readSymbol s cur := by
  have hq := (Symbol.class_of_ofChar? hs).2.2.2
  simp [readToken, hc, hq, hs]

theorem readToken_letter {c : Char} (hl : isLetter c = true) (hc : cur.current = some c) :
    readToken cur = readWord cur := by
  have hq : c ≠ '"' := fun e => absurd hl (e ▸ by decide)
  simp [readToken, hc, hq, Symbol.ofChar?_eq_none_of_isLetter hl, hl]

theorem readToken_digit {c : Char} (hd : isDigit c = true) (hc : cur.current = some c) :
    readToken cur = readInteger cur := by
  have hq : c ≠ '"' := fun e => absurd hd (e ▸ by decide)
  have hl : isLetter c ≠ true := fun hl => by simp [isDigit_eq_false_of_isLetter hl] at hd
  simp [readToken, hc, hq, Symbol.ofChar?_eq_none_of_isDigit hd, hl, hd]

theorem readToken_stray {c : Char} (hs : IsStray c) (hc : cur.current = some c) :
    readToken cur =
      give [.illegalCharacter c] ⟨.illegal, .singleton c⟩ cur.advance := by
  obtain ⟨-, hl, hd, hq, ho⟩ := hs
  simp [readToken, hc, hl, hd, hq, ho]

theorem readToken_end (hc : cur.current = none) :
    readToken cur = give [] .endOfInput cur.advance := by
  simp [readToken, hc]

theorem readToken_word {word : List Char} (hne : word ≠ []) (hw : ∀ c ∈ word, isLetter c = true)
    (hr : ∀ c ∈ rest.head?, isLetter c = false) (h : cur.Stands before (word ++ rest) 0) :
    ∃ stop, readToken cur = give [] (.ofWord (.ofList word)) stop ∧
      stop.Stands (before ++ word) rest 0 := by
  obtain ⟨c, w, rfl⟩ := List.exists_cons_of_ne_nil hne
  rw [readToken_letter (hw c (by simp)) h.current_eq]
  exact readWord_run hw hr h

theorem readToken_of_symbol {s : Symbol} (hr : ∀ c ∈ rest.head?, ¬ (Kind.symbol s).Absorbs c)
    (h : cur.Stands before (s.spelling.toList ++ rest) beyond) :
    ∃ stop, readToken cur = give [] (.ofSymbol s) stop ∧
      stop.Stands (before ++ s.spelling.toList) rest 0 := by
  obtain ⟨c, s', hc, rfl | hs⟩ := s.exists_ofChar?
  · rw [Symbol.spelling_eq_singleton hc, String.toList_singleton] at h ⊢
    rw [readToken_symbol hc h.current_eq]
    exact readSymbol_short hr h
  · have hsp : s.spelling.toList = [c, '='] := by
      simp [Symbol.spelling_withEquals hs, Symbol.spelling_eq_singleton hc]
    rw [hsp] at h ⊢
    rw [readToken_symbol hc h.current_eq]
    exact readSymbol_long hs h

theorem readToken_of_word {t : Token} (ht : t.WellFormed) (hw : t.isWord = true)
    (hb : ∀ c ∈ rest.head?, ¬ t.kind.Absorbs c)
    (h : cur.Stands before (t.literal.toList ++ rest) 0) :
    ∃ stop, readToken cur = give [] t stop ∧ stop.Stands (before ++ t.literal.toList) rest 0 := by
  obtain ⟨hne, hl⟩ := ht.isLetter hw
  have hr : ∀ c ∈ rest.head?, isLetter c = false := by
    intro c hc
    have := hb c hc
    simpa [Token.absorbs_iff_of_isWord hw] using this
  obtain ⟨stop, hread, hs⟩ := readToken_word (by simpa using hne) hl hr h
  rw [String.ofList_toList, ← ht.eq_ofWord hw] at hread
  exact ⟨stop, hread, hs⟩

theorem readToken_of_integer {digits : String} (ht : (Token.mk .integer digits).WellFormed)
    (hb : ∀ c ∈ rest.head?, isDigit c = false)
    (h : cur.Stands before (digits.toList ++ rest) 0) :
    ∃ stop, readToken cur = give [] ⟨.integer, digits⟩ stop ∧
      stop.Stands (before ++ digits.toList) rest 0 := by
  obtain ⟨hne, hd⟩ := ht
  have hne : digits.toList ≠ [] := by simpa using hne
  obtain ⟨c, r, hc⟩ := List.exists_cons_of_ne_nil hne
  have hcur : cur.current = some c := by rw [h.current_eq, hc]; rfl
  rw [readToken_digit (hd c (by simp [hc])) hcur]
  simpa using readInteger_run hd hb h

theorem readToken_of_lexeme {t : Token} (ht : t.WellFormed)
    (hb : ∀ c ∈ rest.head?, ¬ t.kind.Absorbs c)
    (h : cur.Stands before (t.lexeme.toList ++ rest) beyond) :
    ∃ stop, readToken cur = give (Reading.ofLexeme t).faults t stop ∧
      stop.Stands (before ++ t.lexeme.toList) rest 0 := by
  obtain rfl : beyond = 0 := by
    obtain ⟨c, r, hc, -⟩ := ht.exists_opensWith
    exact h.beyond_eq (by simp [hc])
  rcases t with ⟨k, literal⟩
  cases k with
  | illegal =>
    obtain ⟨c, hc, hs⟩ := ht
    obtain rfl : literal = String.singleton c := hc
    have h' : cur.Stands before (c :: rest) 0 := by simpa [Token.lexeme] using h
    refine ⟨_, ?_, by simpa [Token.lexeme] using h'.advance⟩
    simp [readToken_stray hs h'.current_eq, Reading.ofLexeme]
  | endOfInput => cases ht
  | identifier => exact readToken_of_word ht rfl hb h
  | integer => exact readToken_of_integer ht (by simpa [Kind.Absorbs] using hb) h
  | string =>
    rw [Token.toList_lexeme_string] at h ⊢
    have h' : cur.Stands before ('"' :: (literal.toList ++ '"' :: rest)) 0 := by simpa using h
    rw [readToken_quote h'.current_eq]
    simpa [Reading.ofLexeme] using readString_closed ht h'
  | symbol s =>
    obtain rfl : literal = s.spelling := ht
    exact readToken_of_symbol hb h
  | keyword _ => exact readToken_of_word ht rfl hb h

/-- The lexer reads the token that the text starts with. -/
theorem readToken_of_munch {read : List Char} {r : Reading} (hm : Munch read rest r)
    (h : cur.Stands before (read ++ rest) beyond) :
    ∃ stop, readToken cur = give r.faults r.token stop ∧
      stop.Stands (before ++ read) rest (r.faults.count .unterminatedString) := by
  cases hm with
  | lexeme ht hb =>
    rw [List.count_eq_zero.2 (Reading.unterminatedString_notMem_ofLexeme _)]
    exact readToken_of_lexeme ht hb h
  | openString ht =>
    rw [List.append_nil] at h
    rw [readToken_quote h.current_eq]
    exact readString_open ht h

end Lexer

end ScriptFront
