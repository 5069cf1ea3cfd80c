import Mathlib.Data.List.Count
import Mathlib.Data.List.Iterate
import Mathlib.Data.List.TakeDrop
import ScriptFront.Proofs.Lexer.History
import ScriptFront.Proofs.Lexer.Quotes
import ScriptFront.Proofs.Text.Quoted
import ScriptFront.Proofs.Token.Display

/-!
# The log of a session

For each token that a request reads, the log has one line with the token, and before it one line
with what is wrong with its text, if anything is (`Lexer.report`); and it has no other lines
(`Lexer.log_run`). A line tells which event made it (`Event.record_injective`). The line on an
unterminated string is written at most once, because such a string leaves nothing behind it: what a
session has reported of these and what is left to report add up to the one that there is if the
quotes of the text are odd in number (`Lexer.Yields.count_events_run`).
-/

namespace ScriptFront

/-- The line that an event makes in the log: the name of the level and the message. -/
def Event.record (e : Event) : String × String :=
  (e.level.name, e.message)

/-- The lines of the log that an operation makes. -/
def Outcome.log {α : Type} (o : Outcome α) : List (String × String) :=
  o.events.map Event.record

namespace Event

theorem record_illegalCharacter (c : Char) :
    (illegalCharacter c).record =
      ("DEBUG", "illegal character '" ++ .ofList (Quoted.shown '\'' c) ++ "'") := by
  have hmessage : (illegalCharacter c).message = "illegal character " ++ Quoted.ofChar c := rfl
  have hlevel : (illegalCharacter c).level = .debug := rfl
  have happend : "illegal character " ++ Quoted.ofChar c =
      "illegal character '" ++ .ofList (Quoted.shown '\'' c) ++ "'" := by
    rw [Quoted.ofChar_eq, ← String.toList_inj]
    simp
  rw [record, hlevel, hmessage, Level.name, happend]

theorem record_unterminatedString :
    unterminatedString.record = ("DEBUG", "unterminated string literal") :=
  rfl

theorem record_scanned (t : Token) :
    (scanned t).record = ("TRACE", "scanned " ++ t.kind.name ++ "(" ++ t.literal ++ ")") := by
  have hmessage : (scanned t).message = "scanned " ++ t.display := rfl
  have hlevel : (scanned t).level = .trace := rfl
  rw [record, hlevel, hmessage, Level.name, Token.display]
  simp only [String.append_assoc]

theorem message_illegalCharacter_ne (c : Char) :
    (illegalCharacter c).message ≠ unterminatedString.message := by
  show "illegal character " ++ Quoted.ofChar c ≠ "unterminated string literal"
  -- The first characters differ.
  intro h
  have hhead := congrArg (·.toList.head?) h
  simp at hhead

theorem name_level_inj {l l' : Level} : l.name = l'.name ↔ l = l' := by
  cases l <;> cases l' <;> simp [Level.name]

/-- The line tells which event made it. -/
theorem record_injective : Function.Injective record := by
  intro e e' h
  obtain ⟨hname, hmessage⟩ := Prod.mk.inj h
  have hlevel := name_level_inj.1 hname
  cases e with
  | illegalCharacter c =>
    cases e' with
    | illegalCharacter d =>
      rw [Quoted.ofChar_inj.1 ((String.append_right_inj _).1 hmessage)]
    | unterminatedString => exact absurd hmessage (message_illegalCharacter_ne c)
    | scanned u => cases hlevel
  | unterminatedString =>
    cases e' with
    | illegalCharacter d => exact absurd hmessage.symm (message_illegalCharacter_ne d)
    | unterminatedString => rfl
    | scanned u => cases hlevel
  | scanned t =>
    cases e' with
    | illegalCharacter d => cases hlevel
    | unterminatedString => cases hlevel
    | scanned u => rw [Token.display_inj.1 ((String.append_right_inj _).1 hmessage)]

/-- The line on an unterminated string stands for that event alone. -/
theorem count_map_record (es : List Event) :
    (es.map record).count ("DEBUG", "unterminated string literal") =
      es.count .unterminatedString :=
  List.count_map_of_injective es record record_injective .unterminatedString

end Event

namespace Lexer

/-- Whether the opening quote of the next string is the only quote that is left. -/
def lacksClosingQuote (lx : Lexer) : Bool :=
  lx.unread.toList.count '"' == 1

/-- The lines of the log on what is wrong with the text of a token; `isOpen` says whether a string
has no closing quote. An illegal character stands in single quotes, as it is shown there. -/
def faultLines (t : Token) (isOpen : Bool) : List (String × String) :=
  match t.kind with
  | .illegal =>
    match t.literal.toList with
    | [c] => [("DEBUG", "illegal character '" ++ .ofList (Quoted.shown '\'' c) ++ "'")]
    | _ => []
  | .string => if isOpen then [("DEBUG", "unterminated string literal")] else []
  | _ => []

/-- The lines of the log that the next token is worth. -/
def report (lx : Lexer) : List (String × String) :=
  let t := lx.nextToken.value
  faultLines t lx.lacksClosingQuote ++
    [("TRACE", "scanned " ++ t.kind.name ++ "(" ++ t.literal ++ ")")]

/-- How many tokens a request reads when `n` are left before the end of the input. -/
def Request.reads (n : Nat) : Request → Nat
  | .nextToken => 1
  | .next => min 1 n
  | .nth k => min (k + 1) n
  | .take k => min k n
  | .collect => n
  | .count => n
  | .tokenize => n + 1

/-- The lines of the log for each request of a session, token by token. -/
def transcript (lx : Lexer) : List Request → List (List (String × String))
  | [] => []
  | q :: qs =>
    (List.iterate afterToken lx (q.reads lx.drain.length)).flatMap report ::
      transcript (lx.perform q).lexer qs

variable {lx : Lexer} {rs : List Reading}

/-! ### One token -/

theorem faultLines_of_wellFormed {t : Token} (ht : t.WellFormed) :
    faultLines t false = (Reading.ofLexeme t).faults.map Event.record := by
  obtain ⟨kind, literal⟩ := t
  cases kind with
  | illegal =>
    obtain ⟨c, rfl, -⟩ := ht
    rw [Reading.ofLexeme, if_pos rfl, faultLines, String.toList_singleton, List.map_singleton,
      List.map_singleton, Event.record_illegalCharacter]
  | endOfInput => exact ht.elim
  | _ => simp [faultLines, Reading.ofLexeme]

theorem faultLines_eq_of_ne_string {t : Token} (hk : t.kind ≠ .string) (isOpen : Bool) :
    faultLines t isOpen = faultLines t false := by
  obtain ⟨kind, literal⟩ := t
  cases kind with
  | string => exact absurd rfl hk
  | _ => rfl

/-- If the next token is a string, what is left of the text holds its closing quote or no further
quote at all. -/
theorem faultLines_of_scan {cs : List Char} {r : Reading} (h : Scan cs (r :: rs)) :
    faultLines r.token (cs.count '"' == 1) = r.faults.map Event.record := by
  cases h with
  | @token gap read rest r rs hg hm hs =>
    cases hm with
    | @lexeme t _ ht _ =>
      rw [← faultLines_of_wellFormed ht]
      by_cases hk : t.kind = .string
      · have hcount : (gap ++ (t.lexeme.toList ++ rest)).count '"' = 2 + rest.count '"' := by
          simp [count_quote_of_isBlank hg, ht.count_quote_lexeme, hk]
        have hne : ((gap ++ (t.lexeme.toList ++ rest)).count '"' == 1) = false := by
          rw [hcount, beq_eq_false_iff_ne]
          omega
        rw [hne]
        rfl
      · exact faultLines_eq_of_ne_string hk _
    | @openString text hq =>
      have hcount : (gap ++ ('"' :: text ++ [])).count '"' = 1 := by
        simp [count_quote_of_isBlank hg, List.count_eq_zero.2 hq]
      rw [hcount, Reading.openString, List.map_singleton, Event.record_unterminatedString]
      simp [faultLines]

theorem Yields.report_eq (h : lx.Yields rs) :
    lx.report = (rs.head?.getD (.ofLexeme .endOfInput)).events.map Event.record := by
  cases rs with
  | nil =>
    obtain ⟨next, -, hn⟩ := h.nextToken_nil
    rw [report, hn, List.head?_nil, Option.getD_none, Reading.events_endOfInput,
      List.map_singleton, Event.record_scanned]
    rfl
  | cons r rs =>
    obtain ⟨next, -, hn⟩ := h.nextToken_cons
    rw [report, hn, List.head?_cons, Option.getD_some, Reading.events, List.map_append,
      List.map_singleton, Event.record_scanned, ← faultLines_of_scan h.scan_unread]
    rfl

/-! ### One request -/

theorem takeD_length_succ {α : Type} (xs : List α) (a : α) :
    xs.takeD (xs.length + 1) a = xs ++ [a] := by
  induction xs with
  | nil => rfl
  | cons x xs ih => simpa using ih

/-- The readings of a request are those of the next tokens, with the end of the input behind
them. -/
theorem Request.made_eq_takeD (rs : List Reading) (q : Request) :
    q.made rs = rs.takeD (q.reads rs.length) (.ofLexeme .endOfInput) := by
  have htake : ∀ n, rs.takeD (min n rs.length) (.ofLexeme .endOfInput) = rs.take n := fun n => by
    rw [List.takeD_eq_take _ (Nat.min_le_right _ _), ← List.take_eq_take_min]
  cases q with
  | nextToken => simp [made, reads]
  | next => exact (htake 1).symm
  | nth n => exact (htake (n + 1)).symm
  | take n => exact (htake n).symm
  | collect => rw [made, reads, List.takeD_eq_take _ (Nat.le_refl _), List.take_length]
  | count => rw [made, reads, List.takeD_eq_take _ (Nat.le_refl _), List.take_length]
  | tokenize => exact (takeD_length_succ rs _).symm

theorem Yields.flatMap_report (h : lx.Yields rs) (n : Nat) :
    (List.iterate afterToken lx n).flatMap report =
      ((rs.takeD n (.ofLexeme .endOfInput)).flatMap (·.events)).map Event.record := by
  induction n generalizing lx rs with
  | zero => rfl
  | succ n ih =>
    rw [List.iterate, List.flatMap_cons, h.report_eq, ih h.tail, List.takeD_succ,
      List.flatMap_cons, List.map_append]

theorem Yields.log_perform (h : lx.Yields rs) (q : Request) :
    (lx.perform q).log =
      (List.iterate afterToken lx (q.reads lx.drain.length)).flatMap report := by
  obtain ⟨next, -, hn⟩ := h.perform q
  rw [h.flatMap_report, h.drain, List.length_map, ← Request.made_eq_takeD, Outcome.log, hn]

/-! ### A session -/

theorem Yields.map_log_run (h : lx.Yields rs) (qs : List Request) :
    (lx.run qs).map (·.log) = lx.transcript qs := by
  induction qs generalizing lx rs with
  | nil => rfl
  | cons q qs ih =>
    rw [run, List.map_cons, h.log_perform, transcript, ih (h.lexer_perform q)]

/-! ### Strings without closing quote -/

/-- A request reads the front of what is left, and `nextToken` and `tokenize` perhaps the end of the
input behind it. -/
theorem Request.exists_read (rs : List Reading) (q : Request) :
    ∃ read, read ++ q.left rs = rs ∧
      (q.made rs = read ∨ q.made rs = read ++ [.ofLexeme .endOfInput]) := by
  cases q with
  | nextToken =>
    cases rs with
    | nil => exact ⟨[], rfl, .inr rfl⟩
    | cons r rs => exact ⟨[r], rfl, .inl rfl⟩
  | next => exact ⟨rs.take 1, by simp [left, ← List.drop_one], .inl rfl⟩
  | nth n => exact ⟨rs.take (n + 1), by simp [left], .inl rfl⟩
  | take n => exact ⟨rs.take n, by simp [left], .inl rfl⟩
  | collect => exact ⟨rs, by simp [left], .inl rfl⟩
  | count => exact ⟨rs, by simp [left], .inl rfl⟩
  | tokenize => exact ⟨rs, by simp [left], .inr rfl⟩

/-- How many of the readings are of a string without closing quote, by their events. -/
def openStrings (rs : List Reading) : Nat :=
  (rs.flatMap (·.events)).count .unterminatedString

theorem openStrings_append (rs rs' : List Reading) :
    openStrings (rs ++ rs') = openStrings rs + openStrings rs' := by
  rw [openStrings, List.flatMap_append, List.count_append, openStrings, openStrings]

theorem openStrings_of_scan {cs : List Char} (h : Scan cs rs) :
    openStrings rs = cs.count '"' % 2 := by
  rcases h.count_quote with ⟨heven, hclosed⟩ | ⟨hodd, init, text, rfl, hclosed⟩
  · have hnone := List.count_eq_zero.2 (unterminatedString_notMem_events hclosed)
    rw [openStrings, hnone]
    omega
  · have hinit : openStrings init = 0 :=
      List.count_eq_zero.2 (unterminatedString_notMem_events hclosed)
    have hlast : openStrings [.openString text] = 1 := rfl
    rw [openStrings_append, hinit, hlast]
    omega

theorem openStrings_made (rs : List Reading) (q : Request) :
    openStrings (q.made rs) + openStrings (q.left rs) = openStrings rs := by
  obtain ⟨read, hsplit, hmade⟩ := Request.exists_read rs q
  have hrs := openStrings_append read (q.left rs)
  have hend : openStrings [.ofLexeme .endOfInput] = 0 := rfl
  rw [hsplit] at hrs
  rcases hmade with hmade | hmade
  · rw [hmade, hrs]
  · rw [hmade, openStrings_append, hend, hrs, Nat.add_zero]

/-- What requests have reported of unterminated strings and what is left to report add up. -/
theorem Yields.count_events_run (h : lx.Yields rs) (qs : List Request) :
    ((lx.run qs).flatMap (·.events)).count .unterminatedString +
      openStrings (Request.leftBy rs qs) = openStrings rs := by
  induction qs generalizing lx rs with
  | nil => simp [run, Request.leftBy]
  | cons q qs ih =>
    have hevents : (lx.perform q).events.count .unterminatedString = openStrings (q.made rs) := by
      obtain ⟨next, -, hn⟩ := h.perform q
      rw [hn, openStrings]
    have hleft : Request.leftBy rs (q :: qs) = Request.leftBy (q.left rs) qs := rfl
    rw [run, List.flatMap_cons, List.count_append, hevents, hleft, Nat.add_assoc,
      ih (h.lexer_perform q), openStrings_made]

/-- Each request makes the lines of the tokens that it reads, in their order, and no others. That a
string is unterminated is logged at most once, and in a session that leaves no tokens if and only
if the quotes of the text are odd in number. -/
theorem log_run (source : String) (qs : List Request) :
    ((ofString source).run qs).map (·.log) = (ofString source).transcript qs ∧
      (((ofString source).run qs).flatMap (·.log)).count
        ("DEBUG", "unterminated string literal") ≤ 1 ∧
      (((ofString source).after qs).drain = [] →
        (("DEBUG", "unterminated string literal") ∈ ((ofString source).run qs).flatMap (·.log) ↔
          source.toList.count '"' % 2 = 1)) := by
  obtain ⟨rs, hs⟩ := exists_scan source.toList
  have h := yields_ofString hs
  have hcount := h.count_events_run qs
  have hopen := openStrings_of_scan hs
  have hlog : ((ofString source).run qs).flatMap (·.log) =
      (((ofString source).run qs).flatMap (·.events)).map Event.record := by
    rw [List.map_flatMap]
    rfl
  refine ⟨h.map_log_run qs, ?_, fun hdrain => ?_⟩
  · rw [hlog, Event.count_map_record]
    omega
  · rw [(h.after qs).drain, List.map_eq_nil_iff] at hdrain
    have hleft : openStrings (Request.leftBy rs qs) = 0 := by rw [hdrain]; rfl
    rw [← List.count_pos_iff, hlog, Event.count_map_record]
    omega

/-- A null character and a filler of Hangul are no tokens, and the unterminated string is logged
when the tokens are counted. -/
theorem log_run_count :
    ((ofString "\x00\u3164\"é ").after [.nth 1, .take 0, .count]).drain = [] ∧
      ((ofString "\x00\u3164\"é ").run [.nth 1, .take 0, .count]).map (·.log) =
        [[("DEBUG", "illegal character '\\0'"), ("TRACE", "scanned ILLEGAL(\x00)"),
            ("DEBUG", "illegal character '\\u\x7b3164\x7d'"), ("TRACE", "scanned ILLEGAL(\u3164)")],
          [],
          [("DEBUG", "unterminated string literal"), ("TRACE", "scanned STRING(é )")]] ∧
      ("DEBUG", "unterminated string literal") ∈
        ((ofString "\x00\u3164\"é ").run [.nth 1, .take 0, .count]).flatMap (·.log) := by
  have hdrain : ((ofString "\x00\u3164\"é ").after [.nth 1, .take 0, .count]).drain = [] := by
    decide +kernel
  have hrun := log_run "\x00\u3164\"é " [.nth 1, .take 0, .count]
  refine ⟨hdrain, hrun.1.trans ?_, (hrun.2.2 hdrain).2 ?_⟩
  · decide +kernel
  · decide +kernel

end Lexer

end ScriptFront
