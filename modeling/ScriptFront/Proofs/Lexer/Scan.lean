import ScriptFront.Lexer.Stream
import ScriptFront.Proofs.Lexer.Munch

/-!
# The tokens of a text

`Scan cs rs` cuts a text into tokens and the blanks around them; `rs` are the readings of the
tokens. Every text has a scan (`exists_scan`).

A lexer yields `rs` when they are the readings of the text that it has still to read
(`Lexer.Yields`). Whatever is asked of it, it then answers from `rs`, reports the events of the
tokens that it reads, and yields what is left of `rs` afterwards; behind the end of the text this
goes on for ever with `rs = []`.
-/

namespace ScriptFront

/-- The text is a row of tokens with blanks before, between and behind them. -/
inductive Scan : List Char → List Reading → Prop where
  | blank {gap : List Char} (blank : ∀ c ∈ gap, isBlank c = true) : Scan gap []
  | token {gap read rest : List Char} {r : Reading} {rs : List Reading}
      (blank : ∀ c ∈ gap, isBlank c = true) (munch : Munch read rest r) (scan : Scan rest rs) :
      Scan (gap ++ (read ++ rest)) (r :: rs)

theorem Munch.exists_head {read rest : List Char} {r : Reading} (h : Munch read rest r) :
    ∃ c tail, read = c :: tail ∧ isBlank c = false := by
  cases h with
  | lexeme ht _ =>
    obtain ⟨c, tail, hc, ho⟩ := ht.exists_opensWith
    exact ⟨c, tail, hc, Kind.isBlank_of_opensWith ho⟩
  | openString _ => exact ⟨'"', _, rfl, by decide⟩

theorem Munch.ne_nil {read rest : List Char} {r : Reading} (h : Munch read rest r) :
    read ≠ [] := by
  obtain ⟨c, tail, rfl, -⟩ := h.exists_head
  exact List.cons_ne_nil c tail

theorem dropWhile_isBlank_append {gap cs : List Char} {c : Char}
    (hg : ∀ c ∈ gap, isBlank c = true) (hc : isBlank c = false) :
    (gap ++ c :: cs).dropWhile isBlank = c :: cs := by
  rw [List.dropWhile_append_of_pos hg, List.dropWhile_cons_of_neg (by simp [hc])]

theorem Munch.dropWhile_isBlank {gap read rest : List Char} {r : Reading}
    (h : Munch read rest r) (hg : ∀ c ∈ gap, isBlank c = true) :
    (gap ++ (read ++ rest)).dropWhile isBlank = read ++ rest := by
  obtain ⟨c, tail, rfl, hc⟩ := h.exists_head
  exact dropWhile_isBlank_append hg hc

/-- Every text has a scan. -/
theorem exists_scan (cs : List Char) : ∃ rs, Scan cs rs := by
  obtain ⟨gap, tail, rfl, hg, ht⟩ := exists_run isBlank cs
  cases tail with
  | nil => exact ⟨[], .blank (by simpa using hg)⟩
  | cons c tail =>
    obtain ⟨read, rest, r, hsplit, hm⟩ := exists_munch tail (ht c rfl)
    have hlt : rest.length < (gap ++ c :: tail).length := by
      obtain ⟨d, _, rfl, -⟩ := hm.exists_head
      rw [hsplit]
      simp only [List.length_append, List.length_cons]
      omega
    obtain ⟨rs, hs⟩ := exists_scan rest
    exact ⟨r :: rs, hsplit ▸ .token hg hm hs⟩
termination_by cs.length

theorem Scan.wellFormed {cs : List Char} {rs : List Reading} (h : Scan cs rs) :
    ∀ r ∈ rs, r.token.WellFormed := by
  induction h with
  | blank _ => simp
  | token _ hm _ ih => exact List.forall_mem_cons.2 ⟨hm.wellFormed, ih⟩

theorem Scan.eq_nil_of_isBlank {cs : List Char} {rs : List Reading} (h : Scan cs rs)
    (hcs : ∀ c ∈ cs, isBlank c = true) : rs = [] := by
  cases h with
  | blank _ => rfl
  | token _ hm _ =>
    obtain ⟨c, tail, rfl, hc⟩ := hm.exists_head
    have := hcs c (by simp)
    simp [hc] at this

theorem Scan.isBlank_of_mem {cs : List Char} (h : Scan cs []) {c : Char} (hc : c ∈ cs) :
    isBlank c = true := by
  cases h with
  | blank hg => exact hg c hc

namespace Lexer

/-- The lexer behind the next token. -/
def afterToken (lx : Lexer) : Lexer :=
  lx.nextToken.lexer

/-- The lexer has still to read a text with the readings `rs`. -/
def Yields (lx : Lexer) (rs : List Reading) : Prop :=
  ∃ before after beyond, lx.cursor.Stands before after beyond ∧ Scan after rs

variable {lx : Lexer} {r : Reading} {rs : List Reading}

theorem Yields.wellFormed (h : lx.Yields rs) : ∀ r ∈ rs, r.token.WellFormed := by
  obtain ⟨_, _, _, -, hs⟩ := h
  exact hs.wellFormed

theorem yields_ofString {source : String} (h : Scan source.toList rs) :
    (ofString source).Yields rs :=
  ⟨_, _, _, Cursor.stands_ofString source, h⟩

/-! ### One token -/

section Stands

variable {before gap read rest : List Char} {beyond : Nat}

theorem skipBlanks_of_blank (h : lx.cursor.Stands before gap beyond)
    (hg : ∀ c ∈ gap, isBlank c = true) :
    lx.skipBlanks.cursor.Stands (before ++ gap) [] beyond := by
  rw [← List.append_nil gap] at h
  exact h.skipWhile_run hg (by simp)

theorem nextToken_of_blank (h : lx.cursor.Stands before gap beyond)
    (hg : ∀ c ∈ gap, isBlank c = true) :
    ∃ next : Lexer, next.cursor.Stands (before ++ gap) [] (beyond + 1) ∧
      lx.nextToken = ⟨.endOfInput, [.scanned .endOfInput], next⟩ := by
  have hend := skipBlanks_of_blank h hg
  exact ⟨_, hend.advance_end, readToken_end hend.current_eq⟩

theorem next?_of_blank (h : lx.cursor.Stands before gap beyond)
    (hg : ∀ c ∈ gap, isBlank c = true) :
    ∃ next : Lexer, next.cursor.Stands (before ++ gap) [] beyond ∧
      lx.next? = ⟨none, [], next⟩ := by
  have hend := skipBlanks_of_blank h hg
  refine ⟨lx.skipBlanks, hend, ?_⟩
  simp [next?, Cursor.atEnd, hend.current_eq]

/-- Before the end of the input the stream reads like `nextToken`. -/
theorem nextToken_of_munch (h : lx.cursor.Stands before (gap ++ (read ++ rest)) beyond)
    (hg : ∀ c ∈ gap, isBlank c = true) (hm : Munch read rest r) :
    ∃ next : Lexer,
      next.cursor.Stands (before ++ gap ++ read) rest (r.faults.count .unterminatedString) ∧
        lx.nextToken = ⟨r.token, r.events, next⟩ ∧ lx.next? = ⟨some r.token, r.events, next⟩ := by
  obtain ⟨c, tail, hread, hc⟩ := hm.exists_head
  have hskip : lx.skipBlanks.cursor.Stands (before ++ gap) (read ++ rest) beyond :=
    h.skipWhile_run hg (by simp [hread, hc])
  have hcurrent : lx.skipBlanks.cursor.current = some c := by rw [hskip.current_eq, hread]; rfl
  obtain ⟨stop, hstop, hstands⟩ := readToken_of_munch hm hskip
  refine ⟨⟨stop⟩, hstands, hstop, ?_⟩
  rw [next?_of_current_eq_some hcurrent, nextToken, hstop]
  rfl

end Stands

theorem Yields.nextToken_nil (h : lx.Yields []) :
    ∃ next : Lexer, next.Yields [] ∧
      lx.nextToken = ⟨.endOfInput, [.scanned .endOfInput], next⟩ := by
  obtain ⟨before, after, beyond, hcur, hs⟩ := h
  obtain ⟨next, hnext, hn⟩ := nextToken_of_blank hcur fun _ => hs.isBlank_of_mem
  exact ⟨next, ⟨_, _, _, hnext, .blank (by simp)⟩, hn⟩

theorem Yields.next?_nil (h : lx.Yields []) :
    ∃ next : Lexer, next.Yields [] ∧ lx.next? = ⟨none, [], next⟩ := by
  obtain ⟨before, after, beyond, hcur, hs⟩ := h
  obtain ⟨next, hnext, hn⟩ := next?_of_blank hcur fun _ => hs.isBlank_of_mem
  exact ⟨next, ⟨_, _, _, hnext, .blank (by simp)⟩, hn⟩

theorem Yields.nextToken_cons (h : lx.Yields (r :: rs)) :
    ∃ next : Lexer, next.Yields rs ∧ lx.nextToken = ⟨r.token, r.events, next⟩ := by
  obtain ⟨before, after, beyond, hcur, hs⟩ := h
  cases hs with
  | token hg hm hs =>
    obtain ⟨next, hnext, hn, -⟩ := nextToken_of_munch hcur hg hm
    exact ⟨next, ⟨_, _, _, hnext, hs⟩, hn⟩

theorem Yields.next?_cons (h : lx.Yields (r :: rs)) :
    ∃ next : Lexer, next.Yields rs ∧ lx.next? = ⟨some r.token, r.events, next⟩ := by
  obtain ⟨before, after, beyond, hcur, hs⟩ := h
  cases hs with
  | token hg hm hs =>
    obtain ⟨next, hnext, -, hn⟩ := nextToken_of_munch hcur hg hm
    exact ⟨next, ⟨_, _, _, hnext, hs⟩, hn⟩

theorem Yields.tail (h : lx.Yields rs) : lx.afterToken.Yields rs.tail := by
  cases rs with
  | nil =>
    obtain ⟨next, hnext, hn⟩ := h.nextToken_nil
    rwa [Lexer.afterToken, hn]
  | cons r rs =>
    obtain ⟨next, hnext, hn⟩ := h.nextToken_cons
    rwa [Lexer.afterToken, hn]

/-! ### Many tokens -/

theorem Yields.take (h : lx.Yields rs) (n : Nat) :
    ∃ next : Lexer, next.Yields (rs.drop n) ∧
      lx.take n = ⟨(rs.take n).map (·.token), (rs.take n).flatMap (·.events), next⟩ := by
  induction n generalizing lx rs with
  | zero => exact ⟨lx, h, rfl⟩
  | succ n ih =>
    cases rs with
    | nil =>
      obtain ⟨next, hnext, hn⟩ := h.next?_nil
      exact ⟨next, hnext, by simp [Lexer.take, hn, Outcome.andThen]⟩
    | cons r rs =>
      obtain ⟨mid, hmid, hm⟩ := h.next?_cons
      obtain ⟨next, hnext, hn⟩ := ih hmid
      exact ⟨next, hnext, by simp [Lexer.take, hm, hn, Outcome.andThen, Outcome.map]⟩

theorem Yields.nth? (h : lx.Yields rs) (n : Nat) :
    ∃ next : Lexer, next.Yields (rs.drop (n + 1)) ∧
      lx.nth? n = ⟨rs[n]?.map (·.token), (rs.take (n + 1)).flatMap (·.events), next⟩ := by
  induction n generalizing lx rs with
  | zero =>
    cases rs with
    | nil =>
      obtain ⟨next, hnext, hn⟩ := h.next?_nil
      exact ⟨next, hnext, by simp [Lexer.nth?, hn]⟩
    | cons r rs =>
      obtain ⟨next, hnext, hn⟩ := h.next?_cons
      exact ⟨next, hnext, by simp [Lexer.nth?, hn]⟩
  | succ n ih =>
    cases rs with
    | nil =>
      obtain ⟨next, hnext, hn⟩ := h.next?_nil
      exact ⟨next, hnext, by simp [Lexer.nth?, hn, Outcome.andThen]⟩
    | cons r rs =>
      obtain ⟨mid, hmid, hm⟩ := h.next?_cons
      obtain ⟨next, hnext, hn⟩ := ih hmid
      exact ⟨next, hnext, by simp [Lexer.nth?, hm, hn, Outcome.andThen]⟩

theorem Yields.collect (h : lx.Yields rs) :
    ∃ next : Lexer, next.Yields [] ∧
      lx.collect = ⟨rs.map (·.token), rs.flatMap (·.events), next⟩ := by
  induction rs generalizing lx with
  | nil =>
    obtain ⟨next, hnext, hn⟩ := h.next?_nil
    refine ⟨next, hnext, ?_⟩
    rw [Lexer.collect]
    split <;> simp_all
  | cons r rs ih =>
    obtain ⟨mid, hmid, hm⟩ := h.next?_cons
    obtain ⟨next, hnext, hn⟩ := ih hmid
    refine ⟨next, hnext, ?_⟩
    rw [Lexer.collect]
    split <;> simp_all

theorem Yields.tokenize (h : lx.Yields rs) :
    ∃ next : Lexer, next.Yields [] ∧
      lx.tokenize = ⟨rs.map (·.token) ++ [.endOfInput],
        rs.flatMap (·.events) ++ [.scanned .endOfInput], next⟩ := by
  obtain ⟨mid, hmid, hm⟩ := h.collect
  obtain ⟨next, hnext, hn⟩ := hmid.nextToken_nil
  exact ⟨next, hnext, by simp [Lexer.tokenize, hm, hn, Outcome.andThen, Outcome.map]⟩

end Lexer

/-! ### A fresh lexer -/

/-- The tokens of a text. -/
def tokensOf (source : String) : List Token :=
  (Lexer.ofString source).collect.value

theorem collect_ofString {source : String} {rs : List Reading} (h : Scan source.toList rs) :
    tokensOf source = rs.map (·.token) ∧
      (Lexer.ofString source).collect.events = rs.flatMap (·.events) := by
  obtain ⟨next, -, hn⟩ := (Lexer.yields_ofString h).collect
  rw [tokensOf, hn]
  exact ⟨rfl, rfl⟩

theorem Scan.tokensOf_eq {cs : List Char} {rs : List Reading} (h : Scan cs rs) :
    tokensOf (.ofList cs) = rs.map (·.token) :=
  (collect_ofString (by simpa using h)).1

theorem Munch.tokensOf_eq {read rest : List Char} {r : Reading} (h : Munch read rest r) :
    tokensOf (.ofList (read ++ rest)) = r.token :: tokensOf (.ofList rest) := by
  obtain ⟨rs, hs⟩ := exists_scan rest
  have hscan : Scan (read ++ rest) (r :: rs) := .token (List.forall_mem_nil _) h hs
  rw [hscan.tokensOf_eq, hs.tokensOf_eq, List.map_cons]

theorem tokenize_ofString (source : String) :
    (Lexer.ofString source).tokenize.value = tokensOf source ++ [.endOfInput] := by
  obtain ⟨rs, hs⟩ := exists_scan source.toList
  obtain ⟨next, -, hn⟩ := (Lexer.yields_ofString hs).tokenize
  rw [hn, (collect_ofString hs).1]

end ScriptFront
