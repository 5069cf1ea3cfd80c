import ScriptFront.Proofs.Lexer.Literals

/-!
# Progress

Nothing that a lexer does takes more steps than there is text left. Each loop of a call ends within
the characters that are left at the cursor, and not behind the end of the text
(`Cursor.StopsWithin`). A call for a token takes at least one of them away, unless only blanks are
left (`Lexer.Yields.charsLeft_afterToken_lt`), so a text of `n` characters has at most `n` tokens,
and from the call number `n + 1` on all calls give the end of the input
(`Lexer.progress_ofString`).
-/

namespace ScriptFront

namespace Cursor

/-- The number of characters from the current one on. -/
def charsLeft (cur : Cursor) : Nat :=
  (cur.unread?.getD "").length

/-- From `first` on, `lead` moves and then those of the loop over `p` lead to `stop`. Together they
are no more than there are characters left, and they do not go on behind the end of the text. -/
structure StopsWithin (source : String) (p : Char → Bool) (lead : Nat) (first stop : Cursor) :
    Prop where
  moves_le : ∃ passed, Passes p passed (advance^[lead] first) stop ∧
    lead + passed.length ≤ first.charsLeft
  position_le : stop.position ≤ max first.position source.utf8ByteSize

namespace Stands

variable {cur first : Cursor} {before after : List Char} {beyond : Nat} {source : String}

theorem charsLeft_eq (h : cur.Stands before after beyond) : cur.charsLeft = after.length := by
  rw [charsLeft, h.unread?_eq, Option.getD_some, String.length_ofList]

theorem stopsWithin_skipWhile (h : first.Stands before after beyond)
    (hsplit : before ++ after = source.toList) (p : Char → Bool) :
    StopsWithin source p 0 first (first.skipWhile p) := by
  refine ⟨⟨_, h.passes p, ?_⟩, ?_⟩
  · rw [h.charsLeft_eq, Nat.zero_add]
    exact (List.takeWhile_sublist p).length_le
  · cases after with
    | nil =>
      -- At the end of the text, and however far behind it, the loop makes no move.
      rw [skipWhile_of_eq_none h.current_eq]
      exact le_max_left ..
    | cons c after =>
      obtain rfl := h.beyond_eq (List.cons_ne_nil c after)
      exact (h.cuts hsplit p).stop_le.trans (le_max_right ..)

end Stands

end Cursor

theorem Scan.length_le {cs : List Char} {rs : List Reading} (h : Scan cs rs) :
    rs.length ≤ cs.length := by
  induction h with
  | blank _ => exact Nat.zero_le _
  | @token gap read rest r rs hg hm hs ih =>
    have hread := List.length_pos_iff.2 hm.ne_nil
    simp only [List.length_append, List.length_cons]
    omega

namespace Lexer

open Cursor (Stands StopsWithin)

variable {lx : Lexer} {rs : List Reading} {source : String}

/-! ### Loops -/

theorem Reader.stopsWithin {r : Reader} {first : Cursor} {before after : List Char} {beyond : Nat}
    (h : first.Stands before after beyond) (hsplit : before ++ after = source.toList)
    (hr : asked? first = some r) :
    StopsWithin source r.keeps r.margin first (r.stop first) := by
  obtain ⟨passed, hcuts, hle⟩ := Reader.cuts h hsplit hr
  rw [← h.charsLeft_eq] at hle
  exact ⟨⟨passed, hcuts.passes, hle⟩, hcuts.stop_le.trans (le_max_right ..)⟩

/-! ### One token -/

theorem Yields.length_le (h : lx.Yields rs) : rs.length ≤ lx.cursor.charsLeft := by
  obtain ⟨before, after, beyond, hcur, hs⟩ := h
  rw [hcur.charsLeft_eq]
  exact hs.length_le

theorem Yields.eq_nil_iff (h : lx.Yields rs) :
    rs = [] ↔ ∀ c ∈ lx.unread.toList, isBlank c = true := by
  constructor
  · rintro rfl c hc
    exact h.scan_unread.isBlank_of_mem hc
  · exact h.scan_unread.eq_nil_of_isBlank

theorem Yields.nextToken_eq_endOfInput_iff (h : lx.Yields rs) :
    lx.nextToken.value = .endOfInput ↔ rs = [] := by
  cases rs with
  | nil =>
    obtain ⟨next, -, hn⟩ := h.nextToken_nil
    simp [hn]
  | cons r rs =>
    obtain ⟨next, -, hn⟩ := h.nextToken_cons
    have hr := (h.wellFormed r List.mem_cons_self).kind_ne_endOfInput
    rw [hn]
    exact iff_of_false (fun ht => hr (congrArg Token.kind ht)) (List.cons_ne_nil r rs)

theorem Yields.charsLeft_afterToken_lt (h : lx.Yields rs) (hne : rs ≠ []) :
    lx.afterToken.cursor.charsLeft < lx.cursor.charsLeft := by
  obtain ⟨before, after, beyond, hcur, hs⟩ := h
  cases hs with
  | blank _ => exact absurd rfl hne
  | @token gap read rest r rs hg hm hs =>
    obtain ⟨next, hnext, hn, -⟩ := nextToken_of_munch hcur hg hm
    have hread := List.length_pos_iff.2 hm.ne_nil
    rw [afterToken, hn, hnext.charsLeft_eq, hcur.charsLeft_eq]
    simp only [List.length_append]
    omega

/-! ### Many tokens -/

theorem Yields.iterate_afterToken (h : lx.Yields rs) (k : Nat) :
    (afterToken^[k] lx).Yields (rs.drop k) := by
  induction k generalizing lx rs with
  | zero => exact h
  | succ k ih =>
    have htail := ih h.tail
    rwa [List.drop_tail] at htail

/-- However a lexer has come to where it is: the blanks are passed over by a loop that ends within
what is left of the text, also when a call of the stream does it twice, and so is the literal of the
next token, if it is cut out of the text. The next token is the end of the input exactly if only
blanks are left; any other takes away some of what is left. So a text has at most as many tokens as
characters, and when a token was asked for that often, the end of the input is given for ever. -/
theorem progress_ofString (source : String) :
    (∀ qs, let lx := (ofString source).after qs
      let ready := lx.skipBlanks
      (StopsWithin source isBlank 0 lx.cursor ready.cursor ∧
        StopsWithin source isBlank 0 ready.cursor ready.skipBlanks.cursor ∧
        lx.next? = if ready.cursor.atEnd then ⟨none, [], ready⟩ else ready.nextToken.map some) ∧
      (∀ r, Reader.asked? ready.cursor = some r →
        (lx.nextToken = r.read ready.cursor ∧ lx.next? = (r.read ready.cursor).map some) ∧
          StopsWithin source r.keeps r.margin ready.cursor (r.stop ready.cursor)) ∧
      (lx.nextToken.value = .endOfInput ↔ ∀ c ∈ lx.unread.toList, isBlank c = true) ∧
      (lx.nextToken.value ≠ .endOfInput →
        lx.nextToken.lexer.cursor.charsLeft < lx.cursor.charsLeft) ∧
      lx.drain.length ≤ lx.cursor.charsLeft) ∧
    (ofString source).drain.length ≤ source.length ∧
    (ofString source).tokenize.value = (ofString source).drain ++ [.endOfInput] ∧
    ∀ k, source.length ≤ k → (afterToken^[k] (ofString source)).nextToken.value = .endOfInput := by
  obtain ⟨rs, hs⟩ := exists_scan source.toList
  have hy := yields_ofString hs
  have hlength : rs.length ≤ source.length := hs.length_le
  refine ⟨?_, ?_, ?_, ?_⟩
  · intro qs lx ready
    obtain ⟨before, after, beyond, hsplit, hcur⟩ := exists_stands_after source qs
    obtain ⟨before', after', beyond', hsplit', hready⟩ := exists_stands_ready source qs
    obtain ⟨rs', hy'⟩ := exists_yields_after source qs
    have hend : lx.nextToken.value = .endOfInput ↔ rs' = [] := hy'.nextToken_eq_endOfInput_iff
    refine ⟨⟨?_, ?_, next?_eq lx⟩, ?_, ?_, ?_, ?_⟩
    · exact hcur.stopsWithin_skipWhile hsplit isBlank
    · exact hready.stopsWithin_skipWhile hsplit' isBlank
    · intro r hr
      exact ⟨Reader.nextToken_eq_read hready hr, Reader.stopsWithin hready hsplit' hr⟩
    · exact hend.trans hy'.eq_nil_iff
    · intro hne
      exact hy'.charsLeft_afterToken_lt (mt hend.2 hne)
    · rw [hy'.drain, List.length_map]
      exact hy'.length_le
  · rwa [hy.drain, List.length_map]
  · rw [hy.drain, tokenize_ofString, (collect_ofString hs).1]
  · intro k hk
    have hafter := hy.iterate_afterToken k
    rw [List.drop_of_length_le (hlength.trans hk)] at hafter
    exact hafter.nextToken_eq_endOfInput_iff.2 rfl

/-- The last token of the text is a string without closing quote, which takes away all that is
left. -/
theorem progress_ofString_open_string :
    Reader.asked? ((ofString "a \"é").after [.next]).skipBlanks.cursor = some .string ∧
      StopsWithin "a \"é" (· != '"') 1 ((ofString "a \"é").after [.next]).skipBlanks.cursor
        (Reader.string.stop ((ofString "a \"é").after [.next]).skipBlanks.cursor) ∧
      ((ofString "a \"é").after [.next]).nextToken.value ≠ .endOfInput ∧
      ((ofString "a \"é").after [.next]).nextToken.lexer.cursor.charsLeft <
        ((ofString "a \"é").after [.next]).cursor.charsLeft ∧
      "a \"é".length ≤ 4 ∧
      (afterToken^[4] (ofString "a \"é")).nextToken.value = .endOfInput := by
  have hasked : Reader.asked? ((ofString "a \"é").after [.next]).skipBlanks.cursor =
      some .string := by decide +kernel
  have hne : ((ofString "a \"é").after [.next]).nextToken.value ≠ .endOfInput := by
    decide +kernel
  have hlength : "a \"é".length ≤ 4 := by decide +kernel
  obtain ⟨hcalls, -, -, hend⟩ := progress_ofString "a \"é"
  obtain ⟨-, hreader, -, hless, -⟩ := hcalls [.next]
  exact ⟨hasked, (hreader .string hasked).2, hne, hless hne, hlength, hend 4 hlength⟩

end Lexer

end ScriptFront
