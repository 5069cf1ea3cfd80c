import Mathlib.Data.List.TakeWhile
import ScriptFront.Proofs.Lexer.Append
import ScriptFront.Proofs.Lexer.Backlog

/-!
# What a lexer has read before

Of a text that has been read in part, in whatever way, only what is left counts
(`Lexer.unread`), and of that not the blanks in front: lexers on texts of which the same is left
answer all further requests alike and report the same events (`Lexer.observe_after`). The rest is
the text from the position of the cursor on, and requests never bring the cursor into a character
(`Lexer.Yields.unread?_eq`).
-/

namespace ScriptFront

namespace Cursor

open String (utf8Len)

/-- The text from the current character on; behind the end it is empty. There is none if the
position is inside a character. -/
def unread? (cur : Cursor) : Option String :=
  let last := cur.source.utf8ByteSize
  piece? cur.source (min cur.position last) last

theorem Stands.unread?_eq {cur : Cursor} {before after : List Char} {beyond : Nat}
    (h : cur.Stands before after beyond) : cur.unread? = some (.ofList after) := by
  have hlast : cur.source.utf8ByteSize = utf8Len before + utf8Len after := by
    rw [h.source_eq, String.utf8ByteSize_ofList, String.utf8Len_append]
  have hfirst : min cur.position cur.source.utf8ByteSize = utf8Len before := by
    rw [h.position_eq, hlast]
    cases after with
    | nil => simp
    | cons c r => simp [h.beyond_eq]
  have hpiece := piece?_utf8Len before after []
  rw [List.append_nil] at hpiece
  rw [unread?, hfirst, hlast, h.source_eq, hpiece]

end Cursor

/-- Blanks in front of a text do not change its scan. -/
theorem Scan.of_dropWhile_eq {cs cs' : List Char} {rs : List Reading} (h : Scan cs rs)
    (heq : cs'.dropWhile isBlank = cs.dropWhile isBlank) : Scan cs' rs := by
  have hdrop : Scan (cs.dropWhile isBlank) rs := by
    cases h with
    | blank hg =>
      rw [List.dropWhile_eq_nil_iff.2 hg]
      exact .blank (List.forall_mem_nil _)
    | token hg hm hs =>
      rw [hm.dropWhile_isBlank hg]
      exact .token (List.forall_mem_nil _) hm hs
  rw [← List.takeWhile_append_dropWhile (p := isBlank) (l := cs'), heq]
  exact hdrop.blank_append (List.all_eq_true.1 List.all_takeWhile)

namespace Lexer

/-- The text that is still to be read. -/
def unread (lx : Lexer) : String :=
  lx.cursor.unread?.getD ""

/-- The lexer behind requests. -/
def after (lx : Lexer) (qs : List Request) : Lexer :=
  qs.foldl (fun lx q => (lx.perform q).lexer) lx

/-- All that is seen of a session: each answer, with the events that were reported meanwhile. -/
def observe (lx : Lexer) (qs : List Request) : List (Reply × List Event) :=
  (lx.run qs).map fun o => (o.value, o.events)

variable {lx lx' : Lexer} {rs : List Reading}

/-! ### What is left to read -/

theorem unread_of_stands {before after : List Char} {beyond : Nat}
    (h : lx.cursor.Stands before after beyond) : lx.unread = .ofList after := by
  rw [unread, h.unread?_eq, Option.getD_some]

theorem Yields.unread?_eq (h : lx.Yields rs) : lx.cursor.unread? = some lx.unread := by
  obtain ⟨before, after, beyond, hcur, -⟩ := h
  rw [unread, hcur.unread?_eq, Option.getD_some]

theorem Yields.scan_unread (h : lx.Yields rs) : Scan lx.unread.toList rs := by
  obtain ⟨before, after, beyond, hcur, hs⟩ := h
  rwa [unread_of_stands hcur, String.toList_ofList]

/-- What a lexer yields, another one yields that has the same left to read. -/
theorem Yields.of_unread_eq (h : lx.Yields rs) {rs' : List Reading} (h' : lx'.Yields rs')
    (heq : lx'.unread.toList.dropWhile isBlank = lx.unread.toList.dropWhile isBlank) :
    lx'.Yields rs := by
  obtain ⟨before, after, beyond, hcur, -⟩ := h'
  rw [unread_of_stands hcur, String.toList_ofList] at heq
  exact ⟨before, after, beyond, hcur, h.scan_unread.of_dropWhile_eq heq⟩

/-! ### Sessions -/

theorem Yields.after (h : lx.Yields rs) (qs : List Request) :
    (lx.after qs).Yields (Request.leftBy rs qs) := by
  induction qs generalizing lx rs with
  | nil => exact h
  | cons q qs ih => exact ih (h.lexer_perform q)

/-- Lexers that yield the same cannot be told apart. -/
theorem Yields.observe_eq (h : lx.Yields rs) (h' : lx'.Yields rs) (qs : List Request) :
    lx.observe qs = lx'.observe qs := by
  induction qs generalizing lx lx' rs with
  | nil => rfl
  | cons q qs ih =>
    obtain ⟨next, hnext, hn⟩ := h.perform q
    obtain ⟨next', hnext', hn'⟩ := h'.perform q
    have hqs := ih hnext hnext'
    simp only [observe] at hqs
    simp only [observe, run, List.map_cons, hn, hn', hqs]

theorem exists_yields_after (source : String) (qs : List Request) :
    ∃ rs, ((ofString source).after qs).Yields rs := by
  obtain ⟨rs, hs⟩ := exists_scan source.toList
  exact ⟨_, (yields_ofString hs).after qs⟩

/-- However a lexer has come to where it is, it goes on like a fresh lexer on the text that is left,
and like any other lexer that has the same text left, blanks in front apart. -/
theorem observe_after (source : String) (past : List Request) :
    ((ofString source).after past).cursor.unread? = some ((ofString source).after past).unread ∧
      (∀ qs, ((ofString source).after past).observe qs =
        (ofString ((ofString source).after past).unread).observe qs) ∧
      ∀ source' past',
        ((ofString source').after past').unread.toList.dropWhile isBlank =
          ((ofString source).after past).unread.toList.dropWhile isBlank →
        ∀ qs, ((ofString source').after past').observe qs =
          ((ofString source).after past).observe qs := by
  obtain ⟨rs, h⟩ := exists_yields_after source past
  refine ⟨h.unread?_eq, fun qs => ?_, fun source' past' heq qs => ?_⟩
  · exact h.observe_eq (yields_ofString h.scan_unread) qs
  · obtain ⟨rs', h'⟩ := exists_yields_after source' past'
    exact (h.of_unread_eq h' heq).observe_eq h qs

/-- A lexer that has run off the end of a string, and one that has blanks left. -/
theorem observe_after_behind_end :
    ((ofString "\"é").after [.next, .nextToken, .nextToken]).unread = "" ∧
      ((ofString "x \n").after [.take 1]).unread = " \n" ∧
      ((ofString "\"é").after [.next, .nextToken, .nextToken]).observe [.next, .tokenize] =
        ((ofString "x \n").after [.take 1]).observe [.next, .tokenize] := by
  have hend : ((ofString "\"é").after [.next, .nextToken, .nextToken]).unread = "" := by
    decide +kernel
  have hblank : ((ofString "x \n").after [.take 1]).unread = " \n" := by decide +kernel
  refine ⟨hend, hblank, (observe_after "x \n" [.take 1]).2.2 _ _ ?_ _⟩
  rw [hend, hblank]
  decide +kernel

end Lexer

end ScriptFront
