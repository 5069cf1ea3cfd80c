import Mathlib.Data.List.Induction
import ScriptFront.Proofs.Cursor.Walk
import ScriptFront.Proofs.Lexer.Singles
import ScriptFront.Proofs.Lexer.Transcript

/-!
# The position of the cursor

The cursor of a lexer is behind the lexeme of the token that was given last, or behind the end of the
text. Behind the end, it has moved one step for each end of the input that was given, and one for a
string without closing quote (`Lexer.Placed`). Each call for one token keeps to this
(`Lexer.Placed.perform`), so every session does (`Lexer.position_after`), and the offsets of the
cursor grow only with the number of ends that are asked for.
-/

namespace ScriptFront

open String (utf8Len)

/-- What is behind the last of the tokens that a text starts with. The blanks behind it belong to
this; of a string without closing quote nothing is left. -/
def behind (cs : List Char) (ts : List Token) : List Char :=
  ts.foldl (fun cs t => (cs.dropWhile isBlank).drop t.lexeme.length) cs

/-- The byte offset behind the lexeme of the token number `k` of a text, counted from 1. -/
def lexemeEnd (source : String) (k : Nat) : Nat :=
  source.utf8ByteSize - utf8Len (behind source.toList ((tokensOf source).take k))

theorem behind_concat (cs : List Char) (ts : List Token) (t : Token) :
    behind cs (ts ++ [t]) = ((behind cs ts).dropWhile isBlank).drop t.lexeme.length := by
  rw [behind, List.foldl_append]
  rfl

theorem Munch.drop_lexeme {read rest : List Char} {r : Reading} (h : Munch read rest r) :
    (read ++ rest).drop r.token.lexeme.length = rest := by
  cases h with
  | lexeme _ _ => exact List.drop_left' (String.length_toList ..)
  | openString _ =>
    apply List.drop_of_length_le
    rw [← String.length_toList, Reading.openString, Token.toList_lexeme_string]
    simp

/-- The lexeme of a token of the text stands directly in front of what is behind the token. Of a
string without closing quote that is the rest of the text. -/
theorem Scan.exists_lexeme {cs : List Char} {rs : List Reading} (h : Scan cs rs) {k : Nat}
    {r : Reading} (hr : rs[k]? = some r) :
    ∃ before read, before ++ read ++ behind cs ((rs.take (k + 1)).map (·.token)) = cs ∧
      Munch read (behind cs ((rs.take (k + 1)).map (·.token))) r := by
  induction h generalizing k with
  | blank _ => cases hr
  | @token gap read rest r' rs hg hm hs ih =>
    have hbehind (ts : List Token) :
        behind (gap ++ (read ++ rest)) (r'.token :: ts) = behind rest ts := by
      rw [behind, List.foldl_cons, hm.dropWhile_isBlank hg, hm.drop_lexeme, behind]
    rw [List.take_succ_cons, List.map_cons, hbehind]
    cases k with
    | zero =>
      obtain rfl := Option.some.inj hr
      exact ⟨gap, read, List.append_assoc .., hm⟩
    | succ k =>
      obtain ⟨before, read', hsplit, hm'⟩ := ih hr
      refine ⟨gap ++ read ++ before, read', ?_, hm'⟩
      generalize behind rest ((rs.take (k + 1)).map (·.token)) = left at hsplit ⊢
      simp [← hsplit]

/-- The byte offset behind a piece of a text whose last token is the token number `k`. -/
theorem utf8Len_eq_lexemeEnd {source : String} {before after : List Char} {k : Nat}
    (split : before ++ after = source.toList)
    (hbehind : after = behind source.toList ((tokensOf source).take k)) :
    utf8Len before = lexemeEnd source k := by
  have hsize : source.utf8ByteSize = utf8Len before + utf8Len after := by
    rw [← String.utf8Len_toList, ← split, String.utf8Len_append]
  rw [lexemeEnd, ← hbehind, hsize, Nat.add_sub_cancel]

/-- Up to the byte offset `n` the text ends with the lexeme of the token, or it ends there
altogether with a string that has no closing quote. -/
def EndsLexeme (source : String) (t : Token) (n : Nat) : Prop :=
  ∃ before read rest, before ++ read ++ rest = source.toList ∧ utf8Len (before ++ read) = n ∧
    (read = t.lexeme.toList ∨ read = '"' :: t.literal.toList ∧ rest = [])

theorem endsLexeme_lexemeEnd {source : String} {k : Nat} {t : Token}
    (h : (tokensOf source)[k]? = some t) : EndsLexeme source t (lexemeEnd source (k + 1)) := by
  obtain ⟨rs, hs⟩ := exists_scan source.toList
  have htokens := (collect_ofString hs).1
  rw [htokens, List.getElem?_map] at h
  obtain ⟨r, hr, rfl⟩ := Option.map_eq_some_iff.1 h
  obtain ⟨before, read, hsplit, hm⟩ := hs.exists_lexeme hr
  refine ⟨before, read, _, hsplit, utf8Len_eq_lexemeEnd hsplit (by rw [htokens, List.map_take]), ?_⟩
  generalize behind source.toList _ = rest at hm
  cases hm with
  | lexeme _ _ => exact .inl rfl
  | openString _ => exact .inr ⟨by simp [Reading.openString], rfl⟩

namespace Lexer

/-- One if a session has reported a string without closing quote, and otherwise zero. -/
def overrun (lx : Lexer) (qs : List Request) : Nat :=
  if .unterminatedString ∈ (lx.run qs).flatMap (·.events) then 1 else 0

/-- Where the cursor is when calls for one token each have been answered. -/
inductive Placed (source : String) (rs : List Reading) (as : List Reply) (cur : Cursor) : Prop where
  /-- All calls were answered by a token, and the cursor is behind the last one. -/
  | within {before after : List Char} {done left : List Reading}
      (split : before ++ after = source.toList) (stands : cur.Stands before after (openStrings done))
      (readings : done ++ left = rs) (scan : Scan after left)
      (behind : after = behind source.toList (done.map (·.token)))
      (answers : as.map Reply.tokens = done.map fun r => [r.token])
  /-- All tokens were given, and the last call gave none of them. -/
  | ended (stands : cur.Stands source.toList [] (openStrings rs + Reply.ends as))
      (last : as.getLast? = some (.item none) ∨ as.getLast? = some (.token .endOfInput))

variable {source : String} {rs : List Reading} {as : List Reply} {lx : Lexer} {q : Request}

/-! ### One call -/

theorem placed_ofString (hs : Scan source.toList rs) :
    Placed source rs [] (ofString source).cursor :=
  have hstands : (ofString source).cursor.Stands [] source.toList (openStrings []) :=
    Cursor.stands_ofString source
  .within rfl hstands rfl hs rfl rfl

/-- At the end of the text a call leaves the cursor where it is, or one step further if it gives the
end of the input. -/
theorem placed_of_blank {before gap : List Char}
    (h : lx.cursor.Stands before gap (openStrings rs + Reply.ends as))
    (hsplit : before ++ gap = source.toList) (hg : ∀ c ∈ gap, isBlank c = true)
    (hq : q.IsSingle) :
    Placed source rs (as ++ [(lx.perform q).value]) (lx.perform q).lexer.cursor := by
  rcases hq with rfl | rfl
  · obtain ⟨next, hnext, hn⟩ := nextToken_of_blank h hg
    rw [hsplit] at hnext
    have hends : Reply.ends (as ++ [.token .endOfInput]) = Reply.ends as + 1 :=
      Reply.ends_append as _
    rw [Lexer.perform, hn]
    refine .ended ?_ (.inr (List.getLast?_concat ..))
    rw [Outcome.value_map, hends]
    exact hnext
  · obtain ⟨next, hnext, hn⟩ := next?_of_blank h hg
    rw [hsplit] at hnext
    have hends : Reply.ends (as ++ [.item none]) = Reply.ends as := Reply.ends_append as _
    rw [Lexer.perform, hn]
    refine .ended ?_ (.inl (List.getLast?_concat ..))
    rw [Outcome.value_map, hends]
    exact hnext

theorem openStrings_singleton (r : Reading) :
    openStrings [r] = r.faults.count .unterminatedString := by
  simp [openStrings, Reading.events]

theorem ends_eq_zero {done : List Reading} (hdone : ∀ r ∈ done, r.token.WellFormed)
    (h : as.map Reply.tokens = done.map fun r => [r.token]) : Reply.ends as = 0 := by
  have htokens : as.flatMap Reply.tokens = done.map (·.token) := by
    rw [List.flatMap_def, h, ← List.flatMap_def, ← List.map_eq_flatMap]
  rw [Reply.ends, htokens, List.count_eq_zero]
  exact endOfInput_notMem_map hdone

/-- A call before the end of the text takes the cursor behind the next token; the call there and
behind it gives no token any more. -/
theorem Placed.perform (h : Placed source rs as lx.cursor) (hrs : ∀ r ∈ rs, r.token.WellFormed)
    (hq : q.IsSingle) :
    Placed source rs (as ++ [(lx.perform q).value]) (lx.perform q).lexer.cursor := by
  cases h with
  | ended stands last =>
    exact placed_of_blank stands (List.append_nil _) (List.forall_mem_nil _) hq
  | @within before after done left split stands readings scan behind answers =>
    cases scan with
    | blank hg =>
      rw [List.append_nil] at readings
      rw [readings] at stands answers
      have hstands : lx.cursor.Stands before after (openStrings rs + Reply.ends as) := by
        rwa [ends_eq_zero hrs answers]
      exact placed_of_blank hstands split hg hq
    | @token gap read rest r left hg hm hs =>
      have hopen : openStrings done = 0 := stands.beyond_eq (by simp [hm.ne_nil])
      obtain ⟨next, hnext, htoken, hitem⟩ := nextToken_of_munch stands hg hm
      have hplaced (a : Reply) (ha : a.tokens = [r.token]) :
          Placed source rs (as ++ [a]) next.cursor := by
        have hstands :
            next.cursor.Stands (before ++ gap ++ read) rest (openStrings (done ++ [r])) := by
          rwa [openStrings_append, hopen, openStrings_singleton, Nat.zero_add]
        refine .within ?_ hstands ?_ hs ?_ ?_
        · simp [← split]
        · simp [← readings]
        · rw [List.map_append, List.map_singleton, behind_concat, ← behind,
            hm.dropWhile_isBlank hg, hm.drop_lexeme]
        · simp [answers, ha]
      rcases hq with rfl | rfl
      · rw [Lexer.perform, htoken]
        exact hplaced _ rfl
      · rw [Lexer.perform, hitem]
        exact hplaced _ rfl

/-! ### A session -/

/-- Calls for one token each keep the cursor where it belongs. -/
theorem placed_after (hs : Scan source.toList rs) {calls : List Request}
    (hcalls : ∀ q ∈ calls, q.IsSingle) :
    Placed source rs ((ofString source).replies calls) ((ofString source).after calls).cursor := by
  induction calls using List.reverseRecOn with
  | nil => exact placed_ofString hs
  | append_singleton calls q ih =>
    obtain ⟨hcalls, hq⟩ := List.forall_mem_append.1 hcalls
    rw [replies_append, after_append]
    exact (ih hcalls).perform hs.wellFormed (hq q List.mem_cons_self)

theorem length_replies (lx : Lexer) (qs : List Request) : (lx.replies qs).length = qs.length := by
  rw [replies, List.length_map]
  induction qs generalizing lx with
  | nil => rfl
  | cons q qs ih => exact congrArg Nat.succ (ih (lx.perform q).lexer)

/-- What a session has reported of strings without closing quote, and the one that is left if the
quotes behind the cursor are odd in number, are all that the text has. -/
theorem overrun_add (hs : Scan source.toList rs) (qs : List Request) :
    (ofString source).overrun qs + ((ofString source).after qs).unread.toList.count '"' % 2 =
      openStrings rs := by
  have hcount := (yields_ofString hs).count_events_run qs
  have hrs := openStrings_of_scan hs
  rw [openStrings_of_scan ((yields_ofString hs).after qs).scan_unread] at hcount
  unfold overrun
  split
  · rename_i hmem
    have hpos := List.count_pos_iff.2 hmem
    omega
  · rename_i hmem
    have hzero := List.count_eq_zero.2 hmem
    omega

/-! ### Offsets -/

theorem ends_pos (h : as.getLast? = some (.token .endOfInput)) : 0 < Reply.ends as := by
  obtain ⟨front, rfl⟩ := List.getLast?_eq_some_iff.1 h
  have hone : Reply.ends [.token .endOfInput] = 1 := rfl
  rw [Reply.ends_append, hone]
  exact Nat.succ_pos _

theorem map_tokens_getLast? {done : List Reading}
    (answers : as.map Reply.tokens = done.map fun r => [r.token]) :
    as.getLast?.map Reply.tokens = done.getLast?.map fun r => [r.token] := by
  rw [← List.getLast?_map, answers, List.getLast?_map]

section Placed

variable {u : Nat} (h : Placed source rs as lx.cursor) (hs : Scan source.toList rs)
  (hu : u + lx.unread.toList.count '"' % 2 = openStrings rs)

include hu in
theorem openStrings_done {before after : List Char} {beyond : Nat} {done left : List Reading}
    (stands : lx.cursor.Stands before after beyond) (readings : done ++ left = rs)
    (scan : Scan after left) : openStrings done = u := by
  have hsum := openStrings_append done left
  have hleft := openStrings_of_scan scan
  rw [unread_of_stands stands, String.toList_ofList] at hu
  rw [readings] at hsum
  omega

include hu in
theorem openStrings_of_ended {before : List Char} {beyond : Nat}
    (stands : lx.cursor.Stands before [] beyond) : openStrings rs = u :=
  openStrings_done hu stands (List.append_nil rs) (.blank (List.forall_mem_nil _))

include h hs hu in
/-- Once the end of the input is given, the cursor is one step behind the end for each time, and
one more for an open string. -/
theorem Placed.position_of_ends_pos (he : 0 < Reply.ends as) :
    lx.cursor.position = source.utf8ByteSize + Reply.ends as + u := by
  cases h with
  | @within before after done left split stands readings scan behind answers =>
    have hdone : ∀ r ∈ done, r.token.WellFormed := fun r hr =>
      hs.wellFormed r (readings ▸ List.mem_append_left left hr)
    exact absurd (ends_eq_zero hdone answers) (Nat.ne_of_gt he)
  | ended stands =>
    rw [stands.position_eq, openStrings_of_ended hu stands, String.utf8Len_toList]
    omega

include h hs hu in
theorem Placed.position_of_token (he : Reply.ends as = 0) {a : Reply} (ha : a ∈ as.getLast?)
    {t : Token} (ht : a.tokens = [t]) :
    (tokensOf source)[as.length - 1]? = some t ∧
      lx.cursor.position = lexemeEnd source as.length + u ∧
      EndsLexeme source t (lexemeEnd source as.length) := by
  cases h with
  | @within before after done left split stands readings scan behind answers =>
    have htokens : tokensOf source = done.map (·.token) ++ left.map (·.token) := by
      rw [(collect_ofString hs).1, ← readings, List.map_append]
    have hlength : as.length = (done.map (·.token)).length := by
      simpa using congrArg List.length answers
    have hlast : (done.map (·.token)).getLast? = some t := by
      have hlast := map_tokens_getLast? answers
      rw [Option.mem_def.1 ha, Option.map_some, ht] at hlast
      obtain ⟨r, hr, hrt⟩ := Option.map_eq_some_iff.1 hlast.symm
      rw [List.getLast?_map, hr, Option.map_some, List.singleton_inj.1 hrt]
    have hget : (tokensOf source)[as.length - 1]? = some t := by
      obtain ⟨front, hfront⟩ := List.getLast?_eq_some_iff.1 hlast
      rw [htokens, hlength, hfront]
      simp
    have hpos : 0 < as.length := List.length_pos_of_mem (List.mem_of_getLast? ha)
    have hends := endsLexeme_lexemeEnd hget
    rw [Nat.sub_add_cancel hpos] at hends
    refine ⟨hget, ?_, hends⟩
    rw [stands.position_eq, openStrings_done hu stands readings scan]
    congr 1
    apply utf8Len_eq_lexemeEnd split
    rw [behind, htokens, hlength, List.take_left']
    rfl
  | ended _ last =>
    rcases last with last | last
    · obtain rfl := Option.some.inj (last.symm.trans ha)
      cases ht
    · exact absurd he (Nat.ne_of_gt (ends_pos last))

include h hu in
theorem Placed.position_of_none (he : Reply.ends as = 0) (ha : as.getLast? = some (.item none)) :
    lx.cursor.position = source.utf8ByteSize + u := by
  cases h with
  | @within before after done left split stands readings scan behind answers =>
    -- The answers of this case are all tokens.
    have hlast := map_tokens_getLast? answers
    rw [ha, Option.map_some] at hlast
    obtain ⟨r, -, hrt⟩ := Option.map_eq_some_iff.1 hlast.symm
    cases hrt
  | ended stands =>
    rw [stands.position_eq, openStrings_of_ended hu stands, String.utf8Len_toList, he]
    omega

include h in
theorem Placed.position_of_nil (ha : as = []) : lx.cursor.position = 0 := by
  subst ha
  cases h with
  | @within before after done left split stands readings scan behind answers =>
    obtain rfl : done = [] := List.map_eq_nil_iff.1 answers.symm
    have hbefore : before = [] := List.append_left_eq_self.1 (split.trans behind.symm)
    rw [stands.position_eq, hbefore]
    rfl
  | ended _ last => simp at last

include h hs in
theorem Placed.exists_stands :
    ∃ before after beyond, before ++ after = source.toList ∧
      lx.cursor.Stands before after beyond ∧ beyond ≤ Reply.ends as + 1 := by
  have hrs := openStrings_of_scan hs
  cases h with
  | @within before after done left split stands readings =>
    refine ⟨before, after, _, split, stands, ?_⟩
    have hsum := openStrings_append done left
    rw [readings] at hsum
    omega
  | ended stands => exact ⟨_, [], _, List.append_nil _, stands, by omega⟩

include h hs in
/-- The cursor is less than two steps further behind the end than ends of the input were given. -/
theorem Placed.nextPosition_le : ∃ n, lx.cursor = .walk source n ∧
    lx.cursor.position ≤ source.utf8ByteSize + Reply.ends as + 1 ∧
    lx.cursor.nextPosition ≤ source.utf8ByteSize + Reply.ends as + 2 := by
  obtain ⟨before, after, beyond, split, stands, hbeyond⟩ := h.exists_stands hs
  have hnext := stands.nextPosition_le
  have hwidth := Cursor.width_pos lx.cursor.current
  rw [split, String.utf8Len_toList] at hnext
  have hposition := stands.nextPosition_eq
  exact ⟨_, stands.eq_walk split, by omega, by omega⟩

end Placed

/-- A session keeps to its text. -/
theorem exists_stands_after (source : String) (qs : List Request) :
    ∃ before after beyond, before ++ after = source.toList ∧
      ((ofString source).after qs).cursor.Stands before after beyond := by
  obtain ⟨rs, hs⟩ := exists_scan source.toList
  have hsingles : ∀ q ∈ (ofString source).singles qs, q.IsSingle := fun _ => isSingle_of_mem_singles
  have hplaced := placed_after hs hsingles
  rw [(yields_ofString hs).after_singles qs] at hplaced
  obtain ⟨before, after, beyond, hsplit, hstands, -⟩ := hplaced.exists_stands hs
  exact ⟨before, after, beyond, hsplit, hstands⟩

theorem exists_stands_ready (source : String) (qs : List Request) :
    ∃ before after beyond, before ++ after = source.toList ∧
      ((ofString source).after qs).skipBlanks.cursor.Stands before after beyond := by
  obtain ⟨before, after, beyond, hsplit, hcur⟩ := exists_stands_after source qs
  refine ⟨_, _, beyond, ?_, hcur.skipWhile isBlank⟩
  rw [List.append_assoc, List.takeWhile_append_dropWhile, hsplit]

/-- The position of the cursor after any session, from the answers to its calls for one token: `e`
is how often the end of the input was given, and `u` is one if a string without closing quote was
read. Up to the end of a lexeme the text ends with the lexeme. Neither offset of the cursor reaches
`2 ^ 64` on the way if there is room for as many steps behind the end. -/
theorem position_after (source : String) (qs : List Request) :
    let lx := (ofString source).after qs
    let calls := (ofString source).singles qs
    let answers := (ofString source).replies calls
    let e := Reply.ends ((ofString source).replies qs)
    let u := (ofString source).overrun qs
    let size := source.utf8ByteSize
    ((∀ q ∈ calls, q.IsSingle) ∧ (ofString source).after calls = lx) ∧
      (0 < e → lx.cursor.position = size + e + u) ∧
      (e = 0 → ∀ a ∈ answers.getLast?, ∀ t, a.tokens = [t] →
        (tokensOf source)[calls.length - 1]? = some t ∧
          lx.cursor.position = lexemeEnd source calls.length + u ∧
          EndsLexeme source t (lexemeEnd source calls.length)) ∧
      (e = 0 → answers.getLast? = some (.item none) → lx.cursor.position = size + u) ∧
      (calls = [] → lx.cursor.position = 0) ∧
      lx.cursor.nextPosition = lx.cursor.position + Cursor.width lx.cursor.current ∧
      lx.cursor.position ≤ size + e + 1 ∧
      (size + e + 2 < 2 ^ 64 → ∃ n, lx.cursor = .walk source n ∧ ∀ k ≤ n,
        (Cursor.walk source k).position < 2 ^ 64 ∧
          (Cursor.walk source k).nextPosition < 2 ^ 64) := by
  intro lx calls answers e u size
  obtain ⟨rs, hs⟩ := exists_scan source.toList
  have hy := yields_ofString hs
  have hcalls : ∀ q ∈ calls, q.IsSingle := fun _ => isSingle_of_mem_singles
  have hafter : (ofString source).after calls = lx := hy.after_singles qs
  have hends : Reply.ends answers = e := hy.ends_replies_singles qs
  have hlength : answers.length = calls.length := length_replies _ _
  have hplaced : Placed source rs answers lx.cursor := hafter ▸ placed_after hs hcalls
  have hu : u + lx.unread.toList.count '"' % 2 = openStrings rs := overrun_add hs qs
  obtain ⟨n, hwalk, hposition, hnext⟩ := hplaced.nextPosition_le hs
  rw [hends] at hposition hnext
  refine ⟨⟨hcalls, hafter⟩, ?_, ?_, ?_, ?_, ?_, hposition, ?_⟩
  · intro he
    rw [← hends] at he ⊢
    exact hplaced.position_of_ends_pos hs hu he
  · intro he a ha t ht
    rw [← hlength]
    exact hplaced.position_of_token hs hu (hends.trans he) ha ht
  · intro he
    exact hplaced.position_of_none hu (hends.trans he)
  · intro hnil
    exact hplaced.position_of_nil (List.length_eq_zero_iff.1 (hlength.trans (by rw [hnil]; rfl)))
  · obtain ⟨before, after, beyond, -, hstands, -⟩ := hplaced.exists_stands hs
    exact hstands.nextPosition_eq
  · intro hsize
    refine ⟨n, hwalk, fun k hk => ?_⟩
    have hle := Cursor.nextPosition_walk_le source hk
    have hstep := (Cursor.stands_walk source k).nextPosition_eq
    rw [← hwalk] at hle
    omega

/-- The text ends in a string without closing quote: behind the string, when no token is left, and
when the end of the input was given. -/
theorem position_after_open_string :
    ((ofString "a \"é").after []).cursor.position = 0 ∧
      ((ofString "a \"é").after [.nth 1]).cursor.position = 5 + 1 ∧
      ((ofString "a \"é").after [.count]).cursor.position = 5 + 1 ∧
      ((ofString "a \"é").after [.take 1, .tokenize, .next]).cursor.position = 5 + 1 + 1 := by
  refine ⟨?_, ?_, ?_, ?_⟩
  · exact (position_after "a \"é" []).2.2.2.2.1 rfl
  · have htoken : .item (some ⟨.string, "é"⟩) ∈
        ((ofString "a \"é").replies ((ofString "a \"é").singles [.nth 1])).getLast? := by
      decide +kernel
    refine ((position_after "a \"é" [.nth 1]).2.2.1 ?_ _ htoken _ rfl).2.1.trans ?_
    · decide +kernel
    · decide +kernel
  · refine ((position_after "a \"é" [.count]).2.2.2.1 ?_ ?_).trans ?_
    · decide +kernel
    · decide +kernel
    · decide +kernel
  · refine ((position_after "a \"é" [.take 1, .tokenize, .next]).2.1 ?_).trans ?_
    · decide +kernel
    · decide +kernel

end Lexer

end ScriptFront
