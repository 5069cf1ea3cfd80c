import ScriptFront.Lexer.Session
import ScriptFront.Proofs.Lexer.Scan

/-!
# The backlog of a lexer

All that the answers of a lexer depend on are the tokens that it has still to give. Each request
has an answer from that list (`Lexer.Request.reply`) and leaves the end of it
(`Lexer.Request.left`), and a whole session is answered like that from the tokens of the text
(`Lexer.replies_ofString`).
-/

namespace ScriptFront.Lexer

/-- The tokens before the first end of the input, when the next token is asked for again and
again. -/
def drain (lx : Lexer) : List Token :=
  let head := lx.nextToken
  if _h : head.value.isEndOfInput = true then [] else head.value :: drain head.lexer
termination_by lx.remaining
decreasing_by exact remaining_nextToken_lt fun hk => _h (beq_iff_eq.2 hk)

/-- The answers to requests in their order. -/
def replies (lx : Lexer) (qs : List Request) : List Reply :=
  (lx.run qs).map (·.value)

/-- The tokens that the answer gives. -/
def Reply.tokens : Reply → List Token
  | .token t => [t]
  | .item t => t.toList
  | .items ts => ts
  | .count _ => []

/-- Whether the answer says that nothing is left. -/
def Reply.IsEnd : Reply → Prop
  | .token t => t = .endOfInput
  | .item t => t = none
  | _ => False

namespace Request

/-- The answer to a request when `ts` are the tokens that are left. -/
def reply (ts : List Token) : Request → Reply
  | .nextToken => .token (ts.head?.getD .endOfInput)
  | .next => .item ts.head?
  | .nth n => .item (ts.drop n).head?
  | .take n => .items (ts.take n)
  | .collect => .items ts
  | .count => .count ts.length
  | .tokenize => .items (ts ++ [.endOfInput])

/-- What a request leaves of a list. -/
def left {α : Type} (xs : List α) : Request → List α
  | .nextToken => xs.tail
  | .next => xs.tail
  | .nth n => (xs.drop n).tail
  | .take n => xs.drop n
  | .collect => []
  | .count => []
  | .tokenize => []

/-- The readings of the tokens that a request reads. -/
def made (rs : List Reading) : Request → List Reading
  | .nextToken => [rs.head?.getD (.ofLexeme .endOfInput)]
  | .next => rs.take 1
  | .nth n => rs.take (n + 1)
  | .take n => rs.take n
  | .collect => rs
  | .count => rs
  | .tokenize => rs ++ [.ofLexeme .endOfInput]

/-- What requests leave of a list. -/
def leftBy {α : Type} (xs : List α) (qs : List Request) : List α :=
  qs.foldl left xs

/-- The answers to requests in their order, when `ts` are the tokens that are left. -/
def replies (ts : List Token) : List Request → List Reply
  | [] => []
  | q :: qs => q.reply ts :: replies (q.left ts) qs

theorem map_left {α β : Type} (f : α → β) (xs : List α) (q : Request) :
    (q.left xs).map f = q.left (xs.map f) := by
  cases q <;> simp [left]

theorem left_nil {α : Type} (q : Request) : q.left ([] : List α) = [] := by
  cases q <;> simp [left]

theorem left_sublist {α : Type} (xs : List α) (q : Request) : (q.left xs).Sublist xs := by
  cases q with
  | nextToken => exact List.tail_sublist xs
  | next => exact List.tail_sublist xs
  | nth n => exact (List.tail_sublist _).trans (List.drop_sublist n xs)
  | take n => exact List.drop_sublist n xs
  | collect => exact List.nil_sublist xs
  | count => exact List.nil_sublist xs
  | tokenize => exact List.nil_sublist xs

theorem leftBy_sublist {α : Type} (xs : List α) (qs : List Request) :
    (leftBy xs qs).Sublist xs := by
  induction qs generalizing xs with
  | nil => exact List.Sublist.refl xs
  | cons q qs ih => exact (ih (q.left xs)).trans (left_sublist xs q)

theorem replies_append (ts : List Token) (qs qs' : List Request) :
    replies ts (qs ++ qs') = replies ts qs ++ replies (leftBy ts qs) qs' := by
  induction qs generalizing ts with
  | nil => rfl
  | cons q qs ih => simp only [List.cons_append, replies, leftBy, List.foldl_cons, ih]

/-- Whether the end of the input may be among the tokens that a request gives. -/
def MayEnd (q : Request) : Prop :=
  q = .nextToken ∨ q = .tokenize

theorem mem_of_mem_tokens_reply {ts : List Token} {q : Request} {t : Token}
    (h : t ∈ (q.reply ts).tokens) : t ∈ ts ∨ q.MayEnd ∧ t = .endOfInput := by
  cases q with
  | nextToken =>
    cases ts with
    | nil => exact .inr ⟨.inl rfl, List.mem_singleton.1 h⟩
    | cons u ts => exact .inl (List.mem_cons.2 (.inl (List.mem_singleton.1 h)))
  | next => exact .inl (List.mem_of_mem_head? (Option.mem_toList.1 h))
  | nth n => exact .inl (List.mem_of_mem_drop (List.mem_of_mem_head? (Option.mem_toList.1 h)))
  | take n => exact .inl (List.mem_of_mem_take h)
  | collect => exact .inl h
  | count => cases h
  | tokenize =>
    rcases List.mem_append.1 h with h | h
    · exact .inl h
    · exact .inr ⟨.inr rfl, List.mem_singleton.1 h⟩

/-- All tokens that a session gives were left before it, but for the end of the input. -/
theorem mem_of_mem_tokens_replies {ts : List Token} {qs : List Request} {t : Token}
    (h : t ∈ (replies ts qs).flatMap Reply.tokens) :
    t ∈ ts ∨ (∃ q ∈ qs, q.MayEnd) ∧ t = .endOfInput := by
  induction qs generalizing ts with
  | nil => cases h
  | cons q qs ih =>
    rw [replies, List.flatMap_cons, List.mem_append] at h
    rcases h with h | h
    · exact (mem_of_mem_tokens_reply h).imp_right fun ⟨hq, ht⟩ =>
        ⟨⟨q, List.mem_cons_self, hq⟩, ht⟩
    · rcases ih h with ht | ⟨⟨q', hq', hend⟩, ht⟩
      · exact .inl ((left_sublist ts q).subset ht)
      · exact .inr ⟨⟨q', List.mem_cons_of_mem q hq', hend⟩, ht⟩

/-! An answer that says the end is reached comes from an empty list, but for the tokens that the
request itself has dropped. -/

variable {ts : List Token} {q : Request}

theorem eq_nil_of_isEnd (hts : Token.endOfInput ∉ ts) (h : (q.reply ts).IsEnd)
    (hq : q = .nextToken ∨ q = .next) : ts = [] := by
  cases ts with
  | nil => rfl
  | cons t ts =>
    rcases hq with rfl | rfl
    · have ht : t = .endOfInput := h
      simp [ht] at hts
    · cases h

theorem left_eq_nil_of_isEnd (hts : Token.endOfInput ∉ ts) (h : (q.reply ts).IsEnd) :
    q.left ts = [] := by
  cases q with
  | nextToken => rw [eq_nil_of_isEnd hts h (.inl rfl), left_nil]
  | next => rw [eq_nil_of_isEnd hts h (.inr rfl), left_nil]
  | nth n =>
    have hn : ts.drop n = [] := List.head?_eq_none_iff.1 h
    rw [left, hn, List.tail_nil]
  | take n => cases h
  | collect => rfl
  | count => rfl
  | tokenize => rfl

end Request

/-! ### One request -/

variable {lx : Lexer} {rs : List Reading}

theorem Yields.perform (h : lx.Yields rs) (q : Request) :
    ∃ next : Lexer, next.Yields (q.left rs) ∧
      lx.perform q = ⟨q.reply (rs.map (·.token)), (q.made rs).flatMap (·.events), next⟩ := by
  cases q with
  | nextToken =>
    cases rs with
    | nil =>
      obtain ⟨next, hnext, hn⟩ := h.nextToken_nil
      exact ⟨next, hnext, by rw [Lexer.perform, hn]; rfl⟩
    | cons r rs =>
      obtain ⟨next, hnext, hn⟩ := h.nextToken_cons
      exact ⟨next, hnext, by simp [Lexer.perform, hn, Outcome.map, Request.reply, Request.made]⟩
  | next =>
    cases rs with
    | nil =>
      obtain ⟨next, hnext, hn⟩ := h.next?_nil
      exact ⟨next, hnext, by simp [Lexer.perform, hn, Outcome.map, Request.reply, Request.made]⟩
    | cons r rs =>
      obtain ⟨next, hnext, hn⟩ := h.next?_cons
      exact ⟨next, hnext, by simp [Lexer.perform, hn, Outcome.map, Request.reply, Request.made]⟩
  | nth n =>
    obtain ⟨next, hnext, hn⟩ := h.nth? n
    refine ⟨next, by simpa [Request.left] using hnext, ?_⟩
    simp [Lexer.perform, hn, Outcome.map, Request.reply, Request.made, List.head?_drop]
  | take n =>
    obtain ⟨next, hnext, hn⟩ := h.take n
    exact ⟨next, hnext, by simp [Lexer.perform, hn, Outcome.map, Request.reply, Request.made]⟩
  | collect =>
    obtain ⟨next, hnext, hn⟩ := h.collect
    exact ⟨next, hnext, by simp [Lexer.perform, hn, Outcome.map, Request.reply, Request.made]⟩
  | count =>
    obtain ⟨next, hnext, hn⟩ := h.collect
    exact ⟨next, hnext,
      by simp [Lexer.perform, Lexer.count, hn, Outcome.map, Request.reply, Request.made]⟩
  | tokenize =>
    obtain ⟨next, hnext, hn⟩ := h.tokenize
    refine ⟨next, hnext, ?_⟩
    rw [Lexer.perform, hn]
    simp [Outcome.map, Request.reply, Request.made, Reading.events_endOfInput]

theorem Yields.lexer_perform (h : lx.Yields rs) (q : Request) :
    (lx.perform q).lexer.Yields (q.left rs) := by
  obtain ⟨next, hnext, hn⟩ := h.perform q
  rwa [hn]

/-! ### A session -/

theorem Yields.replies (h : lx.Yields rs) (qs : List Request) :
    lx.replies qs = Request.replies (rs.map (·.token)) qs := by
  induction qs generalizing lx rs with
  | nil => rfl
  | cons q qs ih =>
    obtain ⟨next, hnext, hn⟩ := h.perform q
    have hqs := ih hnext
    rw [Request.map_left] at hqs
    rw [Request.replies, ← hqs]
    simp [Lexer.replies, run, hn]

theorem Yields.drain (h : lx.Yields rs) : lx.drain = rs.map (·.token) := by
  induction rs generalizing lx with
  | nil =>
    obtain ⟨next, -, hn⟩ := h.nextToken_nil
    rw [Lexer.drain, hn]
    rfl
  | cons r rs ih =>
    obtain ⟨next, hnext, hn⟩ := h.nextToken_cons
    have hk : r.token.isEndOfInput ≠ true := by
      simpa [Token.isEndOfInput] using (h.wellFormed r List.mem_cons_self).kind_ne_endOfInput
    rw [Lexer.drain, hn, dif_neg hk, ih hnext, List.map_cons]

/-- A session on a text is answered from the tokens of the text alone. The end of the input is none
of them; once an answer has said that nothing is left, all later ones are those of a lexer on the
empty text, and a request for one token that is answered like this might as well not have been
made. -/
theorem replies_ofString (source : String) :
    (∀ qs, (ofString source).replies qs = Request.replies (ofString source).drain qs) ∧
      (∀ t ∈ (ofString source).drain, t.isEndOfInput = false) ∧
      ∀ qs q a, a.IsEnd →
        (ofString source).replies (qs ++ [q]) = (ofString source).replies qs ++ [a] →
        ∀ qs', (ofString source).replies (qs ++ q :: qs') =
            (ofString source).replies qs ++ a :: (ofString "").replies qs' ∧
          (q = .nextToken ∨ q = .next → (ofString source).replies (qs ++ qs') =
            (ofString source).replies qs ++ (ofString "").replies qs') := by
  obtain ⟨rs, hs⟩ := exists_scan source.toList
  have hy := yields_ofString hs
  have hempty : (ofString "").Yields [] := yields_ofString (.blank (by simp))
  have hend : ∀ t ∈ rs.map (·.token), t.isEndOfInput = false := by
    intro t ht
    obtain ⟨r, hr, rfl⟩ := List.mem_map.1 ht
    simpa [Token.isEndOfInput] using (hy.wellFormed r hr).kind_ne_endOfInput
  refine ⟨fun qs => by rw [hy.drain, hy.replies], by rwa [hy.drain], ?_⟩
  intro qs q a ha hq qs'
  simp only [hy.replies, hempty.replies, List.map_nil, Request.replies_append] at hq ⊢
  generalize rs.map (·.token) = ts at hend hq ⊢
  obtain rfl : q.reply (Request.leftBy ts qs) = a := by
    simpa [Request.replies] using List.append_cancel_left hq
  have hnot : Token.endOfInput ∉ Request.leftBy ts qs := by
    intro hmem
    have := hend _ ((Request.leftBy_sublist ts qs).subset hmem)
    simp [Token.isEndOfInput, Token.endOfInput] at this
  constructor
  · rw [Request.replies, Request.left_eq_nil_of_isEnd hnot ha]
  · intro hsingle
    rw [Request.eq_nil_of_isEnd hnot ha hsingle]

theorem replies_ofString_trailing_blank :
    Reply.IsEnd (.item none) ∧
      (ofString "a ").replies [.next, .next] = (ofString "a ").replies [.next] ++ [.item none] ∧
      (ofString "a ").replies [.next, .next, .nextToken, .take 2, .tokenize] =
        [.item (some (.ofWord "a")), .item none, .token .endOfInput, .items [],
          .items [.endOfInput]] := by
  have hnone : (ofString "a ").replies [.next, .next] =
      (ofString "a ").replies [.next] ++ [.item none] := by decide +kernel
  have h := ((replies_ofString "a ").2.2 [.next] .next (.item none) rfl hnone
    [.nextToken, .take 2, .tokenize]).1
  refine ⟨rfl, hnone, h.trans ?_⟩
  decide +kernel

end ScriptFront.Lexer
