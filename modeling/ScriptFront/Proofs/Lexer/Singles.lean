import ScriptFront.Proofs.Lexer.History

/-!
# Sessions of single calls

All requests come down to two calls that read at most one token: `nextToken` and `next`. A request
for more makes as many calls as it needs and, if it goes through the whole stream, one call more to
see that nothing is left (`Lexer.Request.singles`). The lexer cannot tell the request from its calls
(`Lexer.Yields.after_singles`), and the calls give the end of the input as often as the request does
(`Lexer.Yields.ends_replies_singles`).
-/

namespace ScriptFront.Lexer

open List (replicate)

namespace Request

/-- The calls for one token that a request makes when `n` tokens are left. -/
def singles (n : Nat) : Request → List Request
  | .nextToken => [.nextToken]
  | .next => [.next]
  | .nth k => replicate (min (k + 1) (n + 1)) .next
  | .take k => replicate (min k (n + 1)) .next
  | .collect => replicate (n + 1) .next
  | .count => replicate (n + 1) .next
  | .tokenize => replicate (n + 1) .next ++ [.nextToken]

/-- Whether the request is for one token at most. -/
def IsSingle (q : Request) : Prop :=
  q = .nextToken ∨ q = .next

theorem isSingle_of_mem_singles {n : Nat} {q single : Request} (h : single ∈ q.singles n) :
    single.IsSingle := by
  have hnext {m : Nat} (h : single ∈ replicate m .next) : single.IsSingle :=
    .inr (List.eq_of_mem_replicate h)
  cases q with
  | nextToken => exact .inl (List.mem_singleton.1 h)
  | next => exact .inr (List.mem_singleton.1 h)
  | tokenize =>
    rcases List.mem_append.1 h with h | h
    · exact hnext h
    · exact .inl (List.mem_singleton.1 h)
  | _ => exact hnext h

end Request

/-- The calls for one token that a session comes down to. -/
def singles (lx : Lexer) : List Request → List Request
  | [] => []
  | q :: qs => q.singles lx.drain.length ++ (lx.perform q).lexer.singles qs

theorem isSingle_of_mem_singles {lx : Lexer} {qs : List Request} {single : Request}
    (h : single ∈ lx.singles qs) : single.IsSingle := by
  induction qs generalizing lx with
  | nil => cases h
  | cons q qs ih =>
    rcases List.mem_append.1 h with h | h
    · exact Request.isSingle_of_mem_singles h
    · exact ih h

/-! ### Where the calls lead -/

theorem after_append (lx : Lexer) (qs qs' : List Request) :
    lx.after (qs ++ qs') = (lx.after qs).after qs' :=
  List.foldl_append

theorem replies_append (lx : Lexer) (qs qs' : List Request) :
    lx.replies (qs ++ qs') = lx.replies qs ++ (lx.after qs).replies qs' := by
  induction qs generalizing lx with
  | nil => rfl
  | cons q qs ih => exact congrArg (_ :: ·) (ih (lx.perform q).lexer)

theorem lexer_nth? (lx : Lexer) (k : Nat) : (lx.nth? k).lexer = (lx.take (k + 1)).lexer := by
  induction k generalizing lx with
  | zero =>
    rw [nth?, take, Outcome.andThen]
    cases lx.next?.value <;> rfl
  | succ k ih =>
    rw [nth?, take, Outcome.andThen, Outcome.andThen]
    cases lx.next?.value with
    | none => rfl
    | some t => exact ih lx.next?.lexer

variable {lx : Lexer} {rs : List Reading}

theorem Yields.lexer_collect (h : lx.Yields rs) :
    lx.collect.lexer = (lx.take (rs.length + 1)).lexer := by
  induction rs generalizing lx with
  | nil =>
    obtain ⟨next, -, hn⟩ := h.next?_nil
    rw [Lexer.collect, Lexer.take, Outcome.andThen]
    split <;> simp_all
  | cons r rs ih =>
    obtain ⟨next, hnext, hn⟩ := h.next?_cons
    rw [Lexer.collect, Lexer.take, Outcome.andThen]
    split <;> simp_all

theorem Yields.after_replicate_next (h : lx.Yields rs) (k : Nat) :
    lx.after (replicate (min k (rs.length + 1)) .next) = (lx.take k).lexer := by
  induction k generalizing lx rs with
  | zero =>
    rw [Nat.zero_min]
    rfl
  | succ k ih =>
    rw [Nat.add_min_add_right, List.replicate_succ]
    show lx.next?.lexer.after _ = _
    cases rs with
    | nil =>
      obtain ⟨next, -, hn⟩ := h.next?_nil
      rw [Lexer.take, Outcome.andThen, hn, List.length_nil, Nat.min_zero]
      rfl
    | cons r rs =>
      obtain ⟨next, hnext, hn⟩ := h.next?_cons
      rw [Lexer.take, Outcome.andThen, hn, List.length_cons]
      exact ih hnext

theorem Yields.after_singles_request (h : lx.Yields rs) (q : Request) :
    lx.after (q.singles rs.length) = (lx.perform q).lexer := by
  have hall : lx.after (replicate (rs.length + 1) .next) = lx.collect.lexer := by
    rw [h.lexer_collect, ← h.after_replicate_next, Nat.min_self]
  cases q with
  | nextToken => rfl
  | next => rfl
  | nth k => exact (h.after_replicate_next (k + 1)).trans (lexer_nth? lx k).symm
  | take k => exact h.after_replicate_next k
  | collect => exact hall
  | count => exact hall
  | tokenize =>
    rw [Request.singles, after_append, hall]
    rfl

/-- The calls of a session leave the lexer where the session leaves it. -/
theorem Yields.after_singles (h : lx.Yields rs) (qs : List Request) :
    lx.after (lx.singles qs) = lx.after qs := by
  induction qs generalizing lx rs with
  | nil => rfl
  | cons q qs ih =>
    have hq : lx.after (q.singles lx.drain.length) = (lx.perform q).lexer := by
      rw [h.drain, List.length_map, h.after_singles_request]
    rw [singles, after_append, hq]
    exact ih (h.lexer_perform q)

/-! ### How often the end of the input is given -/

/-- How often answers give the end of the input. -/
def Reply.ends (as : List Reply) : Nat :=
  (as.flatMap Reply.tokens).count .endOfInput

theorem Reply.ends_append (as as' : List Reply) : ends (as ++ as') = ends as + ends as' := by
  rw [ends, List.flatMap_append, List.count_append, ends, ends]

theorem Request.ends_replies_eq_zero {ts : List Token} {qs : List Request}
    (hts : Token.endOfInput ∉ ts) (hqs : ∀ q ∈ qs, ¬ q.MayEnd) :
    Reply.ends (Request.replies ts qs) = 0 := by
  apply List.count_eq_zero.2
  intro h
  rcases mem_of_mem_tokens_replies h with h | ⟨⟨q, hq, hend⟩, -⟩
  · exact hts h
  · exact hqs q hq hend

theorem Request.not_mayEnd_of_mem_replicate {n : Nat} {q : Request}
    (h : q ∈ replicate n .next) : ¬ q.MayEnd := by
  rw [List.eq_of_mem_replicate h]
  simp [MayEnd]

theorem endOfInput_notMem_map (hrs : ∀ r ∈ rs, r.token.WellFormed) :
    .endOfInput ∉ rs.map (·.token) := by
  intro hmem
  obtain ⟨r, hr, ht⟩ := List.mem_map.1 hmem
  exact (hrs r hr).kind_ne_endOfInput (ht ▸ rfl)

theorem Yields.ends_replies_singles_request (h : lx.Yields rs) (q : Request) :
    Reply.ends (lx.replies (q.singles rs.length)) = Reply.ends (lx.replies [q]) := by
  have hts := endOfInput_notMem_map h.wellFormed
  have hnext (n : Nat) : Reply.ends (lx.replies (replicate n .next)) = 0 := by
    rw [h.replies]
    exact Request.ends_replies_eq_zero hts fun _ => Request.not_mayEnd_of_mem_replicate
  have hone (hq : ¬ q.MayEnd) : Reply.ends (lx.replies [q]) = 0 := by
    rw [h.replies]
    exact Request.ends_replies_eq_zero hts (by simpa using hq)
  cases q with
  | nextToken => rfl
  | next => rfl
  | tokenize =>
    have hend : (lx.after (replicate (rs.length + 1) .next)).Yields [] :=
      h.after_singles_request .collect ▸ h.lexer_perform .collect
    rw [Request.singles, replies_append, Reply.ends_append, hnext, hend.replies, h.replies]
    simp [Reply.ends, Request.replies, Request.reply, Reply.tokens, List.count_eq_zero.2 hts]
  | _ => rw [hone (by simp [Request.MayEnd]), Request.singles, hnext]

/-- The calls of a session give the end of the input as often as the session. -/
theorem Yields.ends_replies_singles (h : lx.Yields rs) (qs : List Request) :
    Reply.ends (lx.replies (lx.singles qs)) = Reply.ends (lx.replies qs) := by
  induction qs generalizing lx rs with
  | nil => rfl
  | cons q qs ih =>
    have hq : lx.replies (q :: qs) = lx.replies [q] ++ (lx.perform q).lexer.replies qs := rfl
    rw [singles, h.drain, List.length_map, replies_append, Reply.ends_append, hq,
      Reply.ends_append, h.ends_replies_singles_request, h.after_singles_request,
      ih (h.lexer_perform q)]

end ScriptFront.Lexer
