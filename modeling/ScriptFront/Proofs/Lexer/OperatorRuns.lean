import Mathlib.Data.List.SplitBy
import Mathlib.Data.Nat.Init
import ScriptFront.Proofs.Lexer.Quotes

/-!
# Runs of operators

An `=` is taken in by the `!` or `=` directly in front of it, unless that one is itself the `=` of a
longer symbol. So a run of `!` with a run of `=` behind it is paired from the left: only the last
`!` gets an `=`, and those that are left make pairs among themselves
(`tokensOf_operatorRun`). A text of `!` and `=` alone is read one such run after the other
(`tokensOf_operatorRuns`), because no symbol takes in a `!`.
-/

namespace ScriptFront

open List (replicate)

/-- A number of `!`, and a number of `=` behind them. -/
def operatorRun (bangs equals : Nat) : List Char :=
  replicate bangs '!' ++ replicate equals '='

/-- The longest pieces of a text in which no `=` stands directly in front of a `!`. -/
def operatorRuns (cs : List Char) : List (List Char) :=
  cs.splitBy fun c d => !(c == '=' && d == '!')

/-! ### One symbol in front -/

variable {cs : List Char}

theorem tokensOf_bang (h : cs.head? ≠ some '=') :
    tokensOf (.ofList ('!' :: cs)) = .ofSymbol .bang :: tokensOf (.ofList cs) := by
  have hm : Munch ['!'] cs (.ofLexeme (.ofSymbol .bang)) := by
    apply Munch.symbol rfl
    rintro d hd ⟨-, rfl⟩
    exact h hd
  exact hm.tokensOf_eq

theorem tokensOf_bang_equals (cs : List Char) :
    tokensOf (.ofList ('!' :: '=' :: cs)) = .ofSymbol .notEqual :: tokensOf (.ofList cs) :=
  (Munch.symbolEquals (c := '!') rfl rfl cs).tokensOf_eq

theorem tokensOf_equals_equals (cs : List Char) :
    tokensOf (.ofList ('=' :: '=' :: cs)) = .ofSymbol .equal :: tokensOf (.ofList cs) :=
  (Munch.symbolEquals (c := '=') rfl rfl cs).tokensOf_eq

/-! ### One run -/

/-- A row of `=` makes pairs from the left. -/
theorem tokensOf_replicate_equals (n : Nat) :
    tokensOf (.ofList (replicate n '=')) =
      replicate (n / 2) (.ofSymbol .equal) ++ replicate (n % 2) (.ofSymbol .assign) := by
  induction n using Nat.twoStepInduction with
  | zero => decide +kernel
  | one => decide +kernel
  | more n ih _ =>
    have hdiv : (n + 2) / 2 = n / 2 + 1 := by omega
    have hmod : (n + 2) % 2 = n % 2 := by omega
    rw [List.replicate_succ, List.replicate_succ, tokensOf_equals_equals, ih, hdiv, hmod,
      List.replicate_succ, List.cons_append]

theorem tokensOf_replicate_bang (m : Nat) (h : cs.head? ≠ some '=') :
    tokensOf (.ofList (replicate m '!' ++ cs)) =
      replicate m (.ofSymbol .bang) ++ tokensOf (.ofList cs) := by
  induction m with
  | zero => rfl
  | succ m ih =>
    have hhead : (replicate m '!' ++ cs).head? ≠ some '=' := by
      cases m with
      | zero => exact h
      | succ m => simp [List.replicate_succ]
    rw [List.replicate_succ, List.cons_append, tokensOf_bang hhead, ih, List.replicate_succ,
      List.cons_append]

/-- Of the `!` in a run only the last one takes in an `=`. -/
theorem tokensOf_operatorRun_succ (m n : Nat) :
    tokensOf (.ofList (operatorRun (m + 1) (n + 1))) =
      replicate m (.ofSymbol .bang) ++ .ofSymbol .notEqual ::
        (replicate (n / 2) (.ofSymbol .equal) ++ replicate (n % 2) (.ofSymbol .assign)) := by
  have hhead : ('!' :: '=' :: replicate n '=').head? ≠ some '=' := by simp
  have hsplit : operatorRun (m + 1) (n + 1) = replicate m '!' ++ '!' :: '=' :: replicate n '=' := by
    rw [operatorRun, List.replicate_succ', List.append_assoc, List.singleton_append,
      List.replicate_succ]
  rw [hsplit, tokensOf_replicate_bang m hhead, tokensOf_bang_equals, tokensOf_replicate_equals]

/-! ### One run after the other -/

theorem Kind.not_absorbs_bang {k : Kind} : ¬ k.Absorbs '!' := by
  cases k <;> simp [Absorbs] <;> decide

/-- What starts with a `!` is read apart from what stands in front of it. -/
theorem tokensOf_append_bang {a b : List Char} (ha : '"' ∉ a) (hb : ∀ c ∈ b.head?, c = '!') :
    tokensOf (.ofList (a ++ b)) = tokensOf (.ofList a) ++ tokensOf (.ofList b) := by
  obtain ⟨rs, hs⟩ := exists_scan a
  obtain ⟨rs', hs'⟩ := exists_scan b
  have hscan : Scan (a ++ b) (rs ++ rs') := by
    apply hs.append hs'
    · apply hs.closed_of_even
      rw [List.count_eq_zero.2 ha]
    · intro c hc r _ habs
      obtain rfl := hb c hc
      exact absurd habs Kind.not_absorbs_bang
  rw [hscan.tokensOf_eq, hs.tokensOf_eq, hs'.tokensOf_eq, List.map_append]

/-- Pieces are read one by one when all but the first start with a `!`. -/
theorem tokensOf_flatten {pieces : List (List Char)} (hq : ∀ p ∈ pieces, '"' ∉ p)
    (hchain : pieces.IsChain fun _ q => q.head? = some '!') :
    tokensOf (.ofList pieces.flatten) = pieces.flatMap fun p => tokensOf (.ofList p) := by
  induction pieces with
  | nil => decide +kernel
  | cons p pieces ih =>
    obtain ⟨hp, hpieces⟩ := List.forall_mem_cons.1 hq
    obtain ⟨hnext, hrest⟩ := List.isChain_cons.1 hchain
    have hhead : ∀ c ∈ pieces.flatten.head?, c = '!' := by
      cases pieces with
      | nil => simp
      | cons q pieces =>
        have hq : q.head? = some '!' := hnext q rfl
        simp [List.head?_append, hq]
    rw [List.flatten_cons, tokensOf_append_bang hp hhead, ih hpieces hrest, List.flatMap_cons]

theorem exists_eq_operatorRun {p : List Char} (hp : ∀ c ∈ p, c = '!' ∨ c = '=')
    (hchain : p.IsChain fun c d => !(c == '=' && d == '!')) : ∃ m n, p = operatorRun m n := by
  induction p with
  | nil => exact ⟨0, 0, rfl⟩
  | cons c p ih =>
    obtain ⟨hc, hp⟩ := List.forall_mem_cons.1 hp
    obtain ⟨hnext, hrest⟩ := List.isChain_cons.1 hchain
    obtain ⟨m, n, rfl⟩ := ih hp hrest
    rcases hc with rfl | rfl
    · exact ⟨m + 1, n, rfl⟩
    · cases m with
      | zero => exact ⟨0, n + 1, rfl⟩
      | succ m => exact absurd (hnext '!' rfl) (by decide)

/-! ### The whole text -/

theorem isChain_operatorRuns (cs : List Char) :
    (operatorRuns cs).IsChain fun p q => p.getLast? = some '=' ∧ q.head? = some '!' := by
  apply (List.isChain_getLast_head_splitBy _ cs).imp
  rintro p q ⟨hp, hq, hcut⟩
  rw [Bool.not_eq_false', Bool.and_eq_true, beq_iff_eq, beq_iff_eq] at hcut
  rw [List.getLast?_eq_some_getLast hp, List.head?_eq_some_head hq, hcut.1, hcut.2]
  exact ⟨rfl, rfl⟩

/-- A run of `!` is read one by one, a run of `=` in pairs, and of a run of `!` in front of a run of
`=` the last `!` takes the first `=`, before the others make pairs. Every text of `!` and `=` falls
into such runs, each of them as long as it can be, and it is read one run after the other. -/
theorem tokensOf_operatorRuns :
    (∀ m n,
      (n = 0 → tokensOf (.ofList (operatorRun m n)) = replicate m (.ofSymbol .bang)) ∧
      (m = 0 → tokensOf (.ofList (operatorRun m n)) =
        replicate (n / 2) (.ofSymbol .equal) ++ replicate (n % 2) (.ofSymbol .assign)) ∧
      (1 ≤ m → 1 ≤ n → tokensOf (.ofList (operatorRun m n)) =
        replicate (m - 1) (.ofSymbol .bang) ++ .ofSymbol .notEqual ::
          (replicate ((n - 1) / 2) (.ofSymbol .equal) ++
            replicate ((n - 1) % 2) (.ofSymbol .assign)))) ∧
    ∀ source : String, (∀ c ∈ source.toList, c = '!' ∨ c = '=') →
      (operatorRuns source.toList).flatten = source.toList ∧
      (∀ p ∈ operatorRuns source.toList, p ≠ [] ∧ ∃ m n, p = operatorRun m n) ∧
      ((operatorRuns source.toList).IsChain fun p q =>
        p.getLast? = some '=' ∧ q.head? = some '!') ∧
      tokensOf source = (operatorRuns source.toList).flatMap fun p => tokensOf (.ofList p) := by
  constructor
  · intro m n
    refine ⟨?_, ?_, fun hm hn => ?_⟩
    · rintro rfl
      have hnil : tokensOf (.ofList []) = [] := by decide +kernel
      rw [operatorRun, List.replicate_zero, tokensOf_replicate_bang m (by simp), hnil,
        List.append_nil]
    · rintro rfl
      exact tokensOf_replicate_equals n
    · obtain ⟨m, rfl⟩ := Nat.exists_eq_add_of_le' hm
      obtain ⟨n, rfl⟩ := Nat.exists_eq_add_of_le' hn
      exact tokensOf_operatorRun_succ m n
  · intro source hsource
    have hflatten : (operatorRuns source.toList).flatten = source.toList :=
      List.flatten_splitBy _ _
    have hmem : ∀ p ∈ operatorRuns source.toList, ∀ c ∈ p, c = '!' ∨ c = '=' := by
      intro p hp c hc
      apply hsource
      rw [← hflatten]
      exact List.mem_flatten.2 ⟨p, hp, hc⟩
    have hchain := isChain_operatorRuns source.toList
    refine ⟨hflatten, fun p hp => ⟨?_, ?_⟩, hchain, ?_⟩
    · exact List.ne_nil_of_mem_splitBy hp
    · exact exists_eq_operatorRun (hmem p hp) (List.isChain_of_mem_splitBy hp)
    · have hq : ∀ p ∈ operatorRuns source.toList, '"' ∉ p := by
        intro p hp hquote
        rcases hmem p hp _ hquote with h | h <;> cases h
      rw [← tokensOf_flatten hq (hchain.imp fun _ _ h => h.2), hflatten, String.ofList_toList]

/-- The `=` in front makes no pair with one behind the `!`. -/
theorem tokensOf_operatorRuns_split :
    (∀ c ∈ "=!!====!=".toList, c = '!' ∨ c = '=') ∧
      operatorRuns "=!!====!=".toList = [operatorRun 0 1, operatorRun 2 4, operatorRun 1 1] ∧
      tokensOf (.ofList (operatorRun 2 4)) =
        [.ofSymbol .bang, .ofSymbol .notEqual, .ofSymbol .equal, .ofSymbol .assign] ∧
      tokensOf "=!!====!=" =
        [.ofSymbol .assign, .ofSymbol .bang, .ofSymbol .notEqual, .ofSymbol .equal,
          .ofSymbol .assign, .ofSymbol .notEqual] := by
  have hsource : ∀ c ∈ "=!!====!=".toList, c = '!' ∨ c = '=' := by
    simp
  have hruns : operatorRuns "=!!====!=".toList =
      [operatorRun 0 1, operatorRun 2 4, operatorRun 1 1] := by decide +kernel
  have hpair := ((tokensOf_operatorRuns.1 2 4).2.2 (by decide) (by decide))
  have htokens := (tokensOf_operatorRuns.2 "=!!====!=" hsource).2.2.2
  rw [hruns] at htokens
  refine ⟨hsource, hruns, hpair, htokens.trans ?_⟩
  decide +kernel

end ScriptFront
