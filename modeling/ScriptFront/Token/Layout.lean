import ScriptFront.Token.Form

/-!
# Layouts of tokens

A layout is a list of tokens with the gap of blanks behind each of them. Its text is what the tokens
are read back from; they are only if clashing neighbours are kept apart (`Layout.Separated`).
-/

namespace ScriptFront

/-- Tokens, each with the gap behind it. -/
abbrev Layout := List (Token × String)

namespace Layout

/-- The tokens without the gaps. -/
def tokens (l : Layout) : List Token :=
  l.map Prod.fst

/-- The layout of tokens without any blanks. -/
def ofTokens (ts : List Token) : Layout :=
  ts.map fun t => (t, "")

/-- The text of the tokens and gaps. -/
def text : Layout → String
  | [] => ""
  | (t, gap) :: rest => t.lexeme ++ gap ++ text rest

/-- A gap holds nothing but blanks. -/
def IsGap (gap : String) : Prop :=
  ∀ c ∈ gap.toList, isBlank c = true

/-- All tokens are well-formed, and all gaps are gaps. -/
def WellFormed (l : Layout) : Prop :=
  ∀ p ∈ l, p.1.WellFormed ∧ IsGap p.2

/-- The gap between clashing neighbours is not empty. -/
def Separated : Layout → Prop
  | (t, gap) :: (u, gap') :: rest => (t.Clash u → gap ≠ "") ∧ Separated ((u, gap') :: rest)
  | _ => True

@[simp] theorem tokens_ofTokens (ts : List Token) : (ofTokens ts).tokens = ts := by
  simp [tokens, ofTokens, List.map_map, Function.comp_def]

theorem text_ofTokens (ts : List Token) :
    (ofTokens ts).text = String.join (ts.map Token.lexeme) := by
  induction ts with
  | nil => rfl
  | cons t ts ih =>
    rw [List.map_cons, String.join_cons, ← ih]
    simp [ofTokens, text]

theorem separated_of_pairwise {l : Layout} (h : l.tokens.Pairwise fun t u => ¬ t.Clash u) :
    l.Separated := by
  induction l with
  | nil => trivial
  | cons p l ih =>
    obtain ⟨hp, hl⟩ := List.pairwise_cons.1 h
    cases l with
    | nil => trivial
    | cons q l => exact ⟨fun hclash => absurd hclash (hp q.1 List.mem_cons_self), ih hl⟩

end Layout

end ScriptFront
