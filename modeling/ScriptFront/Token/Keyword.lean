/-!
# Keywords

The words that the language reserves. A word is a keyword only if it is spelled exactly like one:
`Let` and `lets` are not.
-/

namespace ScriptFront

/-- A reserved word. -/
inductive Keyword where
  /-- Opens a function. -/
  | function
  /-- Binds a name. -/
  | binding
  deriving DecidableEq

namespace Keyword

/-- The text that the keyword is written as. -/
def spelling : Keyword → String
  | function => "fn"
  | binding => "let"

/-- The name of the keyword among the token kinds. -/
def name : Keyword → String
  | function => "FUNCTION"
  | binding => "LET"

/-- The keyword that a word is. -/
def ofWord? (word : String) : Option Keyword :=
  if word = function.spelling then some function
  else if word = binding.spelling then some binding
  else none

theorem ofWord?_eq_some_iff {word : String} {k : Keyword} :
    ofWord? word = some k ↔ word = k.spelling := by
  unfold ofWord?
  split
  · subst word
    cases k <;> simp [spelling]
  · split
    · subst word
      cases k <;> simp [spelling]
    · cases k <;> simp_all

end Keyword

end ScriptFront
