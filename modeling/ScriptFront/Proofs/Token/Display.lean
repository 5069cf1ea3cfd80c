import Mathlib.Data.List.Nodup
import ScriptFront.Token.Basic

/-!
# Telling tokens by their display

The display of a token shows its literal as it is, parentheses included, and some kinds have
parentheses for their names. Still no two tokens are displayed alike (`Token.display_inj`): up to
the first opening parenthesis a display shows the name of the kind, or nothing if the parenthesis is
itself the name (`Kind.stem`), and these are different for any two kinds (`Kind.nodup_map_stem`).
-/

namespace ScriptFront

/-- All symbols. -/
def Symbol.all : List Symbol :=
  [assign, plus, minus, bang, asterisk, slash, less, greater, equal, notEqual, comma, semicolon,
    colon, leftParen, rightParen, leftBrace, rightBrace, leftBracket, rightBracket]

theorem Symbol.mem_all (s : Symbol) : s ∈ all := by
  cases s <;> decide

namespace Kind

/-- All kinds. -/
def all : List Kind :=
  [illegal, endOfInput, identifier, integer, string, keyword .function, keyword .binding] ++
    Symbol.all.map symbol

/-- The name of the kind up to the first opening parenthesis. -/
def stem (k : Kind) : List Char :=
  k.name.toList.takeWhile (· != '(')

theorem mem_all (k : Kind) : k ∈ all := by
  cases k with
  | symbol s => exact List.mem_append_right _ (List.mem_map_of_mem s.mem_all)
  | keyword k => cases k <;> decide
  | _ => decide

theorem nodup_map_stem : (all.map stem).Nodup := by
  decide +kernel

theorem stem_injective : Function.Injective stem := fun k k' h =>
  List.inj_on_of_nodup_map nodup_map_stem k.mem_all k'.mem_all h

end Kind

/-- What follows the first opening parenthesis does not matter up to there. -/
theorem takeWhile_append_paren (cs rest : List Char) :
    (cs ++ '(' :: rest).takeWhile (· != '(') = cs.takeWhile (· != '(') := by
  induction cs with
  | nil => rfl
  | cons c cs ih =>
    rw [List.cons_append, List.takeWhile_cons, List.takeWhile_cons, ih]

namespace Token

theorem takeWhile_display (t : Token) :
    t.display.toList.takeWhile (· != '(') = t.kind.stem := by
  have hlist : t.display.toList = t.kind.name.toList ++ '(' :: (t.literal.toList ++ [')']) := by
    simp [display]
  rw [hlist, takeWhile_append_paren, Kind.stem]

theorem display_inj {t u : Token} : t.display = u.display ↔ t = u := by
  constructor
  · intro h
    have hkind : t.kind = u.kind := by
      apply Kind.stem_injective
      rw [← takeWhile_display, h, takeWhile_display]
    rw [display, display, hkind, String.append_left_inj, String.append_right_inj] at h
    cases t
    cases u
    congr
  · rintro rfl
    rfl

/-- The first parenthesis is the name of the kind, and the second one opens the literal. -/
example : (Token.mk (.symbol .leftParen) "IDENT(x)").display = "((IDENT(x))" := by decide +kernel

end Token

end ScriptFront
