import ScriptFront.Expr.Error
import ScriptFront.Proofs.Text.Quoted
import ScriptFront.Proofs.Token.Display

/-!
# Telling errors by their messages

The first letter of a message tells what is wrong, and the rest of it with what: no two errors have
the same message (`ExprError.message_injective`).
-/

namespace ScriptFront

theorem Kind.name_injective : Function.Injective Kind.name := by
  intro k k' h
  apply stem_injective
  rw [stem, stem, h]

namespace ExprError

/-- The letter that the message starts with. -/
def initial : ExprError → Char
  | missingOperand _ => 'p'
  | notPrefixOperator _ => 't'
  | invalidInteger _ => 'c'

theorem message_missingOperand (op : String) :
    (missingOperand op).message = "prefix expression `" ++ op ++ "` has no operand" :=
  rfl

theorem message_notPrefixOperator (k : Kind) :
    (notPrefixOperator k).message = "token " ++ k.name ++ " is not a prefix operator" :=
  rfl

theorem message_invalidInteger (text : String) :
    (invalidInteger text).message = "could not parse " ++ Quoted.ofString text ++ " as integer" :=
  rfl

theorem head?_message (e : ExprError) : e.message.toList.head? = some e.initial := by
  cases e with
  | missingOperand op => simp [message_missingOperand, initial]
  | notPrefixOperator k => simp [message_notPrefixOperator, initial]
  | invalidInteger text => simp [message_invalidInteger, initial]

theorem message_injective : Function.Injective message := by
  intro e e' h
  have hinitial : e.initial = e'.initial := by
    rw [← Option.some_inj, ← head?_message, h, head?_message]
  cases e with
  | missingOperand op =>
    cases e' with
    | missingOperand op' =>
      simp only [message_missingOperand, String.append_left_inj, String.append_right_inj] at h
      rw [h]
    | _ => cases hinitial
  | notPrefixOperator k =>
    cases e' with
    | notPrefixOperator k' =>
      simp only [message_notPrefixOperator, String.append_left_inj, String.append_right_inj] at h
      rw [Kind.name_injective h]
    | _ => cases hinitial
  | invalidInteger text =>
    cases e' with
    | invalidInteger text' =>
      simp only [message_invalidInteger, String.append_left_inj, String.append_right_inj] at h
      rw [Quoted.ofString_inj.1 h]
    | _ => cases hinitial

end ExprError

end ScriptFront
