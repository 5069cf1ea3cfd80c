import ScriptFront.Expr.Render

/-!
# Workspaces of expressions

A workspace keeps expressions under names. They are put together step by step (`Workspace.perform`):
a step makes an expression from a token, or from copies of the expressions under other names, or
overwrites a part of one. What is kept under one name never changes with another. A step that fails
leaves the workspace as it was.
-/

namespace ScriptFront

/-- A new content for a part of the first node of an expression. -/
inductive Expr.Edit where
  | token (t : Token)
  /-- The name of an identifier, the text of a string, or the number of an integer in decimal. -/
  | value (text : String)
  /-- The text of a prefix operator. -/
  | operator (text : String)

/-- Overwrites a part of the first node, which must have such a part. All else stays. -/
def Expr.edit? : Expr → Expr.Edit → Option Expr
  | identifier _ name, .token t => some (identifier t name)
  | integer _ v, .token t => some (integer t v)
  | string _ text, .token t => some (string t text)
  | pending op, .token t => some (pending { op with token := t })
  | applied op operand, .token t => some (applied { op with token := t } operand)
  | identifier t _, .value text => some (identifier t text)
  | integer t _, .value text => (Decimal.read? text).map (integer t)
  | string t _, .value text => some (string t text)
  | pending op, .operator text => some (pending { op with operator := text })
  | applied op operand, .operator text => some (applied { op with operator := text } operand)
  | _, _ => none

/-- Expressions under names; of two under one name the first counts. -/
structure Workspace where
  slots : List (String × Expr)

namespace Workspace

/-- The workspace without expressions. -/
def empty : Workspace :=
  ⟨[]⟩

/-- The expression under a name. -/
def get? (w : Workspace) (slot : String) : Option Expr :=
  w.slots.lookup slot

/-- Keeps an expression under a name, in place of the one that was there. -/
def put (w : Workspace) (slot : String) (e : Expr) : Workspace :=
  ⟨(slot, e) :: w.slots⟩

theorem get?_put (w : Workspace) (slot other : String) (e : Expr) :
    (w.put slot e).get? other = if other = slot then some e else w.get? other := by
  by_cases h : other = slot
  · simp [get?, put, h]
  · have hb : (other == slot) = false := beq_eq_false_iff_ne.2 h
    simp [get?, put, h, hb, List.lookup_cons]

/-- What to do with the expression of one slot. -/
inductive Action where
  /-- Make an identifier. -/
  | identifier (t : Token)
  /-- Make a string. -/
  | string (t : Token)
  /-- Make an integer. -/
  | integer (t : Token)
  /-- Make a prefix expression without operand, whatever the token is. -/
  | operator (t : Token) (operator : String)
  /-- Make a prefix expression without operand from an operator token. -/
  | operatorOf (t : Token)
  /-- Take the expression of another slot. -/
  | copy (source : String)
  /-- Attach the expression of another slot as operand. -/
  | setOperand (source : String)
  /-- Take the expression of the slot `base` with that of the slot `source` as operand. -/
  | withOperand (base source : String)
  /-- Take the operand of the expression of another slot. -/
  | takeOperand (source : String)
  /-- Overwrite a part. -/
  | edit (e : Expr.Edit)
  /-- Leave it as it is. -/
  | look
  /-- Compare with the expression of another slot. -/
  | equal (source : String)

/-- The answer to an action. -/
inductive Reply where
  /-- The expression that the slot now holds. -/
  | expression (e : Expr)
  /-- The operand that was asked for is not there. -/
  | noOperand
  | verdict (equal : Bool)
  | error (err : ExprError)
  /-- A slot holds no expression, or none of the form that the action needs. -/
  | unfit

/-- The answer to an action on a slot, before anything is kept. -/
def answer (w : Workspace) (slot : String) : Action → Reply
  | .identifier t => .expression (Expr.ofName t)
  | .string t => .expression (Expr.ofText t)
  | .integer t => ofExcept (Expr.ofDigits t)
  | .operator t op => .expression (.pending ⟨t, op⟩)
  | .operatorOf t => ofExcept ((PrefixOp.ofToken t).map .pending)
  | .copy source => ofOption (w.get? source)
  | .setOperand source => attach slot source
  | .withOperand base source => attach base source
  | .takeOperand source =>
    match (w.get? source).bind fun e => e.prefixOp?.map fun _ => e.operand? with
    | some (some operand) => .expression operand
    | some none => .noOperand
    | none => .unfit
  | .edit e => ofOption ((w.get? slot).bind (·.edit? e))
  | .look => ofOption (w.get? slot)
  | .equal source =>
    match w.get? slot, w.get? source with
    | some a, some b => .verdict (a == b)
    | _, _ => .unfit
where
  ofExcept : Except ExprError Expr → Reply
    | .ok e => .expression e
    | .error err => .error err
  ofOption : Option Expr → Reply
    | some e => .expression e
    | none => .unfit
  attach (base source : String) : Reply :=
    match w.get? base, w.get? source with
    | some e, some operand => ofOption (e.attach? operand)
    | _, _ => .unfit

/-- Answers an action on a slot, and keeps the expression that it gives there. -/
def perform (w : Workspace) (slot : String) (a : Action) : Reply × Workspace :=
  match w.answer slot a with
  | .expression e => (.expression e, w.put slot e)
  | r => (r, w)

/-- Answers actions in their order. -/
def run (w : Workspace) : List (String × Action) → List Reply
  | [] => []
  | (slot, a) :: rest =>
    let (r, next) := w.perform slot a
    r :: next.run rest

end Workspace

end ScriptFront
