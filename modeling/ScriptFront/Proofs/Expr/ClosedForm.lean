import ScriptFront.Expr.Form
import ScriptFront.Expr.Render

/-!
# Rendering in closed form

The text of an expression is the text of its innermost operand (`Expr.leafText?`) between the
operators, each with an opening parenthesis in front of it, and as many closing ones
(`Expr.enclose`). There is a text exactly if the innermost operand is no operator, and the operator
that is reported otherwise is the innermost one (`Expr.render_iff`). All that the text depends on
are the operators, the names and texts of the leaves and the literals of integers
(`Expr.SameText`).
-/

namespace ScriptFront.Expr

/-- The text of an expression without an operator in front: the name of an identifier, the text of a
string, and the literal of an integer, whatever its value is. -/
def leafText? : Expr → Option String
  | identifier _ name => some name
  | integer t _ => some t.literal
  | string _ text => some text
  | pending _ => none
  | applied _ _ => none

/-- A text with the operators in front of it, each after an opening parenthesis, and the closing
parentheses behind it. -/
def enclose (ops : List PrefixOp) (inner : String) : String :=
  String.join (ops.map fun op => "(" ++ op.operator) ++ inner ++
    String.join (.replicate ops.length ")")

/-- The expressions differ at most in tokens that are not written, those of operators, identifiers
and strings, and in the values of integers. -/
inductive SameText : Expr → Expr → Prop where
  | identifier (t t' : Token) (name : String) :
      SameText (.identifier t name) (.identifier t' name)
  | integer (t : Token) (v v' : Int64) : SameText (.integer t v) (.integer t v')
  | string (t t' : Token) (text : String) : SameText (.string t text) (.string t' text)
  | pending (t t' : Token) (operator : String) :
      SameText (.pending ⟨t, operator⟩) (.pending ⟨t', operator⟩)
  | applied (t t' : Token) (operator : String) {e e' : Expr} (operand : SameText e e') :
      SameText (.applied ⟨t, operator⟩ e) (.applied ⟨t', operator⟩ e')

variable {e e' : Expr}

/-! ### The chain of operands -/

/-- The innermost operand is a leaf or an operator without operand. -/
theorem innermost_cases (e : Expr) :
    (∃ inner, e.innermost.leafText? = some inner) ∨ ∃ op, e.innermost = pending op := by
  induction e with
  | identifier _ name => exact Or.inl ⟨name, rfl⟩
  | integer t _ => exact Or.inl ⟨t.literal, rfl⟩
  | string _ text => exact Or.inl ⟨text, rfl⟩
  | pending op => exact Or.inr ⟨op, rfl⟩
  | applied _ _ ih => exact ih

theorem enclose_cons (op : PrefixOp) (ops : List PrefixOp) (inner : String) :
    enclose (op :: ops) inner = "(" ++ op.operator ++ enclose ops inner ++ ")" := by
  simp [enclose, List.replicate_succ', String.append_assoc]

/-! ### The text and the missing operand -/

theorem render_of_leafText? {inner : String} (h : e.innermost.leafText? = some inner) :
    e.render = .ok (enclose e.operators inner) := by
  induction e with
  | applied op operand ih =>
    rw [render, ih h, operators, enclose_cons]
    rfl
  | pending op => cases h
  | _ =>
    obtain rfl := Option.some.inj h
    simp [render, operators, enclose]

/-- However many operators stand in front, the error is that of the innermost one. -/
theorem render_of_pending {op : PrefixOp} (h : e.innermost = pending op) :
    e.render = .error (.missingOperand op.operator) := by
  induction e with
  | applied _ operand ih =>
    rw [render, ih h]
    rfl
  | pending _ =>
    cases h
    rfl
  | _ => cases h

theorem render_eq_ok_iff {text : String} : e.render = .ok text ↔
    ∃ inner, e.innermost.leafText? = some inner ∧ text = enclose e.operators inner := by
  rcases e.innermost_cases with ⟨inner, h⟩ | ⟨op, h⟩
  · rw [render_of_leafText? h, h]
    simp [eq_comm]
  · rw [render_of_pending h, h]
    simp [leafText?]

theorem render_eq_error_iff {err : ExprError} : e.render = .error err ↔
    ∃ op, e.innermost = pending op ∧ err = .missingOperand op.operator := by
  rcases e.innermost_cases with ⟨inner, h⟩ | ⟨op, h⟩
  · have hne (op : PrefixOp) : e.innermost ≠ pending op := fun heq => by
      rw [heq] at h
      cases h
    rw [render_of_leafText? h]
    simp [hne]
  · rw [render_of_pending h, h]
    simp [eq_comm]

/-! ### Writing it -/

theorem writeTo_eq_true_iff {out out' : String} : e.writeTo out = (true, out') ↔
    ∃ text, e.render = .ok text ∧ out' = out ++ text := by
  unfold writeTo
  cases e.render with
  | ok text => simp [eq_comm]
  | error err => simp

theorem writeTo_eq_false_iff {out out' : String} : e.writeTo out = (false, out') ↔
    (∃ err, e.render = .error err) ∧ out' = out := by
  unfold writeTo
  cases e.render with
  | ok text => simp
  | error err => simp [eq_comm]

/-! ### What the text depends on -/

theorem SameText.render_eq (h : SameText e e') : e'.render = e.render := by
  induction h with
  | applied t t' operator _ ih => rw [render, render, ih]
  | _ => rfl

theorem SameText.writeTo_eq (h : SameText e e') (out : String) :
    e'.writeTo out = e.writeTo out := by
  rw [writeTo, h.render_eq, writeTo]

/-- An expression has a text exactly if the innermost operand is a leaf, and the text is that of the
leaf with all operators around it. Without a leaf, the innermost operator is reported. What is
written anywhere is the text or, if there is none, nothing; and tokens that are not written and the
values of integers make no difference. -/
theorem render_iff (e : Expr) :
    (∀ text, e.render = .ok text ↔
        ∃ inner, e.innermost.leafText? = some inner ∧ text = enclose e.operators inner) ∧
      (∀ err, e.render = .error err ↔
        ∃ op, e.innermost = pending op ∧ err = .missingOperand op.operator) ∧
      (∀ out out', e.writeTo out = (true, out') ↔
        ∃ text, e.render = .ok text ∧ out' = out ++ text) ∧
      (∀ out out', e.writeTo out = (false, out') ↔
        (∃ err, e.render = .error err) ∧ out' = out) ∧
      ∀ e', SameText e e' → e'.render = e.render ∧ ∀ out, e'.writeTo out = e.writeTo out :=
  ⟨fun _ => render_eq_ok_iff, fun _ => render_eq_error_iff, fun _ _ => writeTo_eq_true_iff,
    fun _ _ => writeTo_eq_false_iff, fun _ h => ⟨h.render_eq, h.writeTo_eq⟩⟩

/-- Operators and an integer whose parts do not agree with each other. -/
def overwritten (inner outer : Token) (value : Int64) : Expr :=
  applied ⟨outer, ")"⟩ (applied ⟨inner, "-x"⟩ (integer ⟨.string, "007"⟩ value))

theorem render_iff_overwritten :
    SameText (overwritten (.ofSymbol .plus) .endOfInput 7) (overwritten .endOfInput .endOfInput 8) ∧
      (overwritten (.ofSymbol .plus) .endOfInput 7).render = .ok "()(-x007))" ∧
      (overwritten .endOfInput .endOfInput 8).render =
        (overwritten (.ofSymbol .plus) .endOfInput 7).render ∧
      (overwritten (.ofSymbol .plus) .endOfInput 7).writeTo "e = " =
        (true, "e = " ++ "()(-x007))") := by
  have hsame : SameText (overwritten (.ofSymbol .plus) .endOfInput 7)
      (overwritten .endOfInput .endOfInput 8) :=
    .applied _ _ _ (.applied _ _ _ (.integer _ _ _))
  obtain ⟨hok, -, hwrite, -, halike⟩ := render_iff (overwritten (.ofSymbol .plus) .endOfInput 7)
  have htext := (hok "()(-x007))").2 ⟨"007", rfl, by decide +kernel⟩
  exact ⟨hsame, htext, (halike _ hsame).1, (hwrite _ _).2 ⟨_, htext, rfl⟩⟩

end ScriptFront.Expr
