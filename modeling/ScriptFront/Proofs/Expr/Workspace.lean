import ScriptFront.Expr.Workspace
import ScriptFront.Proofs.Text.Numeral

/-!
# What steps do to a workspace

A step changes no name but its own, and that one only if it gives an expression
(`Workspace.get?_perform`); a step that fails can be left out (`Workspace.eraseIdx_run_of_failed`).
What a step answers depends on the names that it reads and on no others (`Workspace.answer_congr`).
So among names of which the steps read no others, all goes as if there were no other steps
(`Workspace.run_filter`).

To overwrite a part of an expression loses nothing but what the part was: if that is written back,
the old expression is there again (`Expr.edit?_eq_some`).
-/

namespace ScriptFront

/-! ### Overwritten parts -/

/-- The edits are of the same part of an expression. -/
def Expr.Edit.SamePart : Edit → Edit → Prop
  | token _, token _ => True
  | value _, value _ => True
  | operator _, operator _ => True
  | _, _ => False

/-- The part of the expression is what the edit would make it. -/
def Expr.HasPart : Expr → Edit → Prop
  | e, .token t => e.token = t
  | identifier _ name, .value text => name = text
  | integer _ v, .value text => Decimal.read? text = some v
  | string _ text, .value text' => text = text'
  | pending op, .operator text => op.operator = text
  | applied op _, .operator text => op.operator = text
  | _, _ => False

/-- An edit makes the part what it says, and to write back what the part was gives the old
expression. -/
theorem Expr.edit?_eq_some {e e' : Expr} {d : Edit} (h : e.edit? d = some e') :
    e'.HasPart d ∧ ∃ d', d'.SamePart d ∧ e.HasPart d' ∧ e'.edit? d' = some e := by
  cases d with
  | token t =>
    cases e <;> cases h <;> exact ⟨rfl, .token _, trivial, rfl, rfl⟩
  | value text =>
    cases e with
    | identifier t name =>
      cases h
      exact ⟨rfl, .value name, trivial, rfl, rfl⟩
    | integer t v =>
      obtain ⟨w, hw, rfl⟩ := Option.map_eq_some_iff.1 h
      have hread : Decimal.read? (Decimal.write v) = some v :=
        Decimal.read?_eq_some_iff.2 (Decimal.writes_write v)
      refine ⟨hw, .value (Decimal.write v), trivial, hread, ?_⟩
      rw [edit?, hread, Option.map_some]
    | string t text' =>
      cases h
      exact ⟨rfl, .value text', trivial, rfl, rfl⟩
    | _ => cases h
  | operator text =>
    cases e with
    | pending op =>
      cases h
      exact ⟨rfl, .operator op.operator, trivial, rfl, rfl⟩
    | applied op operand =>
      cases h
      exact ⟨rfl, .operator op.operator, trivial, rfl, rfl⟩
    | _ => cases h

namespace Workspace

/-- The expression that an answer gives. -/
def Reply.expression? : Reply → Option Expr
  | expression e => some e
  | _ => none

/-- The names that an action on a slot reads. -/
def Action.reads (slot : String) : Action → List String
  | identifier _ => []
  | string _ => []
  | integer _ => []
  | operator _ _ => []
  | operatorOf _ => []
  | copy source => [source]
  | setOperand source => [slot, source]
  | withOperand base source => [base, source]
  | takeOperand source => [source]
  | edit _ => [slot]
  | look => [slot]
  | equal source => [slot, source]

/-- The workspace after some steps. -/
def after (w : Workspace) (steps : List (String × Action)) : Workspace :=
  steps.foldl (fun w step => (w.perform step.1 step.2).2) w

variable {w w' : Workspace} {slot : String} {a : Action}

/-! ### One step -/

theorem perform_eq (w : Workspace) (slot : String) (a : Action) :
    w.perform slot a =
      (w.answer slot a, (w.answer slot a).expression?.elim w (w.put slot)) := by
  unfold perform
  cases w.answer slot a <;> rfl

/-- A step that fails leaves the workspace as it was. -/
theorem perform_of_failed (h : (w.answer slot a).expression? = none) :
    w.perform slot a = (w.answer slot a, w) := by
  rw [perform_eq, h]
  rfl

/-- A step keeps the expression that it gives under its own name, and all else stays. -/
theorem get?_perform (w : Workspace) (slot other : String) (a : Action) :
    (w.perform slot a).2.get? other =
      if other = slot then (w.answer slot a).expression?.or (w.get? slot) else w.get? other := by
  rw [perform_eq]
  cases (w.answer slot a).expression? with
  | none =>
    rw [Option.elim_none, Option.none_or]
    split
    · rename_i heq
      rw [heq]
    · rfl
  | some e => rw [Option.elim_some, get?_put, Option.some_or]

theorem get?_perform_of_ne {other : String} (h : other ≠ slot) :
    (w.perform slot a).2.get? other = w.get? other := by
  rw [get?_perform, if_neg h]

theorem answer_congr (h : ∀ name ∈ a.reads slot, w.get? name = w'.get? name) :
    w.answer slot a = w'.answer slot a := by
  cases a with
  | setOperand source | withOperand _ source | equal source =>
    obtain ⟨hfirst, hsource⟩ := List.forall_mem_cons.1 h
    simp only [answer, answer.attach, hfirst, hsource source List.mem_cons_self]
  | copy source | takeOperand source =>
    simp only [answer, h source List.mem_cons_self]
  | edit _ | look =>
    simp only [answer, h slot List.mem_cons_self]
  | _ => rfl

/-- Two workspaces that agree on some names still do after a step that reads no others. -/
theorem get?_perform_congr {p : String → Bool}
    (h : ∀ name, p name = true → w.get? name = w'.get? name)
    (hreads : ∀ name ∈ a.reads slot, p name = true) {name : String} (hname : p name = true) :
    (w.perform slot a).2.get? name = (w'.perform slot a).2.get? name := by
  have hanswer : w.answer slot a = w'.answer slot a :=
    answer_congr fun name hmem => h name (hreads name hmem)
  rw [get?_perform, get?_perform, hanswer, h name hname]
  split
  · rename_i heq
    rw [← heq, h name hname]
  · rfl

/-! ### Many steps -/

theorem run_append (w : Workspace) (steps steps' : List (String × Action)) :
    w.run (steps ++ steps') = w.run steps ++ (w.after steps).run steps' := by
  induction steps generalizing w with
  | nil => rfl
  | cons step steps ih => exact congrArg (_ :: ·) (ih _)

/-- A name keeps its expression as long as no step is on it. -/
theorem get?_after_of_notMem {steps : List (String × Action)} (h : slot ∉ steps.map (·.1)) :
    (w.after steps).get? slot = w.get? slot := by
  induction steps generalizing w with
  | nil => rfl
  | cons step steps ih =>
    rw [List.map_cons, List.mem_cons, not_or] at h
    exact (ih h.2).trans (get?_perform_of_ne h.1)

theorem length_run (w : Workspace) (steps : List (String × Action)) :
    (w.run steps).length = steps.length := by
  induction steps generalizing w with
  | nil => rfl
  | cons step steps ih => exact congrArg Nat.succ (ih _)

/-- The steps before and behind a step that fails are answered as they are without it. -/
theorem eraseIdx_run_of_failed {steps steps' : List (String × Action)}
    (h : ((w.after steps).answer slot a).expression? = none) :
    (w.run (steps ++ (slot, a) :: steps')).eraseIdx steps.length = w.run (steps ++ steps') := by
  have hle : (w.run steps).length ≤ steps.length := Nat.le_of_eq (length_run w steps)
  rw [run_append, run_append, run, perform_of_failed h, List.eraseIdx_append_of_length_le hle,
    length_run, Nat.sub_self, List.eraseIdx_cons_zero]

theorem run_filter_of_agree {p : String → Bool} {steps : List (String × Action)}
    (hreads : ∀ step ∈ steps, p step.1 = true → ∀ name ∈ step.2.reads step.1, p name = true)
    (h : ∀ name, p name = true → w.get? name = w'.get? name) :
    ((steps.zip (w.run steps)).filter fun x => p x.1.1).map (·.2) =
      w'.run (steps.filter fun step => p step.1) := by
  induction steps generalizing w w' with
  | nil => rfl
  | cons step steps ih =>
    obtain ⟨hstep, hsteps⟩ := List.forall_mem_cons.1 hreads
    obtain ⟨slot, a⟩ := step
    rw [run, List.zip_cons_cons, List.filter_cons, List.filter_cons]
    by_cases hp : p slot = true
    · have hanswer : (w.perform slot a).1 = (w'.perform slot a).1 := by
        rw [perform_eq, perform_eq]
        exact answer_congr fun name hname => h name (hstep hp name hname)
      rw [if_pos hp, if_pos hp, List.map_cons, run, hanswer]
      congr 1
      exact ih hsteps fun name hname => get?_perform_congr h (hstep hp) hname
    · rw [if_neg hp, if_neg hp]
      refine ih hsteps fun name hname => ?_
      rw [get?_perform_of_ne, h name hname]
      rintro rfl
      exact hp hname

/-- Among names of which the steps on them read no others, the answers are those that the steps on
these names get alone. -/
theorem run_filter (w : Workspace) {p : String → Bool} {steps : List (String × Action)}
    (hreads : ∀ step ∈ steps, p step.1 = true → ∀ name ∈ step.2.reads step.1, p name = true) :
    ((steps.zip (w.run steps)).filter fun x => p x.1.1).map (·.2) =
      w.run (steps.filter fun step => p step.1) :=
  run_filter_of_agree hreads fun _ _ => rfl

end Workspace

end ScriptFront
