import Superstep.Expression.Condition

/-! # Conditions as propositions

Whether an expression counts as true is one of three things: it does, it does not, or there
is no value to tell. `!` passes on the last of them, and `&&`, `||` and choices stop at
their first operand where it decides or has no value. So the laws of propositions hold as
results, with the errors, as long as they keep the order of what is evaluated.
-/

namespace Superstep.Expression

open Json (Value)

/-- Whether the value of an expression counts as true, if there is one. -/
def Expr.verdict (context : Context) (e : Expr) : Except EvalError Bool := do
  let v ← e.eval context
  .ok (truthy v)

section

variable (context : Context) (a b c : Expr)

theorem Expr.holds_iff : a.holds context = true ↔ a.verdict context = .ok true := by
  unfold Expr.holds Expr.verdict
  cases a.eval context <;> simp [bind, Except.bind]

theorem verdict_eq_ok_iff {d : Bool} :
    a.verdict context = .ok d ↔ ∃ v, a.eval context = .ok v ∧ truthy v = d := by
  unfold Expr.verdict
  cases a.eval context <;> simp [bind, Except.bind]

theorem eval_unary (op : UnaryOp) : (Expr.unary op a).eval context = (do
    let v ← a.eval context
    applyUnary op v) := rfl

theorem eval_both : (Expr.binary .both a b).eval context = (do
    let v ← a.eval context
    if truthy v then b.eval context else .ok v) := rfl

theorem eval_either : (Expr.binary .either a b).eval context = (do
    let v ← a.eval context
    if truthy v then .ok v else b.eval context) := rfl

theorem eval_choice : (Expr.choice a b c).eval context = (do
    let d ← a.verdict context
    if d then b.eval context else c.eval context) := by
  show (do
    let v ← a.eval context
    if truthy v then b.eval context else c.eval context) = _
  unfold Expr.verdict
  cases a.eval context <;> rfl

theorem eval_not : (Expr.unary .not a).eval context = (do
    let d ← a.verdict context
    .ok (.bool !d)) := by
  rw [eval_unary, Expr.verdict]
  cases a.eval context <;> rfl

theorem verdict_not : (Expr.unary .not a).verdict context = (do
    let d ← a.verdict context
    .ok !d) := by
  rw [Expr.verdict, eval_unary, Expr.verdict]
  cases a.eval context <;> rfl

theorem verdict_both : (Expr.binary .both a b).verdict context = (do
    let d ← a.verdict context
    if d then b.verdict context else .ok false) := by
  simp only [Expr.verdict, eval_both]
  cases a.eval context with
  | error => rfl
  | ok v => cases truth : truthy v <;> simp [bind, Except.bind, truth]

theorem verdict_either : (Expr.binary .either a b).verdict context = (do
    let d ← a.verdict context
    if d then .ok true else b.verdict context) := by
  simp only [Expr.verdict, eval_either]
  cases a.eval context with
  | error => rfl
  | ok v => cases truth : truthy v <;> simp [bind, Except.bind, truth]

/-! ## Laws of results -/

theorem eval_not_both : (Expr.unary .not (.binary .both a b)).eval context =
    (Expr.binary .either (.unary .not a) (.unary .not b)).eval context := by
  rw [eval_not, verdict_both, eval_either, eval_not, eval_not]
  rcases a.verdict context with _ | _ | _ <;> rfl

theorem eval_not_either : (Expr.unary .not (.binary .either a b)).eval context =
    (Expr.binary .both (.unary .not a) (.unary .not b)).eval context := by
  rw [eval_not, verdict_either, eval_both, eval_not, eval_not]
  rcases a.verdict context with _ | _ | _ <;> rfl

theorem eval_both_assoc : (Expr.binary .both (.binary .both a b) c).eval context =
    (Expr.binary .both a (.binary .both b c)).eval context := by
  simp only [eval_both]
  cases a.eval context with
  | error => rfl
  | ok v => cases truth : truthy v <;> simp [bind, Except.bind, truth]

theorem eval_either_assoc : (Expr.binary .either (.binary .either a b) c).eval context =
    (Expr.binary .either a (.binary .either b c)).eval context := by
  simp only [eval_either]
  cases a.eval context with
  | error => rfl
  | ok v => cases truth : truthy v <;> simp [bind, Except.bind, truth]

theorem eval_choice_not : (Expr.choice (.unary .not a) b c).eval context =
    (Expr.choice a c b).eval context := by
  rw [eval_choice, verdict_not, eval_choice]
  rcases a.verdict context with _ | _ | _ <;> rfl

/-! ## What holds -/

theorem holds_both_iff : (Expr.binary .both a b).holds context = true ↔
    a.holds context = true ∧ b.holds context = true := by
  simp only [Expr.holds_iff, verdict_both]
  rcases a.verdict context with _ | _ | _ <;> simp [bind, Except.bind]

theorem holds_either_iff : (Expr.binary .either a b).holds context = true ↔
    a.holds context = true ∨ a.verdict context = .ok false ∧ b.holds context = true := by
  simp only [Expr.holds_iff, verdict_either]
  rcases a.verdict context with _ | _ | _ <;> simp [bind, Except.bind]

end

/-- Conditions are propositions that are decided from left to right: the laws of negation,
    the two connectives and choices hold for results, errors included, and a condition
    whose connectives hold has the parts for it. -/
theorem conditions_boolean (context : Context) (a b c : Expr) :
    (Expr.unary .not (.binary .both a b)).eval context =
      (Expr.binary .either (.unary .not a) (.unary .not b)).eval context ∧
    (Expr.unary .not (.binary .either a b)).eval context =
      (Expr.binary .both (.unary .not a) (.unary .not b)).eval context ∧
    (Expr.binary .both (.binary .both a b) c).eval context =
      (Expr.binary .both a (.binary .both b c)).eval context ∧
    (Expr.binary .either (.binary .either a b) c).eval context =
      (Expr.binary .either a (.binary .either b c)).eval context ∧
    (Expr.choice (.unary .not a) b c).eval context = (Expr.choice a c b).eval context ∧
    ((Expr.binary .both a b).holds context = true ↔
      a.holds context = true ∧ b.holds context = true) ∧
    ((Expr.binary .either a b).holds context = true ↔ a.holds context = true ∨
      (∃ v, a.eval context = .ok v ∧ truthy v = false) ∧ b.holds context = true) :=
  ⟨eval_not_both context a b, eval_not_either context a b, eval_both_assoc context a b c,
    eval_either_assoc context a b c, eval_choice_not context a b c, holds_both_iff context a b,
    by rw [holds_either_iff, verdict_eq_ok_iff]⟩

end Superstep.Expression
