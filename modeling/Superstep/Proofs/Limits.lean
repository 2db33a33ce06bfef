import Superstep.Expression.Parser

/-! # The limit on nesting

A parser that may open fewer levels finds the same as one that may open more, unless it
finds too much nested. So the limit never changes what a text means, and an expression is
refused for it by name.
-/

namespace Superstep.Expression

/-- The results are the same, or the first one is that too much is nested. -/
def Limits {α : Type} (x y : Except ExpressionError α) : Prop :=
  x = y ∨ ∃ position, x = .error (.parse position .tooDeep)

/-- The first parser does what the second one does unless it finds too much nested. -/
def Shallower {α : Type} (p q : Parse α) : Prop :=
  ∀ ts, Limits (p ts) (q ts)

namespace Limits

variable {α β : Type}

theorem refl (x : Except ExpressionError α) : Limits x x :=
  .inl rfl

theorem fail_tooDeep (ts : Tokens) (y : Except ExpressionError (α × Tokens)) :
    Limits (fail .tooDeep ts) y :=
  .inr ⟨position ts, rfl⟩

theorem bind {x y : Except ExpressionError α} {f g : α → Except ExpressionError β}
    (first : Limits x y) (later : ∀ a, Limits (f a) (g a)) : Limits (x >>= f) (y >>= g) := by
  rcases first with rfl | ⟨position, rfl⟩
  · cases x with
    | error cause => exact refl _
    | ok a => exact later a
  · exact .inr ⟨position, rfl⟩

end Limits

namespace Shallower

section

variable {α : Type} {p q : Parse α}

theorem refl (p : Parse α) : Shallower p p :=
  fun ts => .refl (p ts)

theorem elements (shallower : Shallower p q) (close : Symbol) (most : Nat) :
    Shallower (elements close p most) (elements close q most) := by
  induction most with
  | zero => exact refl _
  | succ most ih =>
      intro ts
      simp only [Expression.elements]
      split
      · exact .refl _
      · refine (shallower ts).bind fun ⟨first, rest⟩ => ?_
        split
        · exact (ih _).bind fun _ => .refl _
        · exact .refl _

theorem elementsTo (shallower : Shallower p q) (close : Symbol) :
    Shallower (elementsTo close p) (elementsTo close q) :=
  fun ts => (shallower.elements close ts.length ts).bind fun _ => .refl _

end

variable {p q : Parse Expr}

theorem field (shallower : Shallower p q) : Shallower (field p) (field q) := by
  intro ts
  unfold Expression.field
  split
  · exact .refl _
  · refine (Limits.refl _).bind fun _ => ?_
    exact (shallower _).bind fun _ => .refl _

theorem primary (shallower : Shallower p q) : Shallower (primary p) (primary q) := by
  intro ts
  unfold Expression.primary
  split
  case h_8 => exact (shallower _).bind fun _ => .refl _
  case h_9 => exact (shallower.elementsTo _ _).bind fun _ => .refl _
  case h_10 => exact (shallower.field.elementsTo _ _).bind fun _ => .refl _
  all_goals exact .refl _

theorem afterDot (shallower : Shallower p q) (e : Expr) :
    Shallower (afterDot p e) (afterDot q e) := by
  intro ts
  unfold Expression.afterDot
  split
  · exact .refl _
  · simp only
    split
    · split
      · exact .refl _
      · exact (shallower.elementsTo _ _).bind fun _ => .refl _
    · exact .refl _

theorem postfixRest (shallower : Shallower p q) (most : Nat) (e : Expr) :
    Shallower (postfixRest p most e) (postfixRest q most e) := by
  induction most generalizing e with
  | zero => exact refl _
  | succ most ih =>
      intro ts
      simp only [Expression.postfixRest]
      split
      · exact (shallower.afterDot e _).bind fun ⟨e, rest⟩ => ih e rest
      · refine (shallower _).bind fun _ => ?_
        exact (Limits.refl _).bind fun _ => ih _ _
      · exact .refl _
      · exact .refl _

theorem postfixed (shallower : Shallower p q) : Shallower (postfixed p) (postfixed q) :=
  fun ts => (shallower.primary ts).bind fun ⟨e, rest⟩ => shallower.postfixRest _ e rest

theorem prefixed {below above : Option (Parse Expr)}
    (operand : ∀ p ∈ below, ∃ q ∈ above, Shallower p q) (shallower : Shallower p q) :
    Shallower (prefixed below p) (prefixed above q) := by
  intro ts
  unfold Expression.prefixed
  split
  · exact shallower.postfixed ts
  · cases below with
    | none => exact .fail_tooDeep _ _
    | some first =>
        obtain ⟨second, rfl, less⟩ := operand first rfl
        exact (less _).bind fun _ => .refl _

theorem chainRest (shallower : Shallower p q) (operator : Token → Option BinaryOp) (most : Nat)
    (e : Expr) : Shallower (chainRest operator p most e) (chainRest operator q most e) := by
  induction most generalizing e with
  | zero => exact refl _
  | succ most ih =>
      intro ts
      simp only [Expression.chainRest]
      split
      · exact .refl _
      · exact (shallower _).bind fun ⟨right, rest⟩ => ih _ rest

theorem layered (shallower : Shallower p q) (operators : List (Token → Option BinaryOp)) :
    Shallower (layered p operators) (layered q operators) := by
  induction operators with
  | nil => exact shallower
  | cons operator tighter ih =>
      exact fun ts => (ih ts).bind fun ⟨left, rest⟩ => ih.chainRest operator _ left rest

theorem choice {branch branch' : Parse Expr} (branches : Shallower branch branch')
    (conditions : Shallower p q) : Shallower (choice branch p) (choice branch' q) := by
  intro ts
  unfold Expression.choice
  refine (conditions ts).bind fun ⟨c, rest⟩ => ?_
  simp only
  split
  · refine (branches _).bind fun ⟨yes, rest⟩ => ?_
    refine (Limits.refl _).bind fun _ => ?_
    exact (branches _).bind fun _ => .refl _
  · exact .refl _

end Shallower

/-- With fewer levels a parser finds the same or that too much is nested. -/
theorem level_shallower {few many : Nat} (le : few ≤ many) :
    Shallower (level few).expression (level many).expression ∧
      Shallower (level few).unary (level many).unary := by
  induction few generalizing many with
  | zero =>
      have expression : Shallower (level 0).expression (level many).expression :=
        fun ts => .fail_tooDeep ts _
      refine ⟨expression, ?_⟩
      cases many with
      | zero => exact .refl _
      | succ many =>
          have none_ : ∀ p ∈ (none : Option (Parse Expr)), ∃ q ∈ some (level many).unary,
              Shallower p q := by
            intro p found
            cases found
          exact Shallower.prefixed none_ expression
  | succ few ih =>
      cases many with
      | zero => exact absurd le (Nat.not_succ_le_zero few)
      | succ many =>
          obtain ⟨below, belowUnary⟩ := ih (Nat.le_of_succ_le_succ le)
          have expression : Shallower (level (few + 1)).expression (level (many + 1)).expression :=
            below.choice (belowUnary.layered binaryLayers)
          have operand : ∀ p ∈ some (level few).unary, ∃ q ∈ some (level many).unary,
              Shallower p q := by
            intro p found
            cases found
            exact ⟨_, rfl, belowUnary⟩
          exact ⟨expression, Shallower.prefixed operand expression⟩

/-- With more levels than there are the parser could find no other expression. -/
theorem parseTokens_limits {n : Nat} (more : maxDepth + 1 ≤ n) {ts rest : Tokens} {e : Expr}
    (found : (level n).expression ts = .ok (e, rest)) (end_ : peek rest = .finish) :
    Limits (parseTokens ts) (.ok e) := by
  rcases (level_shallower more).1 ts with same | ⟨position, deep⟩
  · left
    simp only [parseTokens, same, found, end_, bind, Except.bind, if_true]
  · right
    exact ⟨position, by simp only [parseTokens, deep, bind, Except.bind]⟩

end Superstep.Expression
