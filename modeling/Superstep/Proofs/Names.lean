import Superstep.Expression.Condition
import Superstep.Proofs.Results

/-! # The names of an expression

The value of an expression depends on the context only in the names that stand
in it, whether or not the evaluation gets to them. Once there is a value, more
names in the context do not change it: those that were missing were not read.
-/

namespace Superstep.Expression

mutual
def Expr.names : Expr → List String
  | .literal _ => []
  | .name name => [name]
  | .member object _ => object.names
  | .index object index => object.names ++ index.names
  | .call _ object arguments => object.names ++ namesAll arguments
  | .unary _ e => e.names
  | .binary _ left right => left.names ++ right.names
  | .choice condition yes no => condition.names ++ (yes.names ++ no.names)
  | .array items => namesAll items
  | .object fields => namesFields fields

def namesAll : List Expr → List String
  | [] => []
  | e :: rest => e.names ++ namesAll rest

def namesFields : List (String × Expr) → List String
  | [] => []
  | (_, e) :: rest => e.names ++ namesFields rest
end

/-- Two contexts have the same values for names. -/
def Alike (c₁ c₂ : Context) (names : List String) : Prop :=
  ∀ name ∈ names, c₁.get? name = c₂.get? name

namespace Alike

variable {c₁ c₂ : Context} {a b : List String}

theorem left (alike : Alike c₁ c₂ (a ++ b)) : Alike c₁ c₂ a :=
  fun name member => alike name (List.mem_append_left b member)

theorem right (alike : Alike c₁ c₂ (a ++ b)) : Alike c₁ c₂ b :=
  fun name member => alike name (List.mem_append_right a member)

end Alike

variable {c₁ c₂ : Context}

mutual
theorem Expr.eval_congr (e : Expr) (alike : Alike c₁ c₂ e.names) : e.eval c₁ = e.eval c₂ := by
  cases e with
  | literal => rfl
  | name name => simp only [Expr.eval, alike name (List.mem_singleton_self name)]
  | member object _ => simp only [Expr.eval, object.eval_congr alike]
  | index object index =>
      simp only [Expr.eval, object.eval_congr alike.left, index.eval_congr alike.right]
  | call _ object arguments =>
      simp only [Expr.eval, object.eval_congr alike.left, evalAll_congr arguments alike.right]
  | unary _ e => simp only [Expr.eval, e.eval_congr alike]
  | binary op left right =>
      have same := left.eval_congr alike.left
      have same' := right.eval_congr alike.right
      cases op <;> simp only [Expr.eval, same, same']
  | choice condition yes no =>
      simp only [Expr.eval, condition.eval_congr alike.left, yes.eval_congr alike.right.left,
        no.eval_congr alike.right.right]
  | array items => simp only [Expr.eval, evalAll_congr items alike]
  | object fields => simp only [Expr.eval, evalFields_congr fields alike]

theorem evalAll_congr (es : List Expr) (alike : Alike c₁ c₂ (namesAll es)) :
    evalAll c₁ es = evalAll c₂ es := by
  cases es with
  | nil => rfl
  | cons e rest =>
      simp only [evalAll, e.eval_congr alike.left, evalAll_congr rest alike.right]

theorem evalFields_congr (fields : List (String × Expr))
    (alike : Alike c₁ c₂ (namesFields fields)) : evalFields c₁ fields = evalFields c₂ fields := by
  cases fields with
  | nil => rfl
  | cons field rest =>
      obtain ⟨key, e⟩ := field
      simp only [evalFields, e.eval_congr alike.left, evalFields_congr rest alike.right]
end

theorem runHook_congr {source : String}
    (alike : ∀ e, parse source = .ok e → Alike c₁ c₂ e.names) :
    runHook c₁ source = runHook c₂ source := by
  unfold runHook evaluate
  cases parsed : parse source with
  | error _ => rfl
  | ok e => simp only [bind, Except.bind, e.eval_congr (alike e parsed)]

/-! ## Larger contexts -/

/-- The second context has all values of the first one, and may have more. -/
def Extends (c₁ c₂ : Context) : Prop :=
  ∀ name v, c₁.get? name = some v → c₂.get? name = some v

/-- Apart from `&&` and `||`, an operator has the values of both of its operands. -/
theorem eval_binary {op : BinaryOp} (notBoth : op ≠ .both) (notEither : op ≠ .either)
    (c : Context) (left right : Expr) :
    (Expr.binary op left right).eval c = (do
      let v ← left.eval c
      let w ← right.eval c
      applyBinary op v w) := by
  cases op <;> first | rfl | contradiction

mutual
theorem Expr.eval_extends (more : Extends c₁ c₂) (e : Expr) {v : Json.Value}
    (ok : e.eval c₁ = .ok v) : e.eval c₂ = .ok v := by
  cases e with
  | literal => exact ok
  | name name =>
      simp only [Expr.eval] at ok ⊢
      cases found : c₁.get? name with
      | none => simp [found] at ok
      | some u =>
          rw [found] at ok
          rw [more name u found]
          exact ok
  | member object _ =>
      obtain ⟨u, found, ok⟩ := bind_ok ok
      simp only [Expr.eval, object.eval_extends more found]
      exact ok
  | index object index =>
      obtain ⟨u, found, ok⟩ := bind_ok ok
      obtain ⟨i, place, ok⟩ := bind_ok ok
      simp only [Expr.eval, object.eval_extends more found, index.eval_extends more place]
      exact ok
  | call _ object arguments =>
      obtain ⟨u, found, ok⟩ := bind_ok ok
      obtain ⟨us, given, ok⟩ := bind_ok ok
      simp only [Expr.eval, object.eval_extends more found, evalAll_extends more arguments given]
      exact ok
  | unary _ e =>
      obtain ⟨u, found, ok⟩ := bind_ok ok
      simp only [Expr.eval, e.eval_extends more found]
      exact ok
  -- The right operand of `&&` and `||` may fail in the first context, but only if it is
  -- left out in both.
  | binary op left right =>
      by_cases both : op = .both
      · subst both
        obtain ⟨u, found, ok⟩ := bind_ok ok
        simp only [Expr.eval, left.eval_extends more found, bind, Except.bind]
        split at ok
        next holds => rw [if_pos holds, right.eval_extends more ok]
        next fails => rw [if_neg fails, ok]
      by_cases either : op = .either
      · subst either
        obtain ⟨u, found, ok⟩ := bind_ok ok
        simp only [Expr.eval, left.eval_extends more found, bind, Except.bind]
        split at ok
        next holds => rw [if_pos holds, ok]
        next fails => rw [if_neg fails, right.eval_extends more ok]
      rw [eval_binary both either] at ok ⊢
      obtain ⟨u, found, ok⟩ := bind_ok ok
      obtain ⟨u', found', ok⟩ := bind_ok ok
      rw [left.eval_extends more found, right.eval_extends more found']
      exact ok
  | choice condition yes no =>
      obtain ⟨u, found, ok⟩ := bind_ok ok
      simp only [Expr.eval, condition.eval_extends more found, bind, Except.bind]
      split at ok
      next holds => rw [if_pos holds, yes.eval_extends more ok]
      next fails => rw [if_neg fails, no.eval_extends more ok]
  | array items =>
      obtain ⟨us, found, ok⟩ := bind_ok ok
      simp only [Expr.eval, evalAll_extends more items found]
      exact ok
  | object fields =>
      obtain ⟨pairs, found, ok⟩ := bind_ok ok
      simp only [Expr.eval, evalFields_extends more fields found]
      exact ok

theorem evalAll_extends (more : Extends c₁ c₂) (es : List Expr) {vs : List Json.Value}
    (ok : evalAll c₁ es = .ok vs) : evalAll c₂ es = .ok vs := by
  cases es with
  | nil => exact ok
  | cons e rest =>
      obtain ⟨v, found, ok⟩ := bind_ok ok
      obtain ⟨us, later, ok⟩ := bind_ok ok
      simp only [evalAll, e.eval_extends more found, evalAll_extends more rest later]
      exact ok

theorem evalFields_extends (more : Extends c₁ c₂) (fields : List (String × Expr))
    {pairs : List (String × Json.Value)} (ok : evalFields c₁ fields = .ok pairs) :
    evalFields c₂ fields = .ok pairs := by
  cases fields with
  | nil => exact ok
  | cons field rest =>
      obtain ⟨key, e⟩ := field
      obtain ⟨v, found, ok⟩ := bind_ok ok
      obtain ⟨others, later, ok⟩ := bind_ok ok
      simp only [evalFields, e.eval_extends more found, evalFields_extends more rest later]
      exact ok
end

/-- Contexts with the same values for the names in an expression, or without a value
    for the same ones, give it the same value or the same error. A value is also its
    value in every larger context. -/
theorem eval_reads_names (e : Expr) (c₁ c₂ : Context) :
    ((∀ name ∈ e.names, c₁.get? name = c₂.get? name) → e.eval c₁ = e.eval c₂) ∧
      (Extends c₁ c₂ → ∀ v, e.eval c₁ = .ok v → e.eval c₂ = .ok v) :=
  ⟨fun alike => e.eval_congr alike, fun more _ ok => e.eval_extends more ok⟩

/-- `{name: user.name} || guest`, where `name` is a key and a property. -/
def greeting : Expr :=
  .binary .either (.object [("name", .member (.name "user") "name")]) (.name "guest")

/-- A context with a user and other names. -/
def signedIn (others : List (String × Json.Value)) : Context :=
  .ofList (("user", .object [("name", .string "x")]) :: others)

theorem eval_reads_names_greeting :
    greeting.eval (signedIn []) = greeting.eval (signedIn [("name", .null)]) ∧
      greeting.eval (signedIn [("guest", .bool true)]) =
        .ok (.object [("name", .string "x")]) := by
  constructor
  · refine (eval_reads_names greeting _ _).1 ?_
    intro name member
    have listed : name = "user" ∨ name = "guest" := by
      simpa [greeting, Expr.names, namesFields] using member
    rcases listed with rfl | rfl <;> simp [signedIn, KeyMap.ofList, KeyMap.insertAll]
  · refine (eval_reads_names greeting (signedIn []) _).2 ?_ _ rfl
    intro name v found
    have larger : signedIn [("guest", .bool true)] = (signedIn []).insert "guest" (.bool true) :=
      rfl
    rw [larger, KeyMap.get?_insert, if_neg]
    · exact found
    · rintro rfl
      simp [signedIn, KeyMap.ofList, KeyMap.insertAll] at found

end Superstep.Expression
