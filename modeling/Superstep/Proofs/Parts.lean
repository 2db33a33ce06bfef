import Superstep.Proofs.Names
import Superstep.Proofs.Shapes

/-! # What parsed expressions are made of

The checks that lexer and parser make in passing hold for every part of an expression, at
any depth. The evaluation relies on them: it has an error for a missing argument, which no
text leads to, and it looks up whatever stands as a name.
-/

namespace Superstep.Expression

open Json (Value Number)

/-! ## Parts -/

/-- The parts right below an expression. -/
def Expr.children : Expr → List Expr
  | .literal _ | .name _ => []
  | .member e _ => [e]
  | .index e i => [e, i]
  | .call _ e arguments => e :: arguments
  | .unary _ e => [e]
  | .binary _ left right => [left, right]
  | .choice condition yes no => [condition, yes, no]
  | .array items => items
  | .object fields => fields.map Prod.snd

/-- An expression and all that stands in it, at any depth. -/
inductive Part : Expr → Expr → Prop where
  | whole (e : Expr) : Part e e
  | deeper {e child part : Expr} (among : child ∈ e.children) (inside : Part child part) :
      Part e part

theorem Sayable.child {e child : Expr} (sayable : Sayable e) (among : child ∈ e.children) :
    Sayable child := by
  cases sayable with
  | keyword | number | string | name => cases among
  | member object => exact List.mem_singleton.1 among ▸ object
  | unary operand => exact List.mem_singleton.1 among ▸ operand
  | index object inside =>
      rcases List.mem_cons.1 among with rfl | second
      · exact object
      · exact List.mem_singleton.1 second ▸ inside
  | binary left right =>
      rcases List.mem_cons.1 among with rfl | second
      · exact left
      · exact List.mem_singleton.1 second ▸ right
  | choice condition yes otherwise =>
      simp only [Expr.children, List.mem_cons, List.not_mem_nil, or_false] at among
      rcases among with rfl | rfl | rfl <;> assumption
  | call object each =>
      rcases List.mem_cons.1 among with rfl | argument
      · exact object
      · exact each child argument
  | array each => exact each child among
  | object each =>
      obtain ⟨f, member, rfl⟩ := List.mem_map.1 among
      exact each f member

theorem Sayable.part {e part : Expr} (inside : Part e part) (sayable : Sayable e) :
    Sayable part := by
  induction inside with
  | whole => exact sayable
  | deeper among _ ih => exact ih (sayable.child among)

/-! ## What each part is like -/

/-- The words that are no names. -/
def reserved : List String :=
  ["null", "undefined", "true", "false"]

/-- A number that is not negative, not even a negative zero; all numbers are finite. -/
inductive Unsigned : Number → Prop where
  | integer {i : Int} (least : 0 ≤ i) : Unsigned (.integer i)
  | float {x : Binary64} (plus : x.negative = false) : Unsigned (.float x)

/-- A value that a literal spells. -/
inductive Plain : Value → Prop where
  | null : Plain .null
  | bool (b : Bool) : Plain (.bool b)
  | number {x : Number} (unsigned : Unsigned x) : Plain (.number x)
  | string (s : String) : Plain (.string s)

/-- In all of an expression, calls have the arguments that their methods take, literals
    are plain, and names are not reserved. -/
structure Expr.WellFormed (e : Expr) : Prop where
  supplied : ∀ m object arguments, Part e (.call m object arguments) → arguments.length = m.arity
  plain : ∀ v, Part e (.literal v) → Plain v
  free : ∀ s, Part e (.name s) → s ∉ reserved

theorem Expr.WellFormed.child {e child : Expr} (formed : e.WellFormed)
    (among : child ∈ e.children) : child.WellFormed where
  supplied m object arguments inside := formed.supplied m object arguments (.deeper among inside)
  plain v inside := formed.plain v (.deeper among inside)
  free s inside := formed.free s (.deeper among inside)

theorem negative_ofFraction {negative : Bool} {num den : Nat} {x : Binary64}
    (read : Binary64.ofFraction negative num den = .ok x) : x.negative = negative := by
  unfold Binary64.ofFraction at read
  split at read
  · cases read
    rfl
  · dsimp only at read
    split at read
    all_goals
      split at read <;> cases read
      rfl

theorem negative_toBinary64 {negative : Bool} {d : Decimal} {x : Binary64}
    (read : d.toBinary64 negative = .ok x) : x.negative = negative := by
  unfold Decimal.toBinary64 at read
  dsimp only at read
  split at read
  · cases read
    rfl
  · split at read
    · cases read
    · exact negative_ofFraction read

theorem unsigned_ofBinary64 {x : Binary64} (plus : x.negative = false) :
    Unsigned (.ofBinary64 x) := by
  unfold Number.ofBinary64
  split
  next i whole =>
    split
    · refine .integer ?_
      unfold Binary64.toInt? at whole
      simp only [plus] at whole
      split at whole <;> cases whole
      exact Int.natCast_nonneg _
    · exact .float plus
  next => exact .float plus

theorem Numeral.unsigned {d : Numeral} {x : Number} (value : d.value? = some x) : Unsigned x := by
  obtain ⟨y, read, rfl⟩ := Option.map_eq_some_iff.1 value
  exact unsigned_ofBinary64 (negative_toBinary64 (eq_ok_of_toOption read))

theorem plain_keyword (k : Keyword) : Plain k.value := by
  cases k with
  | null => exact .null
  | yes => exact .bool true
  | no => exact .bool false

theorem IsName.not_reserved {s : String} (proper : IsName s) : s ∉ reserved := by
  intro listed
  have free := proper.free
  simp only [reserved, List.mem_cons, List.not_mem_nil, or_false] at listed
  rcases listed with rfl | rfl | rfl | rfl <;> cases free

theorem Sayable.wellFormed {e : Expr} (sayable : Sayable e) : e.WellFormed where
  supplied m object arguments inside := by
    cases sayable.part inside with
    | call _ _ enough => exact enough
  plain v inside := by
    cases sayable.part inside with
    | keyword k => exact plain_keyword k
    | number d value => exact .number (d.unsigned value)
    | string s => exact .string s
  free s inside := by
    cases sayable.part inside with
    | name proper => exact proper.not_reserved

/-! ## Arguments are not missing -/

section

variable {α β : Type}

/-- A result that is not the failure for a missing argument. -/
def Supplied (x : Except EvalError α) : Prop :=
  ∀ m, x ≠ .error (.missingArgument m)

theorem Supplied.ok (a : α) : Supplied (.ok a) := nofun

theorem Supplied.bind {x : Except EvalError α} {f : α → Except EvalError β} (first : Supplied x)
    (next : ∀ a, x = .ok a → Supplied (f a)) : Supplied (x >>= f) := by
  cases x with
  | error cause => exact fun m failed => first m (congrArg _ (Except.error.inj failed))
  | ok a => exact next a rfl

end

theorem supplied_arithmetic (x : Except NonFinite Binary64) : Supplied (arithmetic x) := by
  cases x <;> nofun

theorem supplied_operand (operator : String) (v : Value) : Supplied (operand operator v) := by
  cases v <;> nofun

theorem supplied_compute (operator : String) (f : Binary64 → Binary64 → Except NonFinite Binary64)
    (v w : Value) : Supplied (compute operator f v w) :=
  .bind (supplied_operand operator v) fun x _ =>
    .bind (supplied_operand operator w) fun y _ => supplied_arithmetic (f x y)

theorem supplied_property (v : Value) (name : String) : Supplied (property v name) := by
  cases v <;> nofun

theorem supplied_atIndex (v i : Value) : Supplied (atIndex v i) := by
  cases i <;> cases v <;> nofun

theorem supplied_plus (v w : Value) : Supplied (plus v w) := by
  unfold plus
  split
  · exact supplied_arithmetic _
  all_goals nofun

theorem supplied_applyUnary (op : UnaryOp) (v : Value) : Supplied (applyUnary op v) := by
  cases op with
  | not => exact .ok _
  | negate => exact .bind (supplied_operand "-" v) fun x _ => supplied_arithmetic (.ok x.neg)

theorem supplied_applyBinary (op : BinaryOp) (v w : Value) : Supplied (applyBinary op v w) := by
  cases op with
  | add => exact supplied_plus v w
  | sub | mul | div | rem => exact supplied_compute _ _ v w
  | equal | notEqual | strictEqual | strictNotEqual | less | lessEqual | greater | greaterEqual
  | both | either => exact .ok _

theorem supplied_needle {m : Method} {vs : List Value} (some_ : vs ≠ []) :
    Supplied (needle m vs) := by
  cases vs with
  | nil => contradiction
  | cons => exact .ok _

/-- A method that takes a text gets one. -/
theorem supplied_callMethod {m : Method} (v : Value) {vs : List Value}
    (enough : vs.length = m.arity) : Supplied (callMethod m v vs) := by
  have some_ (one : m.arity = 1) : vs ≠ [] := by
    rintro rfl
    cases enough.trans one
  cases m with
  | includes | startsWith | endsWith =>
      cases v with
      | string => exact .bind (supplied_needle (some_ rfl)) fun t _ => .ok _
      | _ => nofun
  | toLowerCase | toUpperCase | trim => cases v <;> nofun

theorem evalAll_length {context : Context} {es : List Expr} {vs : List Value}
    (ok : evalAll context es = .ok vs) : vs.length = es.length := by
  induction es generalizing vs with
  | nil => cases ok; rfl
  | cons e rest ih =>
      obtain ⟨v, _, ok⟩ := bind_ok ok
      obtain ⟨others, later, ok⟩ := bind_ok ok
      cases ok
      rw [List.length_cons, ih later, List.length_cons]

variable {context : Context}

mutual
theorem Expr.supplied_eval (e : Expr) (formed : e.WellFormed) : Supplied (e.eval context) := by
  have each : ∀ child ∈ e.children, child.WellFormed := fun _ among => formed.child among
  cases e with
  | literal => exact .ok _
  | name name =>
      unfold Expr.eval
      split <;> nofun
  | member object name =>
      obtain ⟨first, _⟩ := List.forall_mem_cons.1 each
      exact .bind (object.supplied_eval first) fun v _ => supplied_property v name
  | index object index =>
      obtain ⟨first, rest⟩ := List.forall_mem_cons.1 each
      obtain ⟨second, _⟩ := List.forall_mem_cons.1 rest
      exact .bind (object.supplied_eval first) fun v _ =>
        .bind (index.supplied_eval second) fun i _ => supplied_atIndex v i
  | call m object arguments =>
      obtain ⟨first, rest⟩ := List.forall_mem_cons.1 each
      have enough := formed.supplied m object arguments (.whole _)
      exact .bind (object.supplied_eval first) fun v _ =>
        .bind (supplied_evalAll arguments rest) fun vs given =>
          supplied_callMethod v ((evalAll_length given).trans enough)
  | unary op e =>
      obtain ⟨first, _⟩ := List.forall_mem_cons.1 each
      exact .bind (e.supplied_eval first) fun v _ => supplied_applyUnary op v
  -- Only `&&` and `||` may leave out the right operand, so they are cases of their own.
  | binary op left right =>
      obtain ⟨first, rest⟩ := List.forall_mem_cons.1 each
      obtain ⟨second, _⟩ := List.forall_mem_cons.1 rest
      have one := left.supplied_eval first
      have two := right.supplied_eval second
      by_cases both : op = .both
      · subst both
        refine .bind one fun v _ => ?_
        split
        · exact two
        · exact .ok v
      by_cases either : op = .either
      · subst either
        refine .bind one fun v _ => ?_
        split
        · exact .ok v
        · exact two
      rw [eval_binary both either]
      exact .bind one fun v _ => .bind two fun w _ => supplied_applyBinary op v w
  | choice condition yes no =>
      obtain ⟨first, rest⟩ := List.forall_mem_cons.1 each
      obtain ⟨second, rest⟩ := List.forall_mem_cons.1 rest
      obtain ⟨third, _⟩ := List.forall_mem_cons.1 rest
      refine .bind (condition.supplied_eval first) fun v _ => ?_
      split
      · exact yes.supplied_eval second
      · exact no.supplied_eval third
  | array items => exact .bind (supplied_evalAll items each) fun vs _ => .ok _
  | object fields =>
      exact .bind (supplied_evalFields fields (List.forall_mem_map.1 each)) fun pairs _ => .ok _

theorem supplied_evalAll (es : List Expr) (formed : ∀ e ∈ es, e.WellFormed) :
    Supplied (evalAll context es) := by
  cases es with
  | nil => exact .ok _
  | cons e rest =>
      obtain ⟨first, later⟩ := List.forall_mem_cons.1 formed
      exact .bind (e.supplied_eval first) fun v _ =>
        .bind (supplied_evalAll rest later) fun vs _ => .ok _

theorem supplied_evalFields (fields : List (String × Expr))
    (formed : ∀ f ∈ fields, f.2.WellFormed) : Supplied (evalFields context fields) := by
  cases fields with
  | nil => exact .ok _
  | cons field rest =>
      obtain ⟨key, e⟩ := field
      obtain ⟨first, later⟩ := List.forall_mem_cons.1 formed
      exact .bind (e.supplied_eval first) fun v _ =>
        .bind (supplied_evalFields rest later) fun pairs _ => .ok _
end

/-- A tree that no text spells does lack an argument. -/
example : (Expr.call .includes (.literal (.string "")) []).eval .empty =
    .error (.missingArgument .includes) := rfl

theorem head?_append_text {s : String} (t : String) {c : Char}
    (first : s.toList.head? = some c) : (s ++ t).toList.head? = some c := by
  rw [String.toList_append, List.head?_append, first, Option.some_or]

theorem getLast?_append_text (s : String) {t : String} {c : Char}
    (last : t.toList.getLast? = some c) : (s ++ t).toList.getLast? = some c := by
  rw [String.toList_append, List.getLast?_append, last, Option.some_or]

theorem Method.nonblank (m : Method) : ∀ c ∈ m.name.toList, (c != ' ') = true := by
  have all : m.name.toList.all (· != ' ') = true := by cases m <;> decide
  exact List.all_eq_true.1 all

/-- No other failure has the text of one for a missing argument: it starts or ends with
    another character, or goes on differently behind the name of a method. -/
theorem exists_missing_of_message {cause : EvalError} {m : Method}
    (same : cause.message = m.name ++ "() needs an argument") :
    ∃ m', cause = .missingArgument m' := by
  have first {c : Char} (starts : cause.message.toList.head? = some c) : c ≠ 'c' ∧ c ≠ '\'' := by
    rw [same] at starts
    constructor <;> rintro rfl <;> revert starts <;> cases m <;> decide
  have last {c : Char} (stops : cause.message.toList.getLast? = some c) : c = 't' := by
    rw [same, getLast?_append_text m.name (c := 't') (by decide)] at stops
    exact (Option.some.inj stops).symm
  cases cause with
  | missingArgument m' => exact ⟨m', rfl⟩
  | undefinedName name => cases last (getLast?_append_text name (c := 'd') (by decide))
  | notFinite value => cases last (getLast?_append_text value.text (c := 'r') (by decide))
  | propertyOfNull property =>
      exact absurd rfl (first (head?_append_text _ (head?_append_text property (by decide)))).1
  | indexOfNull i => exact absurd rfl (first (head?_append_text i.compact (by decide))).1
  | cannotAdd left right =>
      exact absurd rfl (first (head?_append_text right
        (head?_append_text _ (head?_append_text left (by decide))))).1
  | needsNumbers operator kind =>
      exact absurd rfl (first (head?_append_text kind
        (head?_append_text _ (head?_append_text operator (by decide))))).2
  | unavailable m' kind =>
      have other : (EvalError.unavailable m' kind).message.toList = m'.name.toList ++
          ("() is not available on ".toList ++ kind.toList) := by
        rw [← List.append_assoc, ← String.toList_append, ← String.toList_append]
        rfl
      rw [same, String.toList_append] at other
      have apart := congrArg (·.dropWhile (· != ' ')) other
      simp only [List.dropWhile_append_of_pos (Method.nonblank _)] at apart
      have second : some 'n' = some 'i' := congrArg (·[1]?) apart
      cases second

/-! ## What is looked up -/

/-- An evaluation that notes the names that it looks up, in turn. -/
abbrev Noting := ExceptT EvalError (StateM (List String))

/-- A result for which nothing is looked up. -/
def settled {α : Type} (x : Except EvalError α) : Noting α :=
  .mk (pure x)

def lookUp (context : Context) (name : String) : Noting Value := do
  modify (· ++ [name])
  match context.get? name with
  | some v => settled (.ok v)
  | none => settled (.error (.undefinedName name))

mutual
/-- The evaluation of an expression, with a note of each look-up in the context. -/
def Expr.evalNoting (context : Context) : Expr → Noting Value
  | .literal v => settled (.ok v)
  | .name name => lookUp context name
  | .member object name => do
      let v ← object.evalNoting context
      settled (property v name)
  | .index object index => do
      let v ← object.evalNoting context
      let i ← index.evalNoting context
      settled (atIndex v i)
  | .call method object arguments => do
      let v ← object.evalNoting context
      let vs ← evalNotingAll context arguments
      settled (callMethod method v vs)
  | .unary op e => do
      let v ← e.evalNoting context
      settled (applyUnary op v)
  | .binary .both left right => do
      let v ← left.evalNoting context
      if truthy v then right.evalNoting context else settled (.ok v)
  | .binary .either left right => do
      let v ← left.evalNoting context
      if truthy v then settled (.ok v) else right.evalNoting context
  | .binary op left right => do
      let v ← left.evalNoting context
      let w ← right.evalNoting context
      settled (applyBinary op v w)
  | .choice condition yes no => do
      let v ← condition.evalNoting context
      if truthy v then yes.evalNoting context else no.evalNoting context
  | .array items => do
      let vs ← evalNotingAll context items
      settled (.ok (.array vs))
  | .object fields => do
      let pairs ← evalNotingFields context fields
      settled (.ok (.ofMap (.ofList pairs)))

def evalNotingAll (context : Context) : List Expr → Noting (List Value)
  | [] => settled (.ok [])
  | e :: rest => do
      let v ← e.evalNoting context
      let vs ← evalNotingAll context rest
      settled (.ok (v :: vs))

def evalNotingFields (context : Context) :
    List (String × Expr) → Noting (List (String × Value))
  | [] => settled (.ok [])
  | (key, e) :: rest => do
      let v ← e.evalNoting context
      let pairs ← evalNotingFields context rest
      settled (.ok ((key, v) :: pairs))
end

section

variable {α β : Type} {x : Noting α} {r : Except EvalError α} {names more : List String}

/-- What an evaluation gives, and names among which all those are that it notes, behind
    what has been noted before. -/
def Notes (x : Noting α) (r : Except EvalError α) (names : List String) : Prop :=
  ∀ before, ∃ noted, x.run.run before = (r, before ++ noted) ∧ noted ⊆ names

theorem notes_settled (r : Except EvalError α) (names : List String) :
    Notes (settled r) r names := by
  intro before
  refine ⟨[], ?_, List.nil_subset names⟩
  rw [List.append_nil]
  rfl

theorem Notes.within (notes : Notes x r names) (among : names ⊆ more) : Notes x r more := by
  intro before
  obtain ⟨noted, ran, inside⟩ := notes before
  exact ⟨noted, ran, List.Subset.trans inside among⟩

theorem Notes.bind {f : α → Noting β} {g : α → Except EvalError β} (first : Notes x r names)
    (next : ∀ a, Notes (f a) (g a) more) : Notes (x >>= f) (r >>= g) (names ++ more) := by
  intro before
  obtain ⟨noted, ran, inside⟩ := first before
  have step : (x >>= f).run.run before =
      match x.run.run before with
      | (.ok a, after) => (f a).run.run after
      | (.error cause, after) => (.error cause, after) := by
    rw [ExceptT.run_bind, StateT.run_bind]
    rcases x.run.run before with ⟨_ | _, after⟩ <;> rfl
  cases r with
  | error cause =>
      refine ⟨noted, ?_, List.subset_append_of_subset_left more inside⟩
      rw [step, ran]
      rfl
  | ok a =>
      obtain ⟨later, ran', inside'⟩ := next a (before ++ noted)
      refine ⟨noted ++ later, ?_, ?_⟩
      · rw [step, ran, ← List.append_assoc]
        exact ran'
      · exact List.append_subset.2 ⟨List.subset_append_of_subset_left more inside,
          List.subset_append_of_subset_right names inside'⟩

theorem Notes.settles {g : α → Except EvalError β} (notes : Notes x r names) :
    Notes (x >>= fun a => settled (g a)) (r >>= g) names := by
  have all := notes.bind fun a => notes_settled (g a) []
  rwa [List.append_nil] at all

end

theorem notes_lookUp (name : String) :
    Notes (lookUp context name) ((Expr.name name).eval context) [name] := by
  intro before
  refine ⟨[name], ?_, List.Subset.refl _⟩
  unfold lookUp Expr.eval
  cases context.get? name <;> rfl

theorem evalNoting_binary {op : BinaryOp} (notBoth : op ≠ .both) (notEither : op ≠ .either)
    (left right : Expr) :
    (Expr.binary op left right).evalNoting context = (do
      let v ← left.evalNoting context
      let w ← right.evalNoting context
      settled (applyBinary op v w)) := by
  cases op <;> first | rfl | contradiction

mutual
/-- The names that an evaluation looks up stand in the expression, and that they are noted
    makes no difference to its result. -/
theorem Expr.notes_eval (e : Expr) : Notes (e.evalNoting context) (e.eval context) e.names := by
  cases e with
  | literal v => exact notes_settled (.ok v) []
  | name name => exact notes_lookUp name
  | member object _ => exact object.notes_eval.settles
  | index object index => exact object.notes_eval.bind fun _ => index.notes_eval.settles
  | call _ object arguments =>
      exact object.notes_eval.bind fun _ => (notes_evalAll arguments).settles
  | unary _ e => exact e.notes_eval.settles
  | binary op left right =>
      by_cases both : op = .both
      · subst both
        refine left.notes_eval.bind fun v => ?_
        split
        · exact right.notes_eval
        · exact notes_settled _ _
      by_cases either : op = .either
      · subst either
        refine left.notes_eval.bind fun v => ?_
        split
        · exact notes_settled _ _
        · exact right.notes_eval
      rw [eval_binary both either, evalNoting_binary both either]
      exact left.notes_eval.bind fun _ => right.notes_eval.settles
  | choice condition yes no =>
      refine condition.notes_eval.bind fun v => ?_
      split
      · exact yes.notes_eval.within (List.subset_append_left _ _)
      · exact no.notes_eval.within (List.subset_append_right _ _)
  | array items => exact (notes_evalAll items).settles
  | object fields => exact (notes_evalFields fields).settles

theorem notes_evalAll (es : List Expr) :
    Notes (evalNotingAll context es) (evalAll context es) (namesAll es) := by
  cases es with
  | nil => exact notes_settled _ _
  | cons e rest => exact e.notes_eval.bind fun _ => (notes_evalAll rest).settles

theorem notes_evalFields (fields : List (String × Expr)) :
    Notes (evalNotingFields context fields) (evalFields context fields) (namesFields fields) := by
  cases fields with
  | nil => exact notes_settled _ _
  | cons field rest =>
      obtain ⟨_, e⟩ := field
      exact e.notes_eval.bind fun _ => (notes_evalFields rest).settles
end

mutual
theorem Expr.part_of_mem_names {s : String} (e : Expr) (member : s ∈ e.names) :
    Part e (.name s) := by
  cases e with
  | literal => cases member
  | name name =>
      obtain rfl := List.mem_singleton.1 member
      exact .whole _
  | member object _ => exact .deeper List.mem_cons_self (object.part_of_mem_names member)
  | unary _ e => exact .deeper List.mem_cons_self (e.part_of_mem_names member)
  | index object index =>
      rcases List.mem_append.1 member with first | second
      · exact .deeper List.mem_cons_self (object.part_of_mem_names first)
      · exact .deeper (by simp [Expr.children]) (index.part_of_mem_names second)
  | binary _ left right =>
      rcases List.mem_append.1 member with first | second
      · exact .deeper List.mem_cons_self (left.part_of_mem_names first)
      · exact .deeper (by simp [Expr.children]) (right.part_of_mem_names second)
  | choice condition yes no =>
      rcases List.mem_append.1 member with first | member
      · exact .deeper List.mem_cons_self (condition.part_of_mem_names first)
      rcases List.mem_append.1 member with second | third
      · exact .deeper (by simp [Expr.children]) (yes.part_of_mem_names second)
      · exact .deeper (by simp [Expr.children]) (no.part_of_mem_names third)
  | call _ object arguments =>
      rcases List.mem_append.1 member with first | later
      · exact .deeper List.mem_cons_self (object.part_of_mem_names first)
      · obtain ⟨argument, among, inside⟩ := part_of_mem_namesAll arguments later
        exact .deeper (List.mem_cons_of_mem _ among) inside
  | array items =>
      obtain ⟨item, among, inside⟩ := part_of_mem_namesAll items member
      exact .deeper among inside
  | object fields =>
      obtain ⟨field, among, inside⟩ := part_of_mem_namesFields fields member
      exact .deeper (List.mem_map_of_mem among) inside

theorem part_of_mem_namesAll {s : String} (es : List Expr) (member : s ∈ namesAll es) :
    ∃ e ∈ es, Part e (.name s) := by
  cases es with
  | nil => cases member
  | cons e rest =>
      rcases List.mem_append.1 member with first | later
      · exact ⟨e, List.mem_cons_self, e.part_of_mem_names first⟩
      · obtain ⟨other, among, inside⟩ := part_of_mem_namesAll rest later
        exact ⟨other, List.mem_cons_of_mem _ among, inside⟩

theorem part_of_mem_namesFields {s : String} (fields : List (String × Expr))
    (member : s ∈ namesFields fields) : ∃ f ∈ fields, Part f.2 (.name s) := by
  cases fields with
  | nil => cases member
  | cons field rest =>
      obtain ⟨key, e⟩ := field
      rcases List.mem_append.1 member with first | later
      · exact ⟨(key, e), List.mem_cons_self, e.part_of_mem_names first⟩
      · obtain ⟨other, among, inside⟩ := part_of_mem_namesFields rest later
        exact ⟨other, List.mem_cons_of_mem _ among, inside⟩
end

/-! ## Parsed expressions -/

/-- What a text spells is well formed, at any depth. So an evaluation of it, whatever the
    context, does not fail for a missing argument, and no reserved word is looked up. -/
theorem parsed_well_formed {source : String} {e : Expr} (parsed : parse source = .ok e) :
    e.WellFormed ∧ ∀ context : Context,
      (∀ cause, e.eval context = .error cause →
        ∀ m : Method, cause.message ≠ m.name ++ "() needs an argument") ∧
      ∃ lookedUp, (e.evalNoting context).run.run [] = (e.eval context, lookedUp) ∧
        ∀ name ∈ lookedUp, name ∉ reserved := by
  have formed := (sayable_of_parse parsed).wellFormed
  refine ⟨formed, fun context => ⟨?_, ?_⟩⟩
  · intro cause failed m same
    obtain ⟨m', rfl⟩ := exists_missing_of_message same
    exact e.supplied_eval formed m' failed
  · have notes : Notes (e.evalNoting context) (e.eval context) e.names := e.notes_eval
    obtain ⟨noted, ran, inside⟩ := notes []
    exact ⟨noted, ran, fun name member => formed.free name (e.part_of_mem_names (inside member))⟩

/-- `note.includes(true)` -/
def mentions : Expr :=
  .call .includes (.name "note") [.literal (.bool true)]

theorem parse_mentions : parse "note.includes(true)" = .ok mentions := by
  have lexed : tokenize "note.includes(true)" = .ok [⟨.name "note", 0⟩, ⟨.symbol .dot, 4⟩,
      ⟨.name "includes", 5⟩, ⟨.symbol .openParen, 13⟩, ⟨.keyword .yes, 14⟩,
      ⟨.symbol .closeParen, 18⟩, ⟨.finish, 19⟩] :=
    eq_ok_of_toOption (by decide +kernel)
  rw [parse, lexed]
  rfl

theorem parsed_well_formed_mentions :
    parse "note.includes(true)" = .ok mentions ∧ mentions.WellFormed ∧
      (∀ m : Method, (EvalError.undefinedName "note").message ≠ m.name ++ "() needs an argument") ∧
      ∃ lookedUp, (mentions.evalNoting .empty).run.run [] =
          (.error (.undefinedName "note"), lookedUp) ∧ ∀ name ∈ lookedUp, name ∉ reserved := by
  obtain ⟨formed, every⟩ := parsed_well_formed parse_mentions
  obtain ⟨texts, lookUps⟩ := every .empty
  exact ⟨parse_mentions, formed, texts _ rfl, lookUps⟩

end Superstep.Expression
