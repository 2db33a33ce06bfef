import Superstep.Proofs.Notations

/-! # How high expressions are

The limit on nesting counts brackets, branches and prefix operators. An expression grows in
height with each of them, but also with every link of a chain, an operator behind its left
operand or a property, an index or a call behind its object, and chains are read by loops
that nest nothing. So the limit bounds the height of an expression if the links of chains
are not counted, and the height itself, which is how deep the calls of the evaluation nest,
is only bounded by the number of tokens.
-/

namespace Superstep.Expression

open Json (Value)

mutual
/-- The height of an expression if every link of a chain counts for so much: a step to the
    left operand of an operator, or to the object of a property, an index or a call. -/
def Expr.heightBy (link : Nat) : Expr → Nat
  | .literal _ | .name _ => 1
  | .member object _ => object.heightBy link + link
  | .index object index => max (object.heightBy link + link) (index.heightBy link + 1)
  | .call _ object arguments => max (object.heightBy link + link) (heightOfAll link arguments + 1)
  | .unary _ e => e.heightBy link + 1
  | .binary _ left right => max (left.heightBy link + link) (right.heightBy link + 1)
  | .choice condition yes no =>
      max (condition.heightBy link) (max (yes.heightBy link) (no.heightBy link)) + 1
  | .array items => heightOfAll link items + 1
  | .object fields => heightOfFields link fields + 1

def heightOfAll (link : Nat) : List Expr → Nat
  | [] => 0
  | e :: rest => max (e.heightBy link) (heightOfAll link rest)

def heightOfFields (link : Nat) : List (String × Expr) → Nat
  | [] => 0
  | (_, e) :: rest => max (e.heightBy link) (heightOfFields link rest)
end

/-- The height of an expression as a tree. -/
def Expr.height (e : Expr) : Nat :=
  e.heightBy 1

theorem heightOfAll_le {link most : Nat} {items : List Expr} :
    heightOfAll link items ≤ most ↔ ∀ e ∈ items, e.heightBy link ≤ most := by
  induction items with
  | nil => simp [heightOfAll]
  | cons e rest ih => rw [heightOfAll, Nat.max_le, ih, List.forall_mem_cons]

theorem heightOfFields_le {link most : Nat} {fields : List (String × Expr)} :
    heightOfFields link fields ≤ most ↔ ∀ f ∈ fields, f.2.heightBy link ≤ most := by
  induction fields with
  | nil => simp [heightOfFields]
  | cons f rest ih => rw [heightOfFields, Nat.max_le, ih, List.forall_mem_cons]

/-! ## What is derived -/

/-- How high a phrase may be in which so many constructs are nested, chains aside. A level
    of nesting has room for a choice, one operator of each layer and what opens the next
    level. -/
def Category.highest : Category → Nat → Nat
  | .nested, n => 8 * n
  | .choice, n => 8 * n + 8
  | .layer k, n => 8 * n + 1 + (6 - k)
  | .prefixed, n | .postfixed, n | .primary, n => 8 * n + 1

theorem BinaryOp.layer_lt (op : BinaryOp) : op.layer < 6 := by
  cases op <;> decide

/-- Chains aside, what may be nested bounds the height. -/
theorem Derives.heightBy_zero_le {c : Category} {n : Nat} {ts : List Token} {e : Expr}
    (derived : Derives c n ts e) : e.heightBy 0 ≤ c.highest n := by
  induction derived with
  | binary op _ _ left right =>
      -- A step into the right operand leaves the layer; one into the left operand is a link.
      have loose := op.layer_lt
      simp only [Expr.heightBy, Category.highest] at *
      omega
  | call _ _ _ _ _ _ object each =>
      have arguments := heightOfAll_le.2 (List.forall_mem_map.2 each)
      simp only [Expr.heightBy, Category.highest] at *
      omega
  | array _ _ each =>
      have items := heightOfAll_le.2 (List.forall_mem_map.2 each)
      simp only [Expr.heightBy, Category.highest] at *
      omega
  | @object n _ fields _ _ _ each =>
      have values : heightOfFields 0 (fields.map Entry.pair) ≤ Category.nested.highest n :=
        heightOfFields_le.2 (List.forall_mem_map.2 fun f among => each f among)
      simp only [Expr.heightBy, Category.highest] at *
      omega
  | nested | condition | choice | operand | tightest | unary | bare | atom | member | index
  | keyword | number | string | name | parens =>
      simp only [Expr.heightBy, Category.highest] at *
      omega

theorem Commas.length_le {ts : List Token} {items : List (List Token)} (listed : Commas ts items) :
    ∀ item ∈ items, item.length ≤ ts.length := by
  induction listed with
  | none => simp
  | last item => simp
  | more item _ ih =>
      refine List.forall_mem_cons.2 ⟨by simp, fun other among => ?_⟩
      have inside := ih other among
      simp only [List.length_append, List.length_cons]
      omega

/-- Every node of the tree has a token of its own. -/
theorem Derives.height_le {c : Category} {n : Nat} {ts : List Token} {e : Expr}
    (derived : Derives c n ts e) : e.height ≤ ts.length := by
  unfold Expr.height
  induction derived with
  | nested _ ih | condition _ ih | operand _ ih | tightest _ ih | bare _ ih | atom _ ih =>
      exact ih
  | keyword | number | string | name => exact Nat.le_refl 1
  | choice | binary | unary | member | index | parens =>
      simp only [Expr.heightBy, List.length_append, List.length_cons, List.length_nil] at *
      omega
  | @call _ _ as _ _ items _ _ _ listed _ _ object each =>
      have arguments : heightOfAll 1 (items.map Element.value) ≤ as.length :=
        heightOfAll_le.2 (List.forall_mem_map.2 fun item among =>
          (each item among).trans (listed.length_le _ (List.mem_map_of_mem among)))
      simp only [Expr.heightBy, List.length_append, List.length_cons] at *
      omega
  | @array _ ts items listed _ each =>
      have values : heightOfAll 1 (items.map Element.value) ≤ ts.length :=
        heightOfAll_le.2 (List.forall_mem_map.2 fun item among =>
          (each item among).trans (listed.length_le _ (List.mem_map_of_mem among)))
      simp only [Expr.heightBy, List.length_append, List.length_cons] at *
      omega
  | @object _ ts fields listed _ _ each =>
      have inside : ∀ f ∈ fields, f.tokens.length ≤ ts.length := fun f among => by
        have phrase := listed.length_le _ (List.mem_map_of_mem among)
        simp only [Entry.phrase, List.length_cons] at phrase
        omega
      have values : heightOfFields 1 (fields.map Entry.pair) ≤ ts.length :=
        heightOfFields_le.2 (List.forall_mem_map.2 fun f among =>
          (each f among).trans (inside f among))
      simp only [Expr.heightBy, List.length_append, List.length_cons] at *
      omega

/-! ## What evaluation takes -/

section

variable {α β : Type}

/-- A result that takes no more calls. -/
def given (x : Except EvalError α) : ExceptT EvalError Option α :=
  .mk (some x)

theorem given_bind (x : Except EvalError α) (f : α → Except EvalError β) :
    given (x >>= f) = given x >>= fun a => given (f a) := by
  cases x <;> rfl

end

/-- The evaluation of an expression where calls of it may be nested only so deep; there is
    nothing if that is not enough. -/
def evalWithin (context : Context) : Nat → Expr → ExceptT EvalError Option Value
  | 0, _ => .mk none
  | _ + 1, .literal v => given (.ok v)
  | _ + 1, .name name => given ((Expr.name name).eval context)
  | d + 1, .member object name => do
      let v ← evalWithin context d object
      given (property v name)
  | d + 1, .index object index => do
      let v ← evalWithin context d object
      let i ← evalWithin context d index
      given (atIndex v i)
  | d + 1, .call method object arguments => do
      let v ← evalWithin context d object
      let vs ← arguments.mapM (evalWithin context d)
      given (callMethod method v vs)
  | d + 1, .unary op e => do
      let v ← evalWithin context d e
      given (applyUnary op v)
  | d + 1, .binary .both left right => do
      let v ← evalWithin context d left
      if truthy v then evalWithin context d right else given (.ok v)
  | d + 1, .binary .either left right => do
      let v ← evalWithin context d left
      if truthy v then given (.ok v) else evalWithin context d right
  | d + 1, .binary op left right => do
      let v ← evalWithin context d left
      let w ← evalWithin context d right
      given (applyBinary op v w)
  | d + 1, .choice condition yes no => do
      let v ← evalWithin context d condition
      if truthy v then evalWithin context d yes else evalWithin context d no
  | d + 1, .array items => do
      let vs ← items.mapM (evalWithin context d)
      given (.ok (.array vs))
  | d + 1, .object fields => do
      let pairs ← fields.mapM fun f => do
        let v ← evalWithin context d f.2
        given (.ok (f.1, v))
      given (.ok (.ofMap (.ofList pairs)))

variable {context : Context} {d : Nat}

theorem given_ite {c : Prop} [Decidable c] {x y : Except EvalError Value} :
    given (if c then x else y) = if c then given x else given y := by
  split <;> rfl

theorem Expr.height_pos (e : Expr) : 0 < e.heightBy 1 := by
  cases e <;> simp [Expr.heightBy]

theorem mapM_evalWithin (each : ∀ e : Expr, e.heightBy 1 ≤ d →
      evalWithin context d e = given (e.eval context)) (es : List Expr)
    (enough : heightOfAll 1 es ≤ d) :
    es.mapM (evalWithin context d) = given (evalAll context es) := by
  induction es with
  | nil => rfl
  | cons e rest ih =>
      obtain ⟨low, low'⟩ := Nat.max_le.1 enough
      rw [List.mapM_cons, each e low, ih low']
      simp only [evalAll, given_bind]
      rfl

theorem mapM_evalWithin_fields (each : ∀ e : Expr, e.heightBy 1 ≤ d →
      evalWithin context d e = given (e.eval context)) (fields : List (String × Expr))
    (enough : heightOfFields 1 fields ≤ d) :
    fields.mapM (fun f => do
      let v ← evalWithin context d f.2
      given (.ok (f.1, v))) = given (evalFields context fields) := by
  induction fields with
  | nil => rfl
  | cons field rest ih =>
      obtain ⟨key, e⟩ := field
      obtain ⟨low, low'⟩ := Nat.max_le.1 enough
      rw [List.mapM_cons, ih low', each e low]
      simp only [evalFields, given_bind, bind_assoc]
      rfl

/-- Calls nested as deep as the expression is high are enough. -/
theorem evalWithin_eq {e : Expr} (enough : e.heightBy 1 ≤ d) :
    evalWithin context d e = given (e.eval context) := by
  induction d generalizing e with
  | zero => exact absurd (e.height_pos.trans_le enough) (Nat.lt_irrefl 0)
  | succ d ih =>
      cases e with
      | literal | name => rfl
      | member object _ =>
          have first := ih (e := object) (Nat.le_of_succ_le_succ enough)
          simp only [evalWithin, Expr.eval, first, given_bind]
      | index object index =>
          obtain ⟨low, low'⟩ := Nat.max_le.1 enough
          have first := ih (e := object) (Nat.le_of_succ_le_succ low)
          have second := ih (e := index) (Nat.le_of_succ_le_succ low')
          simp only [evalWithin, Expr.eval, first, second, given_bind]
      | call _ object arguments =>
          obtain ⟨low, low'⟩ := Nat.max_le.1 enough
          have first := ih (e := object) (Nat.le_of_succ_le_succ low)
          have others := mapM_evalWithin (fun _ => ih) arguments (Nat.le_of_succ_le_succ low')
          simp only [evalWithin, Expr.eval, first, others, given_bind]
      | unary _ e =>
          have first := ih (e := e) (Nat.le_of_succ_le_succ enough)
          simp only [evalWithin, Expr.eval, first, given_bind]
      | binary op left right =>
          obtain ⟨low, low'⟩ := Nat.max_le.1 enough
          have first := ih (e := left) (Nat.le_of_succ_le_succ low)
          have second := ih (e := right) (Nat.le_of_succ_le_succ low')
          cases op <;> simp only [evalWithin, Expr.eval, first, second, given_bind, given_ite]
      | choice condition yes no =>
          obtain ⟨low, branches⟩ := Nat.max_le.1 (Nat.le_of_succ_le_succ enough)
          obtain ⟨low', low''⟩ := Nat.max_le.1 branches
          simp only [evalWithin, Expr.eval, ih low, ih low', ih low'', given_bind, given_ite]
      | array items =>
          have each := mapM_evalWithin (fun _ => ih) items (Nat.le_of_succ_le_succ enough)
          simp only [evalWithin, Expr.eval, each, given_bind]
      | object fields =>
          have each := mapM_evalWithin_fields (fun _ => ih) fields (Nat.le_of_succ_le_succ enough)
          simp only [evalWithin, Expr.eval, each, given_bind]

/-! ## Chains -/

/-- What a chain is continued by. -/
inductive Link where
  | operator (op : BinaryOp)
  | property
  | index
  | call

namespace Link

def category : Link → Category
  | .operator op => .layer op.layer
  | .property | .index | .call => .postfixed

def extend : Link → Expr → Expr
  | .operator op, e => .binary op e (.name "x")
  | .property, e => .member e "x"
  | .index, e => .index e (.name "x")
  | .call, e => .call .trim e []

def words : Link → List Word
  | .operator op => [.symbol op.symbol, .name "x"]
  | .property => [.symbol .dot, .name "x"]
  | .index => [.symbol .openBracket, .name "x", .symbol .closeBracket]
  | .call => [.symbol .dot, .name "trim", .symbol .openParen, .symbol .closeParen]

/-- A name and so many links after it. -/
def chain (link : Link) : Nat → Expr
  | 0 => .name "x"
  | n + 1 => link.extend (link.chain n)

def chainWords (link : Link) : Nat → List Word
  | 0 => [.name "x"]
  | n + 1 => link.chainWords n ++ link.words

def text (link : Link) (n : Nat) : String :=
  String.ofList (Word.text (link.chainWords n))

theorem isWord_x : IsWord "x" where
  named := rfl
  spelled := by
    have spells : Spells (wordToken "x") ['x'] :=
      spells_word (by decide +kernel) (by decide +kernel)
    exact spells

variable (link : Link) (n : Nat)

theorem spelled : ∀ w ∈ link.words, Spells w.token w.spelling := by
  have name : Spells (Word.name "x").token (Word.name "x").spelling := isWord_x.spelled
  have trim : Spells (Word.name Method.trim.name).token (Word.name Method.trim.name).spelling :=
    (isWord_method .trim).spelled
  cases link <;> simp only [words, List.forall_mem_cons]
  case operator | property => exact ⟨spelled_symbol _, name, List.forall_mem_nil _⟩
  case index => exact ⟨spelled_symbol _, name, spelled_symbol _, List.forall_mem_nil _⟩
  case call =>
    exact ⟨spelled_symbol _, trim, spelled_symbol _, spelled_symbol _, List.forall_mem_nil _⟩

theorem spelled_chain : ∀ w ∈ link.chainWords n, Spells w.token w.spelling := by
  induction n with
  | zero => exact List.forall_mem_singleton.2 isWord_x.spelled
  | succ n ih => exact List.forall_mem_append.2 ⟨ih, link.spelled⟩

/-- A link goes on with a phrase of its category, at no more nesting but for an index. -/
theorem derives_extend {ts : List Token} {e : Expr}
    (object : Derives link.category (n + 1) ts e) :
    Derives link.category (n + 1) (ts ++ link.words.map Word.token) (link.extend e) := by
  have name : Derives .primary (n + 1) [.name "x"] (.name "x") := .name "x"
  cases link with
  | operator op => exact .binary op object (name.layer_of_primary op.layer_lt)
  | property => exact .member object rfl
  | index => exact .index object (.nested (Derives.name "x").choice_of_primary)
  | call =>
      have none_ : Commas [] (([] : List Element).map Element.tokens) := .none
      exact .call .trim object rfl none_ (List.forall_mem_nil _) rfl

theorem derives_chain (links : Nat) : Derives link.category (n + 1)
    ((link.chainWords links).map Word.token) (link.chain links) := by
  induction links with
  | zero =>
      have name : Derives .primary (n + 1) [.name "x"] (.name "x") := .name "x"
      cases link with
      | operator op => exact name.layer_of_primary op.layer_lt.le
      | property | index | call => exact name.atom
  | succ links ih =>
      rw [chainWords, List.map_append]
      exact link.derives_extend n ih

/-- However long a chain is, its text is an expression. -/
theorem parse_text : parse (link.text n) = .ok (link.chain n) := by
  have derived : Derives .choice maxDepth ((link.chainWords n).map Word.token) (link.chain n) := by
    have chained := link.derives_chain 63 n
    cases link with
    | operator => exact chained.choice_of_layer
    | property | index | call => exact chained.choice_of_postfixed
  obtain ⟨ts, tiles, same⟩ := exists_tiles (link.spelled_chain n) (List.forall_mem_nil _) 0
  have lexed : tokensFrom 0 (link.text n).toList = .ok ts := by
    rw [text, String.toList_ofList]
    exact tokensFrom_of_tiles tiles
  exact parse_eq_ok_iff.2 ⟨_, same ▸ kinds_of_tokensFrom lexed, derived⟩

theorem height_chain : (link.chain n).height = n + 1 := by
  induction n with
  | zero => rfl
  | succ n ih =>
      rw [Expr.height] at *
      cases link <;> simp [chain, extend, Expr.heightBy, heightOfAll, ih]

/-- The evaluation of a chain takes a call within a call for each of the links. -/
theorem evalWithin_chain (context : Context) : evalWithin context n (link.chain n) = .mk none := by
  induction n with
  | zero => rfl
  | succ n ih =>
      cases link with
      | operator op => cases op <;> simp only [chain, extend, evalWithin, ih] <;> rfl
      | property | index | call =>
          simp only [chain, extend, evalWithin, ih]
          rfl

/-- A chain is higher than any number, and so is what its evaluation takes. -/
theorem exceeds (link : Link) (most : Nat) : ∃ source e, parse source = .ok e ∧ most < e.height ∧
    ∀ context, evalWithin context most e = .mk none :=
  ⟨link.text most, link.chain most, link.parse_text most,
    (link.height_chain most).symm ▸ most.lt_succ_self, link.evalWithin_chain most⟩

end Link

/-! ## Texts -/

/-- The limit on nesting bounds the height of an expression but for the links of chains;
    with these the height, and with it what evaluation takes, stays below the number of
    tokens. -/
theorem nesting_bounds_height {source : String} {e : Expr} (produced : parse source = .ok e) :
    e.heightBy 0 ≤ 8 * (maxDepth + 1) ∧ ∃ ts, tokenize source = .ok ts ∧ e.height < ts.length ∧
      ∀ context, evalWithin context ts.length e = given (e.eval context) := by
  obtain ⟨ts, lexed, parsed⟩ := bind_ok produced
  have derived := derives_of_parseTokens (tiles_of_tokenize lexed).closed parsed
  have below : e.height < ts.length := by
    have low := derived.height_le
    have some_ := List.length_pos_iff.2 (tiles_of_tokenize lexed).closed.tokens_ne_nil
    rw [List.length_dropLast] at low
    rw [tokens, List.length_map] at low some_
    omega
  exact ⟨derived.heightBy_zero_le, ts, lexed, below, fun _ => evalWithin_eq below.le⟩

theorem nesting_bounds_height_choice : ∃ e, parse "!(a && b) ? x[i] : [c.d]" = .ok e ∧
    e.heightBy 0 ≤ 8 * (maxDepth + 1) ∧
    ∃ ts, tokenize "!(a && b) ? x[i] : [c.d]" = .ok ts ∧ e.height < ts.length ∧
      ∀ context, evalWithin context ts.length e = given (e.eval context) := by
  have lexed : tokenize "!(a && b) ? x[i] : [c.d]" = .ok [⟨.symbol .bang, 0⟩,
      ⟨.symbol .openParen, 1⟩, ⟨.name "a", 2⟩, ⟨.symbol .both, 4⟩, ⟨.name "b", 7⟩,
      ⟨.symbol .closeParen, 8⟩, ⟨.symbol .question, 10⟩, ⟨.name "x", 12⟩,
      ⟨.symbol .openBracket, 13⟩, ⟨.name "i", 14⟩, ⟨.symbol .closeBracket, 15⟩,
      ⟨.symbol .colon, 17⟩, ⟨.symbol .openBracket, 19⟩, ⟨.name "c", 20⟩, ⟨.symbol .dot, 21⟩,
      ⟨.name "d", 22⟩, ⟨.symbol .closeBracket, 23⟩, ⟨.finish, 24⟩] :=
    eq_ok_of_toOption (by decide +kernel)
  have produced : parse "!(a && b) ? x[i] : [c.d]" = .ok (.choice
      (.unary .not (.binary .both (.name "a") (.name "b"))) (.index (.name "x") (.name "i"))
      (.array [.member (.name "c") "d"])) := by
    rw [parse, lexed]
    rfl
  exact ⟨_, produced, nesting_bounds_height produced⟩

/-- Neither the height of expressions nor what their evaluation takes has a bound. -/
theorem heights_unbounded :
    (¬ ∃ most, ∀ source e, parse source = .ok e → e.height ≤ most) ∧
    ¬ ∃ most, ∀ source e context, parse source = .ok e →
      evalWithin context most e = given (e.eval context) := by
  constructor
  · rintro ⟨most, bounded⟩
    obtain ⟨source, e, produced, high, _⟩ := Link.property.exceeds most
    exact absurd high (Nat.not_lt.2 (bounded source e produced))
  · rintro ⟨most, enough⟩
    obtain ⟨source, e, produced, _, deep⟩ := Link.property.exceeds most
    have given_ := (deep .empty).symm.trans (enough source e .empty produced)
    cases given_

end Superstep.Expression
