import Mathlib.Tactic.Choose
import Superstep.Proofs.Completeness
import Superstep.Proofs.Limits
import Superstep.Proofs.Shapes

/-! # Expressions as texts

An expression is written with brackets around every operand that has parts of its own,
and with one space between tokens. How numbers are written is up to a style, as long as
they are read back, and so is whether more brackets stand where none are needed. As far
as its constructs are not nested too deeply, the text is read as the expression again.
-/

namespace Superstep.Expression

/-- A token with what spells it. -/
structure Word where
  token : Token
  spelling : List Char

namespace Word

def symbol (s : Symbol) : Word := ⟨.symbol s, s.text.toList⟩

def keyword (k : Keyword) : Word := ⟨.keyword k, k.text.toList⟩

/-- A name, or a keyword as a name. -/
def name (s : String) : Word := ⟨wordToken s, s.toList⟩

def number (d : Numeral) : Word := ⟨.number (numberOf d.whole d.places), numeral d.whole d.places⟩

/-- A character within double quotes. -/
def escaped (c : Char) : List Char :=
  if c = '\\' ∨ c = '"' then ['\\', c] else [c]

def string (s : String) : Word := ⟨.string s, '"' :: (s.toList.flatMap escaped ++ ['"'])⟩

def bracketed (brackets : Bool) (ws : List Word) : List Word :=
  if brackets then symbol .openParen :: (ws ++ [symbol .closeParen]) else ws

def commaed (items : List (List Word)) : List Word :=
  [symbol .comma].intercalate items

/-- Words with a space between any two. -/
def text (ws : List Word) : List Char :=
  [' '].intercalate (ws.map Word.spelling)

end Word

/-- A way to write expressions. -/
structure Style where
  digits : Json.Number → Numeral
  /-- What has digits is read back from those of the style. -/
  reads : ∀ (x : Json.Number) (d : Numeral), d.value? = some x → (digits x).value? = some x
  /-- The expressions that get brackets where these make no difference: as elements,
      fields, arguments and indices. -/
  brackets : Expr → Bool

def Style.literal (style : Style) : Json.Value → List Word
  | .null => [.keyword .null]
  | .bool true => [.keyword .yes]
  | .bool false => [.keyword .no]
  | .number x => [.number (style.digits x)]
  | .string s => [.string s]
  -- A text has arrays and objects of expressions instead.
  | .array _ | .object _ => []

namespace Expr

/-- Whether the expression has parts of its own. -/
def isCompound : Expr → Bool
  | .literal _ | .name _ => false
  | _ => true

mutual

def words (style : Style) : Expr → List Word
  | .literal v => style.literal v
  | .name s => [.name s]
  | .member e s => Word.bracketed e.isCompound (e.words style) ++ [.symbol .dot, .name s]
  | .index e i =>
      Word.bracketed e.isCompound (e.words style) ++ .symbol .openBracket ::
        (Word.bracketed (style.brackets i) (i.words style) ++ [.symbol .closeBracket])
  | .call m e as =>
      Word.bracketed e.isCompound (e.words style) ++ .symbol .dot :: .name m.name ::
        .symbol .openParen :: (Word.commaed (wordsOfItems style as) ++ [.symbol .closeParen])
  | .unary op e => .symbol op.symbol :: Word.bracketed e.isCompound (e.words style)
  | .binary op l r =>
      Word.bracketed l.isCompound (l.words style) ++ .symbol op.symbol ::
        Word.bracketed r.isCompound (r.words style)
  | .choice c y n =>
      Word.bracketed c.isCompound (c.words style) ++ .symbol .question ::
        (Word.bracketed y.isCompound (y.words style) ++ .symbol .colon ::
          Word.bracketed n.isCompound (n.words style))
  | .array items =>
      .symbol .openBracket ::
        (Word.commaed (wordsOfItems style items) ++ [.symbol .closeBracket])
  | .object fields =>
      .symbol .openBrace :: (Word.commaed (wordsOfFields style fields) ++ [.symbol .closeBrace])

def wordsOfItems (style : Style) : List Expr → List (List Word)
  | [] => []
  | e :: rest => Word.bracketed (style.brackets e) (e.words style) :: wordsOfItems style rest

def wordsOfFields (style : Style) : List (String × Expr) → List (List Word)
  | [] => []
  | (key, e) :: rest =>
      (.string key :: .symbol .colon :: Word.bracketed (style.brackets e) (e.words style)) ::
        wordsOfFields style rest

end

/-- The text of an expression. -/
def write (style : Style) (e : Expr) : String :=
  String.ofList (Word.text (e.words style))

/-- How deep something lies that may have brackets around it. -/
def depth (brackets : Bool) (nesting : Nat) : Nat :=
  if brackets then nesting + 1 else nesting

mutual

/-- How many constructs are nested in the text of an expression: brackets, branches and
    the operands of prefix operators. -/
def nesting (style : Style) : Expr → Nat
  | .literal _ | .name _ => 0
  | .member e _ => depth e.isCompound (e.nesting style)
  | .index e i =>
      max (depth e.isCompound (e.nesting style)) (depth (style.brackets i) (i.nesting style) + 1)
  | .call _ e as => max (depth e.isCompound (e.nesting style)) (nestingOfItems style as)
  | .unary _ e => depth e.isCompound (e.nesting style) + 1
  | .binary _ l r =>
      max (depth l.isCompound (l.nesting style)) (depth r.isCompound (r.nesting style))
  | .choice c y n =>
      max (depth c.isCompound (c.nesting style))
        (max (depth y.isCompound (y.nesting style)) (depth n.isCompound (n.nesting style)) + 1)
  | .array items => nestingOfItems style items
  | .object fields => nestingOfFields style fields

def nestingOfItems (style : Style) : List Expr → Nat
  | [] => 0
  | e :: rest => max (depth (style.brackets e) (e.nesting style) + 1) (nestingOfItems style rest)

def nestingOfFields (style : Style) : List (String × Expr) → Nat
  | [] => 0
  | (_, e) :: rest =>
      max (depth (style.brackets e) (e.nesting style) + 1) (nestingOfFields style rest)

end

end Expr

/-! ## Tokens -/

namespace Word

@[simp] theorem token_symbol (s : Symbol) : (symbol s).token = .symbol s := rfl

@[simp] theorem token_string (s : String) : (string s).token = .string s := rfl

@[simp] theorem token_name (s : String) : (name s).token = wordToken s := rfl

end Word

section

variable {ws : List Word} {items : List (List Word)}

theorem spelled_symbol (s : Symbol) : Spells (Word.symbol s).token (Word.symbol s).spelling :=
  .symbol s

theorem spelled_string (s : String) :
    Spells (Word.string s).token (Word.string s).spelling := by
  have quotes (cs : List Char) : Quotes '"' (cs.flatMap Word.escaped ++ ['"']) cs := by
    induction cs with
    | nil => exact .close
    | cons c rest ih =>
        rw [List.flatMap_cons, List.append_assoc]
        by_cases special : c = '\\' ∨ c = '"'
        · have same : unescape c = c := by rcases special with rfl | rfl <;> rfl
          have escape := Quotes.escape c ih
          rw [same] at escape
          rw [Word.escaped, if_pos special]
          exact escape
        · rw [Word.escaped, if_neg special]
          exact .plain (fun same => special (.inl same)) (fun same => special (.inr same)) ih
  have spells := Spells.string (.inl rfl) (quotes s.toList)
  rwa [String.ofList_toList] at spells

theorem spelled_bracketed (brackets : Bool)
    (spelled : ∀ w ∈ ws, Spells w.token w.spelling) :
    ∀ w ∈ Word.bracketed brackets ws, Spells w.token w.spelling := by
  cases brackets with
  | false => exact spelled
  | true =>
      simp only [Word.bracketed, if_true, List.forall_mem_cons, List.forall_mem_append]
      exact ⟨spelled_symbol _, spelled, spelled_symbol _, List.forall_mem_nil _⟩

theorem spelled_commaed (spelled : ∀ item ∈ items, ∀ w ∈ item, Spells w.token w.spelling) :
    ∀ w ∈ Word.commaed items, Spells w.token w.spelling := by
  induction items with
  | nil => exact List.forall_mem_nil _
  | cons first rest ih =>
      obtain ⟨own, later⟩ := List.forall_mem_cons.1 spelled
      cases rest with
      | nil =>
          rw [Word.commaed, List.intercalate_singleton]
          exact own
      | cons second more =>
          rw [Word.commaed, List.intercalate_cons_cons]
          simp only [List.forall_mem_append, List.forall_mem_cons]
          exact ⟨⟨own, spelled_symbol _, List.forall_mem_nil _⟩, ih later⟩

theorem commas_commaed (items : List (List Word)) :
    Commas ((Word.commaed items).map Word.token) (items.map (List.map Word.token)) := by
  induction items with
  | nil => exact .none
  | cons first rest ih =>
      cases rest with
      | nil =>
          rw [Word.commaed, List.intercalate_singleton]
          exact .last _
      | cons second more =>
          rw [Word.commaed, List.intercalate_cons_cons, List.append_assoc, List.map_append]
          exact .more _ ih

end

namespace Derives

variable {n : Nat} {ts : List Token} {e : Expr}

theorem layer_of_le {j k : Nat} (derived : Derives (.layer k) n ts e) (looser : j ≤ k) :
    Derives (.layer j) n ts e := by
  induction looser using Nat.decreasingInduction with
  | self => exact derived
  | of_succ k _ ih => exact .operand ih

theorem choice_of_layer {k : Nat} (derived : Derives (.layer k) n ts e) :
    Derives .choice n ts e :=
  .condition (derived.layer_of_le (Nat.zero_le k))

theorem choice_of_prefixed (derived : Derives .prefixed n ts e) : Derives .choice n ts e :=
  derived.tightest.choice_of_layer

theorem choice_of_postfixed (derived : Derives .postfixed n ts e) : Derives .choice n ts e :=
  derived.bare.choice_of_prefixed

theorem choice_of_primary (derived : Derives .primary n ts e) : Derives .choice n ts e :=
  derived.atom.choice_of_postfixed

theorem layer_of_primary (derived : Derives .primary n ts e) {k : Nat} (inside : k ≤ 6) :
    Derives (.layer k) n ts e :=
  derived.atom.bare.tightest.layer_of_le inside

end Derives

namespace Expr

variable {style : Style}

theorem wordsOfItems_eq (items : List Expr) :
    wordsOfItems style items =
      items.map fun e => Word.bracketed (style.brackets e) (e.words style) := by
  induction items with
  | nil => rfl
  | cons e rest ih => rw [wordsOfItems, ih, List.map_cons]

theorem wordsOfFields_eq (fields : List (String × Expr)) :
    wordsOfFields style fields = fields.map fun f =>
      .string f.1 :: .symbol .colon :: Word.bracketed (style.brackets f.2) (f.2.words style) := by
  induction fields with
  | nil => rfl
  | cons f rest ih => rw [wordsOfFields, ih, List.map_cons]

theorem nestingOfItems_le {items : List Expr} {n : Nat} :
    nestingOfItems style items ≤ n ↔
      ∀ e ∈ items, depth (style.brackets e) (e.nesting style) + 1 ≤ n := by
  induction items with
  | nil => simp [nestingOfItems]
  | cons e rest ih => rw [nestingOfItems, Nat.max_le, ih, List.forall_mem_cons]

theorem nestingOfFields_le {fields : List (String × Expr)} {n : Nat} :
    nestingOfFields style fields ≤ n ↔
      ∀ f ∈ fields, depth (style.brackets f.2) (f.2.nesting style) + 1 ≤ n := by
  induction fields with
  | nil => simp [nestingOfFields]
  | cons f rest ih => rw [nestingOfFields, Nat.max_le, ih, List.forall_mem_cons]

end Expr

/-- What is written of an expression spells it. -/
structure Said (style : Style) (e : Expr) : Prop where
  spelled : ∀ w ∈ e.words style, Spells w.token w.spelling
  derives : ∀ n, e.nesting style ≤ n → Derives .choice n ((e.words style).map Word.token) e
  atom : e.isCompound = false → ∀ n, Derives .primary n ((e.words style).map Word.token) e

namespace Said

variable {style : Style} {e : Expr} {n : Nat}

theorem of_primary
    (spelled : ∀ w ∈ e.words style, Spells w.token w.spelling)
    (derives : ∀ n, e.nesting style ≤ n → Derives .primary n ((e.words style).map Word.token) e)
    (flat : e.isCompound = false → e.nesting style = 0) : Said style e where
  spelled := spelled
  derives n enough := (derives n enough).choice_of_primary
  atom simple n := derives n (flat simple ▸ Nat.zero_le n)

theorem operand (said : Said style e)
    (enough : Expr.depth e.isCompound (e.nesting style) ≤ n) :
    Derives .primary n ((Word.bracketed e.isCompound (e.words style)).map Word.token) e := by
  cases compound : e.isCompound with
  | false => exact said.atom compound n
  | true =>
      rw [compound, Expr.depth, if_pos rfl] at enough
      obtain ⟨m, rfl⟩ := Nat.exists_eq_add_of_lt enough
      have inside := Derives.nested (said.derives _ (Nat.le_add_right (e.nesting style) m))
      simpa [Word.bracketed] using Derives.parens inside

theorem inner (said : Said style e) {brackets : Bool}
    (enough : Expr.depth brackets (e.nesting style) + 1 ≤ n) :
    Derives .nested n ((Word.bracketed brackets (e.words style)).map Word.token) e := by
  obtain ⟨m, rfl⟩ := Nat.exists_eq_add_of_lt enough
  refine .nested ?_
  cases brackets with
  | false => exact said.derives _ (Nat.le_add_right _ m)
  | true =>
      have nested := Derives.nested (said.derives _ (Nat.le_add_right (e.nesting style) m))
      have whole := (Derives.parens nested).choice_of_primary
      rw [Nat.add_right_comm] at whole
      simpa [Word.bracketed, Expr.depth] using whole

theorem spelled_operand (said : Said style e) (brackets : Bool) :
    ∀ w ∈ Word.bracketed brackets (e.words style), Spells w.token w.spelling :=
  spelled_bracketed brackets said.spelled

theorem spelled_items {items : List Expr} (each : ∀ e ∈ items, Said style e) :
    ∀ w ∈ Word.commaed (Expr.wordsOfItems style items), Spells w.token w.spelling := by
  rw [Expr.wordsOfItems_eq]
  refine spelled_commaed (List.forall_mem_map.2 fun e member => ?_)
  exact (each e member).spelled_operand _

theorem spelled_fields {fields : List (String × Expr)} (each : ∀ f ∈ fields, Said style f.2) :
    ∀ w ∈ Word.commaed (Expr.wordsOfFields style fields), Spells w.token w.spelling := by
  rw [Expr.wordsOfFields_eq]
  refine spelled_commaed (List.forall_mem_map.2 fun f member => ?_)
  simp only [List.forall_mem_cons]
  exact ⟨spelled_string _, spelled_symbol _, (each f member).spelled_operand _⟩

/-- The phrases of items with commas between them. -/
theorem items {items : List Expr} (each : ∀ e ∈ items, Said style e)
    (enough : Expr.nestingOfItems style items ≤ n) :
    ∃ elements : List Element, elements.map Element.value = items ∧
      Commas ((Word.commaed (Expr.wordsOfItems style items)).map Word.token)
        (elements.map Element.tokens) ∧
      ∀ x ∈ elements, Derives .nested n x.tokens x.value := by
  refine ⟨items.map fun e =>
    ⟨(Word.bracketed (style.brackets e) (e.words style)).map Word.token, e⟩, ?_, ?_, ?_⟩
  · rw [List.map_map]
    exact List.map_id items
  · have listed := commas_commaed (Expr.wordsOfItems style items)
    rw [Expr.wordsOfItems_eq, List.map_map] at listed
    rw [Expr.wordsOfItems_eq, List.map_map]
    exact listed
  · rw [List.forall_mem_map]
    exact fun e member => (each e member).inner (Expr.nestingOfItems_le.1 enough e member)

theorem fields {fields : List (String × Expr)} (each : ∀ f ∈ fields, Said style f.2)
    (enough : Expr.nestingOfFields style fields ≤ n) :
    ∃ entries : List Entry, entries.map Entry.pair = fields ∧
      Commas ((Word.commaed (Expr.wordsOfFields style fields)).map Word.token)
        (entries.map Entry.phrase) ∧
      (∀ x ∈ entries, keyOf x.key = some x.word) ∧
      ∀ x ∈ entries, Derives .nested n x.tokens x.value := by
  refine ⟨fields.map fun f =>
    ⟨.string f.1, f.1, (Word.bracketed (style.brackets f.2) (f.2.words style)).map Word.token,
      f.2⟩, ?_, ?_, ?_, ?_⟩
  · rw [List.map_map]
    exact List.map_id fields
  · have listed := commas_commaed (Expr.wordsOfFields style fields)
    rw [Expr.wordsOfFields_eq, List.map_map] at listed
    rw [Expr.wordsOfFields_eq, List.map_map]
    exact listed
  · rw [List.forall_mem_map]
    exact fun f _ => rfl
  · rw [List.forall_mem_map]
    exact fun f member => (each f member).inner (Expr.nestingOfFields_le.1 enough f member)

/-! ### One lemma for each kind of expression -/

attribute [local simp] Expr.words

theorem keyword (k : Keyword) : Said style (.literal k.value) := by
  have spells : ∀ w ∈ [Word.keyword k], Spells w.token w.spelling :=
    List.forall_mem_singleton.2 (spells_keyword k)
  cases k <;> exact .of_primary spells (fun _ _ => .keyword _) fun _ => rfl

theorem number {x : Json.Number} {d : Numeral} (value : d.value? = some x) :
    Said style (.literal (.number x)) := by
  obtain ⟨b, digits, same⟩ := Option.map_eq_some_iff.1 (style.reads x d value)
  have token : (Word.number (style.digits x)).token = .number (some b) :=
    congrArg Token.number digits
  refine .of_primary (List.forall_mem_singleton.2 ?_) (fun n _ => ?_) fun _ => rfl
  · exact .number (style.digits x).some_ (style.digits x).digits
  · rw [Expr.words, Style.literal, List.map_singleton, token, ← same]
    exact .number b

theorem string (s : String) : Said style (.literal (.string s)) :=
  .of_primary (List.forall_mem_singleton.2 (spelled_string s)) (fun _ _ => .string s) fun _ => rfl

theorem name {s : String} (proper : IsName s) : Said style (.name s) := by
  have token : (Word.name s).token = .name s := proper.free
  refine .of_primary (List.forall_mem_singleton.2 ?_) (fun n _ => ?_) fun _ => rfl
  · rw [token]
    exact proper.spelled
  · rw [Expr.words, List.map_singleton, token]
    exact .name s

variable {e₁ e₂ e₃ : Expr}

theorem member {s : String} (object : Said style e) (proper : IsWord s) :
    Said style (.member e s) := by
  refine ⟨?_, fun n enough => ?_, nofun⟩
  · simp only [Expr.words, List.forall_mem_append, List.forall_mem_cons]
    exact ⟨object.spelled_operand _, spelled_symbol _, proper.spelled, List.forall_mem_nil _⟩
  · rw [Expr.words, List.map_append]
    exact (Derives.member (object.operand enough).atom proper.named).choice_of_postfixed

theorem index (object : Said style e₁) (inside : Said style e₂) : Said style (.index e₁ e₂) := by
  refine ⟨?_, fun n enough => ?_, nofun⟩
  · simp only [Expr.words, List.forall_mem_append, List.forall_mem_cons]
    exact ⟨object.spelled_operand _, spelled_symbol _, inside.spelled_operand _, spelled_symbol _,
      List.forall_mem_nil _⟩
  · obtain ⟨outer, deep⟩ := Nat.max_le.1 enough
    have derived := Derives.index (object.operand outer).atom (inside.inner deep)
    simpa using derived.choice_of_postfixed

theorem call {m : Method} {as : List Expr} (object : Said style e) (each : ∀ a ∈ as, Said style a)
    (enough : as.length = m.arity) : Said style (.call m e as) := by
  have word := isWord_method m
  refine ⟨?_, fun n deep => ?_, nofun⟩
  · simp only [Expr.words, List.forall_mem_append, List.forall_mem_cons]
    exact ⟨object.spelled_operand _, spelled_symbol _, word.spelled, spelled_symbol _,
      spelled_items each, spelled_symbol _, List.forall_mem_nil _⟩
  · obtain ⟨outer, inner⟩ := Nat.max_le.1 deep
    obtain ⟨elements, rfl, listed, derives⟩ := Said.items each inner
    rw [List.length_map] at enough
    have derived :=
      Derives.call m (object.operand outer).atom word.named listed derives enough
    simpa using derived.choice_of_postfixed

theorem unary (op : UnaryOp) (operand : Said style e) : Said style (.unary op e) := by
  refine ⟨?_, fun n enough => ?_, nofun⟩
  · simp only [Expr.words, List.forall_mem_cons]
    exact ⟨spelled_symbol _, operand.spelled_operand _⟩
  · obtain ⟨m, rfl⟩ := Nat.exists_eq_add_of_lt enough
    have inside := (operand.operand (Nat.le_add_right _ m)).atom.bare
    exact (Derives.unary op inside).choice_of_prefixed

theorem binary (op : BinaryOp) (left : Said style e₁) (right : Said style e₂) :
    Said style (.binary op e₁ e₂) := by
  have tight : op.layer < 6 := by cases op <;> decide
  refine ⟨?_, fun n enough => ?_, nofun⟩
  · simp only [Expr.words, List.forall_mem_append, List.forall_mem_cons]
    exact ⟨left.spelled_operand _, spelled_symbol _, right.spelled_operand _⟩
  · obtain ⟨first, second⟩ := Nat.max_le.1 enough
    have derived := Derives.binary op ((left.operand first).layer_of_primary (Nat.le_of_lt tight))
      ((right.operand second).layer_of_primary tight)
    simpa using derived.choice_of_layer

theorem choice (condition : Said style e₁) (yes : Said style e₂) (otherwise : Said style e₃) :
    Said style (.choice e₁ e₂ e₃) := by
  refine ⟨?_, fun n enough => ?_, nofun⟩
  · simp only [Expr.words, List.forall_mem_append, List.forall_mem_cons]
    exact ⟨condition.spelled_operand _, spelled_symbol _, yes.spelled_operand _, spelled_symbol _,
      otherwise.spelled_operand _⟩
  · obtain ⟨first, deep⟩ := Nat.max_le.1 enough
    obtain ⟨m, rfl⟩ := Nat.exists_eq_add_of_lt deep
    obtain ⟨second, third⟩ := Nat.max_le.1 (Nat.le_of_lt_succ deep)
    have derived := Derives.choice ((condition.operand first).layer_of_primary (Nat.zero_le 6))
      (.nested (yes.operand second).choice_of_primary)
      (.nested (otherwise.operand third).choice_of_primary)
    simpa using derived

theorem array {items : List Expr} (each : ∀ e ∈ items, Said style e) :
    Said style (.array items) := by
  refine ⟨?_, fun n enough => ?_, nofun⟩
  · simp only [Expr.words, List.forall_mem_append, List.forall_mem_cons]
    exact ⟨spelled_symbol _, spelled_items each, spelled_symbol _, List.forall_mem_nil _⟩
  · obtain ⟨elements, rfl, listed, derives⟩ := Said.items each enough
    simpa using (Derives.array listed derives).choice_of_primary

theorem object {fields : List (String × Expr)} (each : ∀ f ∈ fields, Said style f.2) :
    Said style (.object fields) := by
  refine ⟨?_, fun n enough => ?_, nofun⟩
  · simp only [Expr.words, List.forall_mem_append, List.forall_mem_cons]
    exact ⟨spelled_symbol _, spelled_fields each, spelled_symbol _, List.forall_mem_nil _⟩
  · obtain ⟨entries, rfl, listed, keys, derives⟩ := Said.fields each enough
    simpa using (Derives.object listed keys derives).choice_of_primary

end Said

/-- What can be said is said by its text. -/
theorem Sayable.said {e : Expr} (sayable : Sayable e) (style : Style) : Said style e := by
  induction sayable with
  | keyword k => exact .keyword k
  | number d value => exact .number value
  | string s => exact .string s
  | name proper => exact .name proper
  | member _ proper object => exact object.member proper
  | index _ _ object inside => exact object.index inside
  | call _ _ enough object each => exact object.call each enough
  | unary _ operand => exact operand.unary _
  | binary _ _ left right => exact left.binary _ right
  | choice _ _ _ condition yes otherwise => exact condition.choice yes otherwise
  | array _ each => exact .array each
  | object _ each => exact .object each

/-! ## Texts -/

/-- What is written of words has the tokens of the words. -/
theorem exists_tiles {ws : List Word} (spelled : ∀ w ∈ ws, Spells w.token w.spelling)
    {gap : List Char} (blank : ∀ c ∈ gap, Text.isBlank c = true) (start : Nat) :
    ∃ ts, Tiles Apart start (gap ++ Word.text ws) ts ∧
      tokens ts = ws.map Word.token ++ [.finish] := by
  induction ws generalizing gap start with
  | nil =>
      rw [Word.text, List.map_nil, List.intercalate_nil, List.append_nil]
      exact ⟨_, .finish blank, rfl⟩
  | cons w rest ih =>
      obtain ⟨own, others⟩ := List.forall_mem_cons.1 spelled
      cases rest with
      | nil =>
          rw [Word.text, List.map_singleton, List.intercalate_singleton,
            ← List.append_nil w.spelling]
          exact ⟨_, .word blank own nofun (.finish (List.forall_mem_nil _)), rfl⟩
      | cons next more =>
          have space : ∀ c ∈ [' '], Text.isBlank c = true := List.forall_mem_singleton.2 (by decide)
          obtain ⟨ts, tiles, same⟩ := ih others space
            (start + byteLength gap + byteLength w.spelling)
          have apart : Apart ([' '] ++ Word.text (next :: more)) := by
            rintro c ⟨⟩
            decide
          rw [Word.text, List.map_cons, List.map_cons, List.intercalate_cons_cons,
            List.append_assoc]
          exact ⟨_, .word blank own apart tiles, by rw [tokens_cons, same]; rfl⟩

/-- There are styles with any brackets and with any digits of a number that are read
    back. -/
theorem exists_style {x : Json.Number} {d : Numeral} (value : d.value? = some x)
    (brackets : Expr → Bool) :
    ∃ style : Style, style.digits x = d ∧ style.brackets = brackets := by
  classical
  have each (y : Json.Number) : ∃ c : Numeral, (y = x → c = d) ∧
      ∀ c' : Numeral, c'.value? = some y → c.value? = some y := by
    by_cases same : y = x
    · exact ⟨d, fun _ => rfl, fun _ _ => same ▸ value⟩
    · by_cases spelled : ∃ c : Numeral, c.value? = some y
      · obtain ⟨c, own⟩ := spelled
        exact ⟨c, fun other => absurd other same, fun _ _ => own⟩
      · exact ⟨d, fun _ => rfl, fun c own => absurd ⟨c, own⟩ spelled⟩
  choose digits chosen reads using each
  exact ⟨⟨digits, reads, brackets⟩, chosen x rfl, rfl⟩

/-- What is written of an expression that some text spells is read as this expression:
    always if not too much is nested in it, and otherwise unless the parser finds that
    too much is nested. -/
theorem parse_write {source : String} {e : Expr} (produced : parse source = .ok e)
    (style : Style) :
    (e.nesting style ≤ maxDepth → parse (e.write style) = .ok e) ∧
      (parse (e.write style) = .ok e ∨
        ∃ position, parse (e.write style) = .error (.parse position .tooDeep)) := by
  have said := (sayable_of_parse produced).said style
  obtain ⟨ts, tiles, same⟩ := exists_tiles said.spelled (List.forall_mem_nil _) 0
  have lexed : tokenize (e.write style) = .ok ts := by
    rw [tokenize, Expr.write, String.toList_ofList]
    exact tokensFrom_of_tiles tiles
  obtain ⟨rest, reads, end_⟩ := tiles.closed.reads_all
  rw [same, List.dropLast_concat] at reads
  have stop : Category.choice.goesOn (peek rest) = false := by
    rw [end_]
    rfl
  have found {n : Nat} (enough : e.nesting style ≤ n) :
      (level (n + 1)).expression ts = .ok (e, rest) :=
    (said.derives n enough).finds ts rest reads stop
  have whole : parse (e.write style) = parseTokens ts := by
    simp only [parse, lexed, bind, Except.bind]
  rw [whole]
  constructor
  · intro flat
    simp only [parseTokens, found flat, end_, bind, Except.bind, if_true]
  · exact parseTokens_limits (Nat.succ_le_succ (Nat.le_max_right _ maxDepth))
      (found (Nat.le_max_left _ _)) end_

theorem parse_write_condition :
    ∃ e, ∃ style : Style, parse "name.trim() == 'a\\\\b' || !(count < 3)" = .ok e ∧
      e.write style = "( ( name . trim ( ) ) == \"a\\\\b\" ) || ( ! ( count < 3 ) )" ∧
      parse (e.write style) = .ok e := by
  have digit : ∀ x ∈ ['3'] ++ [], Text.isDecimalDigit x = true :=
    List.forall_mem_singleton.2 (by decide)
  have finite : (numberOf ['3'] []).isSome = true := by decide +kernel
  obtain ⟨b, three⟩ := Option.isSome_iff_exists.1 finite
  have lexed : tokenize "name.trim() == 'a\\\\b' || !(count < 3)" = .ok [⟨.name "name", 0⟩,
      ⟨.symbol .dot, 4⟩, ⟨.name "trim", 5⟩, ⟨.symbol .openParen, 9⟩, ⟨.symbol .closeParen, 10⟩,
      ⟨.symbol .equal, 12⟩, ⟨.string "a\\b", 15⟩, ⟨.symbol .either, 22⟩, ⟨.symbol .bang, 25⟩,
      ⟨.symbol .openParen, 26⟩, ⟨.name "count", 27⟩, ⟨.symbol .less, 33⟩,
      ⟨.number (numberOf ['3'] []), 35⟩, ⟨.symbol .closeParen, 36⟩, ⟨.finish, 37⟩] :=
    eq_ok_of_toOption (by decide +kernel)
  have produced : parse "name.trim() == 'a\\\\b' || !(count < 3)" =
      .ok (.binary .either
        (.binary .equal (.call .trim (.name "name") []) (.literal (.string "a\\b")))
        (.unary .not (.binary .less (.name "count") (.literal (.number (.ofBinary64 b)))))) := by
    rw [parse, lexed, three]
    rfl
  have value : Numeral.value? ⟨['3'], [], by decide, digit⟩ = some (.ofBinary64 b) := by
    rw [Numeral.value?, three]
    rfl
  obtain ⟨style, written, _⟩ := exists_style value fun _ => false
  refine ⟨_, style, produced, ?_, (parse_write produced style).1 (show 3 ≤ maxDepth by decide)⟩
  simp only [Expr.write, Expr.words, Style.literal, written]
  rfl

end Superstep.Expression
