import Superstep.Proofs.Soundness

/-! # What is in the grammar the parser finds

The parser takes as much as it can, so it finds a phrase as soon as the token
after it does not go on with it. Phrases that grow to the right are found by
loops: a derivation of such a phrase says how far the loop has come when it has
read the phrase.
-/

namespace Superstep.Expression

/-- Whether a token appends something to the phrase before it. -/
def Token.appends : Token → Bool
  | .symbol .dot | .symbol .openBracket | .symbol .openParen => true
  | _ => false

/-- Whether a token goes on with a phrase of the category. -/
def Category.goesOn : Category → Token → Bool
  | .primary, _ => false
  | .postfixed, t | .prefixed, t => t.appends
  | .layer k, t => t.appends || (binaryOf t).any (k ≤ ·.layer)
  | .choice, t | .nested, t => t.appends || (binaryOf t).isSome || t == .symbol .question

def Symbol.closes : Symbol → Bool
  | .closeParen | .closeBracket | .closeBrace => true
  | _ => false

theorem goesOn_nested_of_closes {s : Symbol} (closes : s.closes = true) :
    Category.nested.goesOn (.symbol s) = false := by
  cases s <;> first | rfl | cases closes

theorem goesOn_layer_eq_false {k : Nat} {t : Token} :
    (Category.layer k).goesOn t = false ↔
      t.appends = false ∧ ∀ op : BinaryOp, t = .symbol op.symbol → op.layer < k := by
  simp only [Category.goesOn, Bool.or_eq_false_iff, ← binaryOf_eq_some_iff]
  cases binaryOf t <;> simp

theorem goesOn_layer_succ {k : Nat} {t : Token} (stop : (Category.layer k).goesOn t = false) :
    (Category.layer (k + 1)).goesOn t = false := by
  rw [goesOn_layer_eq_false] at stop ⊢
  exact ⟨stop.1, fun op same => Nat.lt_succ_of_lt (stop.2 op same)⟩

theorem layerOf_of_goesOn {k : Nat} {t : Token} (stop : (Category.layer k).goesOn t = false) :
    layerOf k t = none := by
  rw [goesOn_layer_eq_false] at stop
  cases found : layerOf k t with
  | none => rfl
  | some op =>
      obtain ⟨same, layer⟩ := layerOf_eq_some_iff.1 found
      have tighter := stop.2 op same
      omega

theorem goesOn_layer_of_choice {k : Nat} {t : Token} (stop : Category.choice.goesOn t = false) :
    (Category.layer k).goesOn t = false := by
  rw [goesOn_layer_eq_false]
  simp only [Category.goesOn, Bool.or_eq_false_iff] at stop
  refine ⟨stop.1.1, ?_⟩
  rintro op rfl
  simp at stop

/-- A phrase starts with a token that closes nothing, and with no prefix operator
    unless it is a prefix phrase or looser. -/
theorem Derives.starts {c : Category} {n : Nat} {used : List Token} {e : Expr}
    (derived : Derives c n used e) :
    ∃ t us, used = t :: us ∧ (∀ s, t = .symbol s → s.closes = false) ∧
      (c = .postfixed ∨ c = .primary → unaryOf t = none) := by
  induction derived with
  | nested _ ih | condition _ ih | operand _ ih | tightest _ ih | bare _ ih =>
      obtain ⟨t, us, rfl, opens, _⟩ := ih
      exact ⟨t, us, rfl, opens, by simp⟩
  | choice _ _ _ ih | binary _ _ _ ih =>
      obtain ⟨t, us, rfl, opens, _⟩ := ih
      exact ⟨t, _, rfl, opens, by simp⟩
  | unary op _ _ =>
      refine ⟨_, _, rfl, ?_, by simp⟩
      intro s same
      cases same
      cases op <;> rfl
  | atom _ ih =>
      obtain ⟨t, us, rfl, opens, bare⟩ := ih
      exact ⟨t, us, rfl, opens, fun _ => bare (.inr rfl)⟩
  | member _ _ ih | call _ _ _ _ _ _ ih | index _ _ ih =>
      obtain ⟨t, us, rfl, opens, bare⟩ := ih
      exact ⟨t, _, rfl, opens, bare⟩
  | keyword | number | string | name => exact ⟨_, _, rfl, nofun, fun _ => rfl⟩
  | parens | array | object =>
      refine ⟨_, _, rfl, ?_, fun _ => rfl⟩
      intro s same
      cases same
      rfl

/-! ## Loops

A loop may be made any number of times that is not less than the number of
tokens: every time it passes one.
-/

theorem Token.appends_cases (t : Token) :
    t = .symbol .dot ∨ t = .symbol .openBracket ∨ t = .symbol .openParen ∨ t.appends = false := by
  rcases t with _ | _ | _ | _ | s | _
  case symbol => cases s <;> simp [appends]
  all_goals simp [appends]

theorem postfixRest_stops {inner : Parse Expr} {e : Expr} {ts : Tokens}
    (stop : (peek ts).appends = false) (most : Nat) :
    postfixRest inner (most + 1) e ts = .ok (e, ts) := by
  unfold postfixRest
  split
  next next => rw [next] at stop; cases stop
  next next => rw [next] at stop; cases stop
  next next => rw [next] at stop; cases stop
  next => rfl

section

variable {n k : Nat}

theorem chainRest_enough {operand : Parse Expr} (sound : Sound operand (Derives (.layer (k + 1)) n))
    {ts : Tokens} (closed : Closed ts) (left : Expr) {a b : Nat} (enough : ts.length ≤ a)
    (same : ts.length ≤ b) :
    chainRest (layerOf k) operand a left ts = chainRest (layerOf k) operand b left ts := by
  have some_ := closed.length_pos
  induction a generalizing b left ts with
  | zero => omega
  | succ a ih =>
      cases b with
      | zero => omega
      | succ b =>
          cases found : layerOf k (peek ts) with
          | none => simp only [chainRest, found]
          | some op =>
              simp only [chainRest, found]
              cases taken : operand (advance ts) with
              | error _ => rfl
              | ok result =>
                  obtain ⟨right, mid⟩ := result
                  have passed := closed.reads_of_peek (layerOf_eq_some_iff.1 found).1 nofun
                  obtain ⟨used, reads, _⟩ := sound _ right mid passed.closed taken
                  have shorter := passed.length
                  have shorter' := reads.length
                  rw [List.length_singleton] at shorter
                  exact ih reads.closed _ (by omega) (by omega) reads.closed.length_pos

theorem postfixRest_enough {inner : Parse Expr} (sound : Sound inner (Derives .nested n))
    {ts : Tokens} (closed : Closed ts) (e : Expr) {a b : Nat} (enough : ts.length ≤ a)
    (same : ts.length ≤ b) : postfixRest inner a e ts = postfixRest inner b e ts := by
  have some_ := closed.length_pos
  induction a generalizing b e ts with
  | zero => omega
  | succ a ih =>
      cases b with
      | zero => omega
      | succ b =>
          rcases Token.appends_cases (peek ts) with dot | bracket | paren | stop
          · simp only [postfixRest, dot]
            cases taken : afterDot inner e (advance ts) with
            | error _ => rfl
            | ok result =>
                obtain ⟨longer, mid⟩ := result
                have passed := closed.reads_of_peek dot nofun
                obtain ⟨used, reads, _⟩ := afterDot_sound sound e _ longer mid passed.closed taken
                have shorter := passed.length
                have shorter' := reads.length
                rw [List.length_singleton] at shorter
                exact ih reads.closed _ (by omega) (by omega) reads.closed.length_pos
          · simp only [postfixRest, bracket]
            cases taken : inner (advance ts) with
            | error _ => rfl
            | ok result =>
                obtain ⟨i, mid⟩ := result
                have passed := closed.reads_of_peek bracket nofun
                obtain ⟨used, reads, _⟩ := sound _ i mid passed.closed taken
                cases closing : expect .closeBracket mid with
                | error _ => simp only [bind, Except.bind, closing]
                | ok result =>
                    obtain ⟨_, last⟩ := result
                    have readsClose := reads_of_expect reads.closed closing
                    have shorter := passed.length
                    have shorter' := reads.length
                    have shorter'' := readsClose.length
                    rw [List.length_singleton] at shorter shorter''
                    simp only [bind, Except.bind, closing]
                    exact ih readsClose.closed _ (by omega) (by omega) readsClose.closed.length_pos
          · simp only [postfixRest, paren]
          · rw [postfixRest_stops stop, postfixRest_stops stop]

end

/-! ## Lists -/

theorem expect_of_reads {s : Symbol} {ts rest : Tokens} (reads : Reads ts [.symbol s] rest) :
    expect s ts = .ok ((), rest) := by
  rw [expect, if_pos reads.peek_eq, reads.advance_reads.nil_eq]

section

variable {α β : Type} {shape : β → List Token} {value : β → α} {close : Symbol}
  {element : Parse α} {items : List β}

theorem elements_complete (closes : close.closes = true)
    (starts : ∀ item ∈ items, ∃ t us, shape item = t :: us ∧ t ≠ .symbol close)
    (finds : ∀ item ∈ items, ∀ ts rest, Reads ts (shape item) rest →
      Category.nested.goesOn (peek rest) = false → element ts = .ok (value item, rest))
    {used : List Token} (listed : Commas used (items.map shape)) {ts rest : Tokens}
    (reads : Reads ts used rest) (end_ : peek rest = .symbol close) {most : Nat}
    (enough : ts.length ≤ most) :
    elements close element most ts = .ok (items.map value, rest) := by
  have some_ := reads.closed_before.length_pos
  induction items generalizing used ts most with
  | nil =>
      obtain ⟨most, rfl⟩ := Nat.exists_eq_add_one_of_ne_zero (show most ≠ 0 by omega)
      cases listed
      rw [elements, reads.nil_eq, if_pos end_]
      rfl
  | cons item items ih =>
      obtain ⟨most, rfl⟩ := Nat.exists_eq_add_one_of_ne_zero (show most ≠ 0 by omega)
      obtain ⟨t, us, first, opens⟩ := starts item List.mem_cons_self
      have found := finds item List.mem_cons_self
      have notClose : (Token.symbol .comma) ≠ .symbol close := fun same => by
        cases same
        cases closes
      -- The lists are indices of the derivation, so they have to be variables.
      rw [List.map_cons] at listed
      generalize named : shape item = tokens at listed
      rw [named] at first found
      generalize others : items.map shape = shapes at listed
      cases listed with
      | last =>
          have next : peek ts ≠ .symbol close := by
            rw [first] at reads
            rwa [reads.peek_eq]
          have stop : Category.nested.goesOn (peek rest) = false := by
            rw [end_]
            exact goesOn_nested_of_closes closes
          have alone : ¬ peek rest = .symbol .comma := by
            rw [end_]
            exact notClose.symm
          rw [List.map_eq_nil_iff.1 others, elements, if_neg next]
          simp only [found ts rest reads stop, bind, Except.bind, alone, if_false]
          rfl
      | more _ later =>
          obtain ⟨mid, readsItem, readsLater⟩ := reads.split
          have next : peek ts ≠ .symbol close := by
            rw [first] at readsItem
            rwa [readsItem.peek_eq]
          have comma := readsLater.peek_eq
          have stop : Category.nested.goesOn (peek mid) = false := by
            rw [comma]
            rfl
          have shorter := readsItem.length
          have shorter' := readsLater.length
          have shorter'' := readsLater.advance_reads.length
          rw [first] at shorter
          simp only [List.length_cons] at shorter shorter'
          have remaining := ih (fun i among => starts i (List.mem_cons_of_mem _ among))
            (fun i among => finds i (List.mem_cons_of_mem _ among)) (others ▸ later)
            readsLater.advance_reads (show (advance mid).length ≤ most by omega)
            readsLater.advance_reads.closed_before.length_pos
          rw [elements, if_neg next]
          simp only [found ts mid readsItem stop, bind, Except.bind, comma, if_true, remaining]
          rfl

theorem elementsTo_complete (closes : close.closes = true)
    (starts : ∀ item ∈ items, ∃ t us, shape item = t :: us ∧ t ≠ .symbol close)
    (finds : ∀ item ∈ items, ∀ ts rest, Reads ts (shape item) rest →
      Category.nested.goesOn (peek rest) = false → element ts = .ok (value item, rest))
    {used : List Token} (listed : Commas used (items.map shape)) {ts rest : Tokens}
    (reads : Reads ts (used ++ [.symbol close]) rest) :
    elementsTo close element ts = .ok (items.map value, rest) := by
  obtain ⟨mid, inside, readsClose⟩ := reads.split
  have found := elements_complete closes starts finds listed inside readsClose.peek_eq
    (Nat.le_refl _)
  simp only [elementsTo, found, expect_of_reads readsClose, bind, Except.bind]

end

/-! ## Phrases -/

def layerParser (n k : Nat) : Parse Expr :=
  layered (level n).unary (binaryLayers.drop k)

/-- How that parser goes on after a phrase of the layer. -/
def resumeLayer (n k : Nat) (e : Expr) : Parse Expr := fun ts =>
  match binaryLayers.drop k with
  | [] => .ok (e, ts)
  | operator :: tighter =>
      chainRest operator (layered (level n).unary tighter) ts.length e ts

/-- That the parser finds a phrase of a category. For phrases that grow to the
    right this says how far it has come when it has read the phrase. -/
def Finds : Category → Nat → List Token → Expr → Prop
  | .nested, n, used, e => ∀ ts rest, Reads ts used rest →
      Category.nested.goesOn (peek rest) = false → (level n).expression ts = .ok (e, rest)
  | .choice, n, used, e => ∀ ts rest, Reads ts used rest →
      Category.choice.goesOn (peek rest) = false → (level (n + 1)).expression ts = .ok (e, rest)
  | .layer k, n, used, e => ∀ ts rest, Reads ts used rest →
      (Category.layer (k + 1)).goesOn (peek rest) = false →
        layerParser n k ts = resumeLayer n k e rest
  | .prefixed, n, used, e => ∀ ts rest, Reads ts used rest →
      Category.prefixed.goesOn (peek rest) = false → (level n).unary ts = .ok (e, rest)
  | .postfixed, n, used, e => ∀ ts rest, Reads ts used rest → peek rest ≠ .symbol .openParen →
      postfixed (level n).expression ts =
        postfixRest (level n).expression (rest.length + 1) e rest
  | .primary, n, used, e => ∀ ts rest, Reads ts used rest →
      primary (level n).expression ts = .ok (e, rest)

section

variable {n k : Nat} {ts mid rest : Tokens} {used : List Token} {e : Expr}

theorem layerParser_of_lt (loose : k < 6) (n : Nat) :
    layerParser n k = chain (layerOf k) (layerParser n (k + 1)) := by
  rw [layerParser, binaryLayers_drop loose]
  rfl

theorem resumeLayer_of_lt (loose : k < 6) (n : Nat) (e : Expr) (ts : Tokens) :
    resumeLayer n k e ts = chainRest (layerOf k) (layerParser n (k + 1)) ts.length e ts := by
  rw [resumeLayer, binaryLayers_drop loose]
  rfl

theorem layerParser_of_ge (tight : 6 ≤ k) (n : Nat) : layerParser n k = (level n).unary := by
  rw [layerParser, List.drop_eq_nil_of_le tight]
  rfl

theorem resumeLayer_of_ge (tight : 6 ≤ k) (n : Nat) (e : Expr) (ts : Tokens) :
    resumeLayer n k e ts = .ok (e, ts) := by
  rw [resumeLayer, List.drop_eq_nil_of_le tight]

theorem resumeLayer_stops (closed : Closed rest)
    (stop : (Category.layer k).goesOn (peek rest) = false) :
    resumeLayer n k e rest = .ok (e, rest) := by
  by_cases loose : k < 6
  · obtain ⟨most, more⟩ := Nat.exists_eq_add_one_of_ne_zero (Nat.ne_of_gt closed.length_pos)
    rw [resumeLayer_of_lt loose, more, chainRest, layerOf_of_goesOn stop]
  · exact resumeLayer_of_ge (Nat.le_of_not_lt loose) n e rest

theorem layerParser_sound (n : Nat) (loose : k ≤ 6) :
    Sound (layerParser n k) (Derives (.layer k) n) :=
  layered_sound (level_sound n).2 (Nat.add_sub_cancel' loose)

theorem Finds.layer_stops (finds : Finds (.layer k) n used e) (reads : Reads ts used rest)
    (stop : (Category.layer k).goesOn (peek rest) = false) :
    layerParser n k ts = .ok (e, rest) := by
  rw [finds ts rest reads (goesOn_layer_succ stop), resumeLayer_stops reads.closed stop]

theorem finds_operand (finds : Finds (.layer (k + 1)) n used e) : Finds (.layer k) n used e := by
  intro ts rest reads stop
  have found := finds.layer_stops reads stop
  by_cases loose : k < 6
  · rw [layerParser_of_lt loose, chain, resumeLayer_of_lt loose]
    simp only [found, bind, Except.bind]
  · have tight := Nat.le_of_not_lt loose
    rw [layerParser_of_ge (Nat.le_succ_of_le tight)] at found
    rw [layerParser_of_ge tight, resumeLayer_of_ge tight, found]

theorem finds_binary {op : BinaryOp} {ls rs : List Token} {l r : Expr}
    (left : Finds (.layer op.layer) n ls l) (right : Finds (.layer (op.layer + 1)) n rs r) :
    Finds (.layer op.layer) n (ls ++ .symbol op.symbol :: rs) (.binary op l r) := by
  intro ts rest reads stop
  obtain ⟨mid, readsLeft, readsRight⟩ := reads.split
  have next := readsRight.peek_eq
  have readsOperand := readsRight.advance_reads
  have loose : op.layer < 6 := by cases op <;> decide
  have tighter : (Category.layer (op.layer + 1)).goesOn (peek mid) = false := by
    rw [next, goesOn_layer_eq_false]
    refine ⟨by cases op <;> rfl, fun other same => ?_⟩
    have equal : binaryOf (.symbol op.symbol) = some other := binaryOf_eq_some_iff.2 same
    rw [binaryOf_symbol] at equal
    cases equal
    exact Nat.lt_succ_self _
  have found := right.layer_stops readsOperand stop
  have shorter := readsOperand.length
  have shorter' := readsRight.length
  rw [List.length_cons] at shorter'
  obtain ⟨most, more⟩ := Nat.exists_eq_add_one_of_ne_zero
    (Nat.ne_of_gt readsRight.closed_before.length_pos)
  -- The loop that has read the left operand makes one turn for the operator; how often
  -- it may still turn then does not matter.
  rw [left ts mid readsLeft tighter, resumeLayer_of_lt loose, resumeLayer_of_lt loose, more,
    chainRest, next, layerOf_eq_some_iff.2 ⟨rfl, rfl⟩]
  simp only [found, bind, Except.bind]
  exact chainRest_enough (layerParser_sound n loose) reads.closed _ (by omega) (Nat.le_refl _)

theorem finds_choice {cs ys ns : List Token} {c y no : Expr} (condition : Finds (.layer 0) n cs c)
    (yes : Finds .nested n ys y) (otherwise : Finds .nested n ns no) :
    Finds .choice n (cs ++ .symbol .question :: (ys ++ .symbol .colon :: ns)) (.choice c y no) := by
  intro ts rest reads stop
  obtain ⟨question, readsCondition, reads⟩ := reads.split
  have next := reads.peek_eq
  obtain ⟨colon, readsYes, reads⟩ := reads.advance_reads.split
  have nextColon := reads.peek_eq
  have found : layerParser n 0 ts = .ok (c, question) :=
    condition.layer_stops readsCondition (by rw [next]; rfl)
  have foundYes := yes _ colon readsYes (by rw [nextColon]; rfl)
  have foundNo := otherwise _ rest reads.advance_reads stop
  have passed : expect .colon colon = .ok ((), advance colon) := if_pos nextColon
  have same : (level (n + 1)).expression ts =
      choice (level n).expression (layerParser n 0) ts := rfl
  simp only [same, choice, found, next, foundYes, passed, foundNo, bind, Except.bind, if_true]

theorem finds_condition (alone : Finds (.layer 0) n used e) : Finds .choice n used e := by
  intro ts rest reads stop
  have found := alone.layer_stops reads (goesOn_layer_of_choice stop)
  have notQuestion : ¬ peek rest = .symbol .question := fun same => by
    rw [same] at stop
    cases stop
  have same : (level (n + 1)).expression ts =
      choice (level n).expression (layerParser n 0) ts := rfl
  simp only [same, choice, found, notQuestion, bind, Except.bind, if_false]

theorem finds_unary {op : UnaryOp} (operand : Finds .prefixed n used e) :
    Finds .prefixed (n + 1) (.symbol op.symbol :: used) (.unary op e) := by
  intro ts rest reads stop
  have found := operand _ rest reads.advance_reads stop
  have next : unaryOf (peek ts) = some op := by
    rw [reads.peek_eq, unaryOf_eq_some_iff]
  have same : (level (n + 1)).unary =
      prefixed (some (level n).unary) (level (n + 1)).expression := rfl
  simp only [same, prefixed, next, found, bind, Except.bind]

theorem finds_bare (derived : Derives .postfixed n used e) (finds : Finds .postfixed n used e) :
    Finds .prefixed n used e := by
  intro ts rest reads stop
  obtain ⟨t, us, rfl, _, bare⟩ := derived.starts
  have next : unaryOf (peek ts) = none := by
    rw [reads.peek_eq]
    exact bare (.inl rfl)
  have notOpening : peek rest ≠ .symbol .openParen := fun same => by
    rw [same] at stop
    cases stop
  have same : ∃ below, (level n).unary = prefixed below (level n).expression := by
    cases n with
    | zero => exact ⟨none, rfl⟩
    | succ n => exact ⟨some (level n).unary, rfl⟩
  obtain ⟨below, same⟩ := same
  simp only [same, prefixed, next]
  rw [finds ts rest reads notOpening, postfixRest_stops stop]

theorem finds_atom (alone : Finds .primary n used e) : Finds .postfixed n used e := by
  intro ts rest reads _
  simp only [postfixed, alone ts rest reads, bind, Except.bind]

/-- A phrase that goes on with a point is found if what follows the point is. -/
theorem finds_afterDot {more : List Token} {e' : Expr} (object : Finds .postfixed n used e)
    (after : ∀ ts rest, Reads ts more rest → peek rest ≠ .symbol .openParen →
      afterDot (level n).expression e ts = .ok (e', rest)) :
    Finds .postfixed n (used ++ .symbol .dot :: more) e' := by
  intro ts rest reads stop
  obtain ⟨mid, readsObject, reads⟩ := reads.split
  have dot := reads.peek_eq
  have found := after _ rest reads.advance_reads stop
  have shorter := reads.length
  rw [List.length_cons] at shorter
  rw [object ts mid readsObject (by rw [dot]; nofun), postfixRest, dot]
  simp only [found, bind, Except.bind]
  exact postfixRest_enough (level_sound n).1 reads.closed _ (by omega) (by omega)

theorem finds_member {t : Token} {word : String} (object : Finds .postfixed n used e)
    (named : wordOf t = some word) :
    Finds .postfixed n (used ++ [.symbol .dot, t]) (.member e word) := by
  apply finds_afterDot object
  intro ts rest reads stop
  have next : wordOf (peek ts) = some word := by rw [reads.peek_eq, named]
  have last := reads.advance_reads.nil_eq
  simp only [afterDot, next, last, stop, if_false]

theorem finds_index {is : List Token} {i : Expr} (object : Finds .postfixed n used e)
    (inside : Finds .nested n is i) :
    Finds .postfixed n (used ++ .symbol .openBracket :: (is ++ [.symbol .closeBracket]))
      (.index e i) := by
  intro ts rest reads _
  obtain ⟨mid, readsObject, reads⟩ := reads.split
  have opening := reads.peek_eq
  obtain ⟨last, readsIndex, readsClose⟩ := reads.advance_reads.split
  have found := inside _ last readsIndex (by rw [readsClose.peek_eq]; rfl)
  have closing := expect_of_reads readsClose
  have shorter := reads.length
  simp only [List.length_cons, List.length_append] at shorter
  rw [object ts mid readsObject (by rw [opening]; nofun), postfixRest, opening]
  simp only [found, closing, bind, Except.bind]
  exact postfixRest_enough (level_sound n).1 reads.closed _ (by omega) (by omega)

theorem elements_found {close : Symbol} (closes : close.closes = true) {items : List Element}
    (each : ∀ item ∈ items, Derives .nested n item.tokens item.value)
    (finds : ∀ item ∈ items, Finds .nested n item.tokens item.value)
    (listed : Commas used (items.map Element.tokens))
    (reads : Reads ts (used ++ [.symbol close]) rest) :
    elementsTo close (level n).expression ts = .ok (items.map Element.value, rest) := by
  refine elementsTo_complete closes ?_ finds listed reads
  intro item among
  obtain ⟨t, us, first, opens, _⟩ := (each item among).starts
  refine ⟨t, us, first, fun same => ?_⟩
  rw [opens close same] at closes
  cases closes

theorem finds_call {as : List Token} {t : Token} {items : List Element} {method : Method}
    (object : Finds .postfixed n used e) (named : wordOf t = some method.name)
    (listed : Commas as (items.map Element.tokens))
    (each : ∀ item ∈ items, Derives .nested n item.tokens item.value)
    (finds : ∀ item ∈ items, Finds .nested n item.tokens item.value)
    (enough : items.length = method.arity) :
    Finds .postfixed n
      (used ++ .symbol .dot :: t :: .symbol .openParen :: (as ++ [.symbol .closeParen]))
      (.call method e (items.map Element.value)) := by
  apply finds_afterDot object
  intro ts rest reads _
  have next : wordOf (peek ts) = some method.name := by rw [reads.peek_eq, named]
  have opening := reads.advance_reads.peek_eq
  have known : Method.ofName? method.name = some method := Method.ofName?_eq_some_iff.2 rfl
  have found := elements_found rfl each finds listed reads.advance_reads.advance_reads
  have arity : (items.map Element.value).length = method.arity := by rw [List.length_map, enough]
  simp only [afterDot, next, opening, known, found, arity, bind, Except.bind, if_true]

theorem finds_parens (inside : Finds .nested n used e) :
    Finds .primary n (.symbol .openParen :: (used ++ [.symbol .closeParen])) e := by
  intro ts rest reads
  have next := reads.peek_eq
  obtain ⟨mid, readsInside, readsClose⟩ := reads.advance_reads.split
  have found := inside _ mid readsInside (by rw [readsClose.peek_eq]; rfl)
  have closing := expect_of_reads readsClose
  simp only [primary, next, found, closing, bind, Except.bind]

theorem finds_array {items : List Element} (listed : Commas used (items.map Element.tokens))
    (each : ∀ item ∈ items, Derives .nested n item.tokens item.value)
    (finds : ∀ item ∈ items, Finds .nested n item.tokens item.value) :
    Finds .primary n (.symbol .openBracket :: (used ++ [.symbol .closeBracket]))
      (.array (items.map Element.value)) := by
  intro ts rest reads
  have next := reads.peek_eq
  have found := elements_found rfl each finds listed reads.advance_reads
  simp only [primary, next, found, bind, Except.bind]

theorem finds_object {fields : List Entry} (listed : Commas used (fields.map Entry.phrase))
    (keys : ∀ f ∈ fields, keyOf f.key = some f.word)
    (finds : ∀ f ∈ fields, Finds .nested n f.tokens f.value) :
    Finds .primary n (.symbol .openBrace :: (used ++ [.symbol .closeBrace]))
      (.object (fields.map Entry.pair)) := by
  intro ts rest reads
  have next := reads.peek_eq
  have found : elementsTo .closeBrace (field (level n).expression) (advance ts) =
      .ok (fields.map Entry.pair, rest) := by
    refine elementsTo_complete rfl ?_ ?_ listed reads.advance_reads
    · intro f among
      refine ⟨_, _, rfl, fun same => ?_⟩
      have word := keys f among
      rw [same] at word
      cases word
    · intro f among ts rest reads stop
      have key : keyOf (peek ts) = some f.word := by rw [reads.peek_eq, keys f among]
      have colon : expect .colon (advance ts) = .ok ((), advance (advance ts)) :=
        if_pos reads.advance_reads.peek_eq
      have value := finds f among _ rest reads.advance_reads.advance_reads stop
      simp only [field, key, colon, value, bind, Except.bind]
      rfl
  simp only [primary, next, found, bind, Except.bind]

end

/-- The parser finds what the grammar derives. -/
theorem Derives.finds {c : Category} {n : Nat} {used : List Token} {e : Expr}
    (derived : Derives c n used e) : Finds c n used e := by
  induction derived with
  | nested _ ih => exact ih
  | condition _ ih => exact finds_condition ih
  | choice _ _ _ condition yes otherwise => exact finds_choice condition yes otherwise
  | operand _ ih => exact finds_operand ih
  | binary _ _ _ left right => exact finds_binary left right
  | tightest _ ih =>
      intro ts rest reads stop
      rw [layerParser_of_ge (Nat.le_refl 6), resumeLayer_of_ge (Nat.le_refl 6)]
      exact ih ts rest reads (goesOn_layer_eq_false.1 stop).1
  | unary _ _ ih => exact finds_unary ih
  | bare alone ih => exact finds_bare alone ih
  | atom _ ih => exact finds_atom ih
  | member _ named ih => exact finds_member ih named
  | call method _ named listed each enough object finds =>
      exact finds_call object named listed each finds enough
  | index _ _ object inside => exact finds_index object inside
  | keyword k =>
      intro ts rest reads
      have next := reads.peek_eq
      rw [← reads.advance_reads.nil_eq]
      cases k <;> simp only [primary, next] <;> rfl
  | number | string | name =>
      intro ts rest reads
      have next := reads.peek_eq
      simp only [primary, next, reads.advance_reads.nil_eq]
  | parens _ inside => exact finds_parens inside
  | array listed each finds => exact finds_array listed each finds
  | object listed keys _ finds => exact finds_object listed keys finds

/-- The grammar is not ambiguous: tokens before an end spell at most one expression. -/
theorem Derives.unique {n : Nat} {ts rest : Tokens} {used : List Token} {e₁ e₂ : Expr}
    (reads : Reads ts used rest) (end_ : peek rest = .finish)
    (left : Derives .choice n used e₁) (right : Derives .choice n used e₂) : e₁ = e₂ := by
  have stop : Category.choice.goesOn (peek rest) = false := by
    rw [end_]
    rfl
  have found := left.finds ts rest reads stop
  rw [right.finds ts rest reads stop] at found
  cases found
  rfl

/-- Of closed tokens the parser makes an expression if and only if the grammar
    derives it from the tokens before the end. -/
theorem parseTokens_eq_ok_iff {ts : Tokens} (closed : Closed ts) (e : Expr) :
    parseTokens ts = .ok e ↔ Derives .choice maxDepth (tokens ts).dropLast e := by
  constructor
  · intro ok
    obtain ⟨⟨found, rest⟩, parsed, ok⟩ := bind_ok ok
    simp only at ok
    split at ok
    next end_ =>
      cases ok
      obtain ⟨used, reads, derived⟩ := (level_sound (maxDepth + 1)).1 ts e rest closed parsed
      cases derived with
      | nested inside => exact reads.eq_dropLast end_ ▸ inside
    next => cases ok
  · intro derived
    obtain ⟨rest, reads, end_⟩ := closed.reads_all
    have parsed : (level (maxDepth + 1)).expression ts = .ok (e, rest) :=
      derived.finds ts rest reads (by rw [end_]; rfl)
    simp only [parseTokens, parsed, end_, bind, Except.bind, if_true]

theorem parseTokens_eq_ok_iff_sum :
    Derives .choice maxDepth
      [.name "a", .symbol .plus, .name "b", .symbol .star, .name "c"]
      (.binary .add (.name "a") (.binary .mul (.name "b") (.name "c"))) := by
  have closed : Closed [⟨.name "a", 0⟩, ⟨.symbol .plus, 1⟩, ⟨.name "b", 2⟩, ⟨.symbol .star, 3⟩,
      ⟨.name "c", 4⟩, ⟨.finish, 5⟩] :=
    .cons nofun (.cons nofun (.cons nofun (.cons nofun (.cons nofun (.finish rfl)))))
  exact (parseTokens_eq_ok_iff closed _).1 rfl

end Superstep.Expression
