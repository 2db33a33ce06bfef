import Superstep.Proofs.Reading
import Superstep.Proofs.Results

/-! # What the parser finds is in the grammar

Each combinator takes a phrase of its category off the front of the tokens. The
loops carry the phrase that they have found so far.
-/

namespace Superstep.Expression

/-- What the parser takes off the front of closed tokens spells its result. -/
def Sound {α : Type} (p : Parse α) (spells : List Token → α → Prop) : Prop :=
  ∀ ts a rest, Closed ts → p ts = .ok (a, rest) → ∃ used, Reads ts used rest ∧ spells used a

theorem fail_ne_ok {α : Type} {cause : ParseCause} {ts : Tokens} {x : α × Tokens} :
    fail cause ts ≠ .ok x := by
  intro ok
  cases ok

theorem sound_fail {α : Type} (cause : ParseCause) (spells : List Token → α → Prop) :
    Sound (fail cause) spells :=
  fun _ _ _ _ ok => absurd ok fail_ne_ok

theorem Closed.reads_of_peek {ts : Tokens} {t : Token} (closed : Closed ts) (next : peek ts = t)
    (inner : t ≠ .finish) : Reads ts [t] (advance ts) := by
  subst next
  exact closed.reads_next inner

theorem reads_of_expect {s : Symbol} {ts rest : Tokens} {u : Unit} (closed : Closed ts)
    (ok : expect s ts = .ok (u, rest)) : Reads ts [.symbol s] rest := by
  unfold expect at ok
  split at ok
  next next =>
    cases ok
    exact closed.reads_of_peek next nofun
  next => exact absurd ok fail_ne_ok

section

variable {α β : Type} {shape : β → List Token} {value : β → α} {good : β → Prop}
  {close : Symbol} {element : Parse α}

theorem elements_sound
    (sound : Sound element fun ts a => ∃ item, ts = shape item ∧ a = value item ∧ good item)
    (most : Nat) :
    Sound (elements close element most) fun ts as =>
      ∃ items : List β, Commas ts (items.map shape) ∧ as = items.map value ∧
        ∀ item ∈ items, good item := by
  induction most with
  | zero =>
      intro ts as rest closed ok
      cases ok
      exact ⟨[], .none closed, [], .none, rfl, by simp⟩
  | succ most ih =>
      intro ts as rest closed ok
      unfold elements at ok
      split at ok
      next =>
        cases ok
        exact ⟨[], .none closed, [], .none, rfl, by simp⟩
      next =>
        obtain ⟨⟨first, mid⟩, found, ok⟩ := bind_ok ok
        obtain ⟨used, reads, item, rfl, rfl, holds⟩ := sound ts first mid closed found
        simp only at ok
        split at ok
        next comma =>
          obtain ⟨⟨others, last⟩, later, ok⟩ := bind_ok ok
          cases ok
          have passed := reads.closed.reads_of_peek comma nofun
          obtain ⟨more, readsMore, items, listed, rfl, each⟩ :=
            ih _ others _ passed.closed later
          refine ⟨_, reads.trans (passed.trans readsMore), item :: items, .more _ listed, rfl, ?_⟩
          exact List.forall_mem_cons.2 ⟨holds, each⟩
        next =>
          cases ok
          exact ⟨_, reads, [item], .last _, rfl, by simpa using holds⟩

theorem elementsTo_sound
    (sound : Sound element fun ts a => ∃ item, ts = shape item ∧ a = value item ∧ good item) :
    Sound (elementsTo close element) fun ts as =>
      ∃ inside, ∃ items : List β, ts = inside ++ [.symbol close] ∧
        Commas inside (items.map shape) ∧ as = items.map value ∧ ∀ item ∈ items, good item := by
  intro ts as rest closed ok
  obtain ⟨⟨all, mid⟩, found, ok⟩ := bind_ok ok
  obtain ⟨⟨_, last⟩, closing, ok⟩ := bind_ok ok
  cases ok
  obtain ⟨inside, reads, items, listed, rfl, each⟩ :=
    elements_sound sound _ ts as mid closed found
  have readsClose := reads_of_expect reads.closed closing
  exact ⟨_, reads.trans readsClose, inside, items, rfl, listed, rfl, each⟩

end

section

variable {n : Nat} {inner : Parse Expr} (sound : Sound inner (Derives .nested n))

include sound

theorem element_sound :
    Sound inner fun ts e =>
      ∃ item : Element, ts = item.tokens ∧ e = item.value ∧
        Derives .nested n item.tokens item.value := by
  intro ts e rest closed ok
  obtain ⟨used, reads, derived⟩ := sound ts e rest closed ok
  exact ⟨used, reads, ⟨used, e⟩, rfl, rfl, derived⟩

theorem field_sound :
    Sound (field inner) fun ts pair =>
      ∃ f : Entry, ts = f.phrase ∧ pair = f.pair ∧
        (keyOf f.key = some f.word ∧ Derives .nested n f.tokens f.value) := by
  intro ts pair rest closed ok
  unfold field at ok
  split at ok
  next => exact absurd ok fail_ne_ok
  next word key =>
    obtain ⟨⟨_, mid⟩, colon, ok⟩ := bind_ok ok
    obtain ⟨⟨value, last⟩, found, ok⟩ := bind_ok ok
    cases ok
    have inside : peek ts ≠ .finish := fun end_ => by rw [end_] at key; cases key
    have readsKey := closed.reads_next inside
    have readsColon := reads_of_expect readsKey.closed colon
    obtain ⟨used, reads, derived⟩ := sound mid value rest readsColon.closed found
    exact ⟨_, readsKey.trans (readsColon.trans reads), ⟨peek ts, word, used, value⟩, rfl, rfl, key,
      derived⟩

theorem primary_sound : Sound (primary inner) (Derives .primary n) := by
  intro ts e rest closed ok
  unfold primary at ok
  simp only at ok
  split at ok
  next next =>
    cases ok
    exact ⟨_, closed.reads_of_peek next nofun, .keyword .null⟩
  next next =>
    cases ok
    exact ⟨_, closed.reads_of_peek next nofun, .keyword .yes⟩
  next next =>
    cases ok
    exact ⟨_, closed.reads_of_peek next nofun, .keyword .no⟩
  next x next =>
    cases ok
    exact ⟨_, closed.reads_of_peek next nofun, .number x⟩
  next => exact absurd ok fail_ne_ok
  next s next =>
    cases ok
    exact ⟨_, closed.reads_of_peek next nofun, .string s⟩
  next s next =>
    cases ok
    exact ⟨_, closed.reads_of_peek next nofun, .name s⟩
  next next =>
    obtain ⟨⟨inside, mid⟩, found, ok⟩ := bind_ok ok
    obtain ⟨⟨_, last⟩, closing, ok⟩ := bind_ok ok
    cases ok
    have opened := closed.reads_of_peek next nofun
    obtain ⟨used, reads, derived⟩ := sound _ _ mid opened.closed found
    have readsClose := reads_of_expect reads.closed closing
    exact ⟨_, opened.trans (reads.trans readsClose), .parens derived⟩
  next next =>
    obtain ⟨⟨all, mid⟩, found, ok⟩ := bind_ok ok
    cases ok
    have opened := closed.reads_of_peek next nofun
    obtain ⟨_, reads, used, items, rfl, listed, rfl, each⟩ :=
      elementsTo_sound (element_sound sound) _ all _ opened.closed found
    exact ⟨_, opened.trans reads, .array listed each⟩
  next next =>
    obtain ⟨⟨all, mid⟩, found, ok⟩ := bind_ok ok
    cases ok
    have opened := closed.reads_of_peek next nofun
    obtain ⟨_, reads, used, fields, rfl, listed, rfl, each⟩ :=
      elementsTo_sound (field_sound sound) _ all _ opened.closed found
    exact ⟨_, opened.trans reads,
      .object listed (fun f among => (each f among).1) (fun f among => (each f among).2)⟩
  next => exact absurd ok fail_ne_ok
  next => exact absurd ok fail_ne_ok

/-- What follows a point makes a longer phrase of what stands before it. -/
theorem afterDot_sound (e : Expr) :
    Sound (afterDot inner e) fun ts e' =>
      ∀ us, Derives .postfixed n us e → Derives .postfixed n (us ++ .symbol .dot :: ts) e' := by
  intro ts e' rest closed ok
  unfold afterDot at ok
  split at ok
  next => exact absurd ok fail_ne_ok
  next word named =>
    have inside : peek ts ≠ .finish := fun end_ => by rw [end_] at named; cases named
    have readsWord := closed.reads_next inside
    simp only at ok
    split at ok
    next opening =>
      split at ok
      next => exact absurd ok fail_ne_ok
      next method known =>
        obtain ⟨⟨arguments, last⟩, found, ok⟩ := bind_ok ok
        simp only at ok
        split at ok
        next enough =>
          cases ok
          have opened := readsWord.closed.reads_of_peek opening nofun
          obtain ⟨_, reads, listing, items, rfl, listed, rfl, each⟩ :=
            elementsTo_sound (element_sound sound) _ _ _ opened.closed found
          rw [Method.ofName?_eq_some_iff] at known
          subst known
          rw [List.length_map] at enough
          exact ⟨_, readsWord.trans (opened.trans reads), fun us derived =>
            .call method derived named listed each enough⟩
        next => exact absurd ok fail_ne_ok
    next =>
      cases ok
      exact ⟨_, readsWord, fun us derived => .member derived named⟩

theorem postfixRest_sound (most : Nat) (e : Expr) :
    Sound (postfixRest inner most e) fun ts e' =>
      ∀ us, Derives .postfixed n us e → Derives .postfixed n (us ++ ts) e' := by
  induction most generalizing e with
  | zero =>
      intro ts e' rest closed ok
      cases ok
      exact ⟨[], .none closed, fun us derived => by rwa [List.append_nil]⟩
  | succ most ih =>
      intro ts e' rest closed ok
      unfold postfixRest at ok
      split at ok
      next dot =>
        obtain ⟨⟨longer, mid⟩, found, ok⟩ := bind_ok ok
        have passed := closed.reads_of_peek dot nofun
        obtain ⟨used, reads, longerOf⟩ := afterDot_sound sound e _ longer mid passed.closed found
        obtain ⟨more, readsMore, goesOn⟩ := ih longer mid e' rest reads.closed ok
        refine ⟨_, (passed.trans reads).trans readsMore, fun us derived => ?_⟩
        rw [← List.append_assoc]
        exact goesOn _ (longerOf us derived)
      next bracket =>
        obtain ⟨⟨i, mid⟩, found, ok⟩ := bind_ok ok
        obtain ⟨⟨_, last⟩, closing, ok⟩ := bind_ok ok
        have opened := closed.reads_of_peek bracket nofun
        obtain ⟨used, reads, inside⟩ := sound _ i mid opened.closed found
        have readsClose := reads_of_expect reads.closed closing
        obtain ⟨more, readsMore, goesOn⟩ := ih (.index e i) last e' rest readsClose.closed ok
        refine ⟨_, (opened.trans (reads.trans readsClose)).trans readsMore, fun us derived => ?_⟩
        rw [← List.append_assoc]
        exact goesOn _ (.index derived inside)
      next => exact absurd ok fail_ne_ok
      next =>
        cases ok
        exact ⟨[], .none closed, fun us derived => by rwa [List.append_nil]⟩

theorem postfixed_sound : Sound (postfixed inner) (Derives .postfixed n) := by
  intro ts e rest closed ok
  obtain ⟨⟨atom, mid⟩, found, ok⟩ := bind_ok ok
  obtain ⟨used, reads, derived⟩ := primary_sound sound ts atom mid closed found
  obtain ⟨more, readsMore, goesOn⟩ := postfixRest_sound sound _ atom mid e rest reads.closed ok
  exact ⟨_, reads.trans readsMore, goesOn used (.atom derived)⟩

theorem prefixed_sound {below : Option (Parse Expr)}
    (soundBelow : ∀ operand ∈ below, ∃ m, n = m + 1 ∧ Sound operand (Derives .prefixed m)) :
    Sound (prefixed below inner) (Derives .prefixed n) := by
  intro ts e rest closed ok
  unfold prefixed at ok
  split at ok
  next =>
    obtain ⟨used, reads, derived⟩ := postfixed_sound sound ts e rest closed ok
    exact ⟨used, reads, .bare derived⟩
  next op found =>
    split at ok
    next => exact absurd ok fail_ne_ok
    next operand =>
      obtain ⟨⟨value, last⟩, taken, ok⟩ := bind_ok ok
      cases ok
      obtain ⟨m, rfl, soundOperand⟩ := soundBelow operand rfl
      have passed := closed.reads_of_peek (unaryOf_eq_some_iff.1 found) nofun
      obtain ⟨used, reads, derived⟩ := soundOperand _ value _ passed.closed taken
      exact ⟨_, passed.trans reads, .unary op derived⟩

end

section

variable {n : Nat} {unary : Parse Expr}

/-- Operators of a layer and their operands make a longer phrase of what stands
    before them. -/
theorem chainRest_sound {k : Nat} {operand : Parse Expr}
    (sound : Sound operand (Derives (.layer (k + 1)) n)) (most : Nat) (left : Expr) :
    Sound (chainRest (layerOf k) operand most left) fun ts e =>
      ∀ us, Derives (.layer k) n us left → Derives (.layer k) n (us ++ ts) e := by
  induction most generalizing left with
  | zero =>
      intro ts e rest closed ok
      cases ok
      exact ⟨[], .none closed, fun us derived => by rwa [List.append_nil]⟩
  | succ most ih =>
      intro ts e rest closed ok
      unfold chainRest at ok
      split at ok
      next =>
        cases ok
        exact ⟨[], .none closed, fun us derived => by rwa [List.append_nil]⟩
      next op found =>
        obtain ⟨⟨right, mid⟩, taken, ok⟩ := bind_ok ok
        obtain ⟨next, rfl⟩ := layerOf_eq_some_iff.1 found
        have passed := closed.reads_of_peek next nofun
        obtain ⟨used, reads, derivedRight⟩ := sound _ right mid passed.closed taken
        obtain ⟨more, readsMore, goesOn⟩ := ih (.binary op left right) mid e rest reads.closed ok
        refine ⟨_, (passed.trans reads).trans readsMore, fun us derived => ?_⟩
        rw [← List.append_assoc]
        exact goesOn _ (.binary op derived derivedRight)

theorem layered_sound (sound : Sound unary (Derives .prefixed n)) {k m : Nat} (whole : k + m = 6) :
    Sound (layered unary (binaryLayers.drop k)) (Derives (.layer k) n) := by
  induction m generalizing k with
  | zero =>
      obtain rfl : k = 6 := whole
      intro ts e rest closed ok
      obtain ⟨used, reads, derived⟩ := sound ts e rest closed ok
      exact ⟨used, reads, .tightest derived⟩
  | succ m ih =>
      rw [binaryLayers_drop (by omega)]
      intro ts e rest closed ok
      obtain ⟨⟨left, mid⟩, found, ok⟩ := bind_ok ok
      have tighter := ih (k := k + 1) (by omega)
      obtain ⟨used, reads, derived⟩ := tighter ts left mid closed found
      obtain ⟨more, readsMore, goesOn⟩ := chainRest_sound tighter _ left mid e rest reads.closed ok
      exact ⟨_, reads.trans readsMore, goesOn used (.operand derived)⟩

theorem choice_sound {branch condition : Parse Expr} (sound : Sound branch (Derives .nested n))
    (soundCondition : Sound condition (Derives (.layer 0) n)) :
    Sound (choice branch condition) (Derives .choice n) := by
  intro ts e rest closed ok
  obtain ⟨⟨c, mid⟩, found, ok⟩ := bind_ok ok
  obtain ⟨used, reads, derived⟩ := soundCondition ts c mid closed found
  simp only at ok
  split at ok
  next question =>
    obtain ⟨⟨yes, afterYes⟩, foundYes, ok⟩ := bind_ok ok
    obtain ⟨⟨_, afterColon⟩, colon, ok⟩ := bind_ok ok
    obtain ⟨⟨no, last⟩, foundNo, ok⟩ := bind_ok ok
    cases ok
    have passed := reads.closed.reads_of_peek question nofun
    obtain ⟨_, readsYes, derivedYes⟩ := sound _ yes afterYes passed.closed foundYes
    have readsColon := reads_of_expect readsYes.closed colon
    obtain ⟨_, readsNo, derivedNo⟩ := sound _ no _ readsColon.closed foundNo
    exact ⟨_, reads.trans (passed.trans (readsYes.trans (readsColon.trans readsNo))),
      .choice derived derivedYes derivedNo⟩
  next =>
    cases ok
    exact ⟨used, reads, .condition derived⟩

end

theorem level_sound (n : Nat) :
    Sound (level n).expression (Derives .nested n) ∧
      Sound (level n).unary (Derives .prefixed n) := by
  induction n with
  -- At the deepest level nothing can be nested, so every way into brackets fails.
  | zero =>
      have nested := sound_fail .tooDeep (Derives .nested 0)
      have deepest : ∀ operand ∈ (none : Option (Parse Expr)),
          ∃ m, 0 = m + 1 ∧ Sound operand (Derives .prefixed m) := by
        intro operand same
        cases same
      exact ⟨nested, prefixed_sound nested deepest⟩
  | succ n ih =>
      obtain ⟨below, belowUnary⟩ := ih
      have nested : Sound (level (n + 1)).expression (Derives .nested (n + 1)) := by
        intro ts e rest closed ok
        obtain ⟨used, reads, derived⟩ :=
          choice_sound below (layered_sound (k := 0) (m := 6) belowUnary rfl) ts e rest closed ok
        exact ⟨used, reads, .nested derived⟩
      have deeper : ∀ operand ∈ some (level n).unary,
          ∃ m, n + 1 = m + 1 ∧ Sound operand (Derives .prefixed m) := by
        intro operand same
        cases same
        exact ⟨n, rfl, belowUnary⟩
      exact ⟨nested, prefixed_sound nested deeper⟩

/-- Tokens that are an expression are derived as one. -/
theorem derives_of_parseTokens {ts : Tokens} {e : Expr} (closed : Closed ts)
    (ok : parseTokens ts = .ok e) : Derives .choice maxDepth (tokens ts).dropLast e := by
  obtain ⟨⟨found, rest⟩, parsed, ok⟩ := bind_ok ok
  simp only at ok
  split at ok
  next end_ =>
    cases ok
    obtain ⟨used, reads, derived⟩ := (level_sound (maxDepth + 1)).1 ts e rest closed parsed
    cases derived with
    | nested inside => exact reads.eq_dropLast end_ ▸ inside
  next => cases ok

end Superstep.Expression
