import Superstep.Proofs.Grammar

/-! # Reading tokens

How a parser goes through tokens that are closed by an end, and which tokens it
takes for the operators of the grammar.
-/

namespace Superstep.Expression

def tokens (ts : Tokens) : List Token :=
  ts.map Located.token

@[simp] theorem tokens_cons (t : Located) (ts : Tokens) : tokens (t :: ts) = t.token :: tokens ts :=
  rfl

/-- The last token is the end, and no other one is. -/
inductive Closed : Tokens → Prop where
  | finish {t : Located} (end_ : t.token = .finish) : Closed [t]
  | cons {t : Located} {ts : Tokens} (inner : t.token ≠ .finish) (rest : Closed ts) :
      Closed (t :: ts)

/-- Going over some tokens leaves the others. -/
inductive Reads : Tokens → List Token → Tokens → Prop where
  | none {ts : Tokens} (closed : Closed ts) : Reads ts [] ts
  | pass {t : Located} {ts rest : Tokens} {used : List Token} (inner : t.token ≠ .finish)
      (reads : Reads ts used rest) : Reads (t :: ts) (t.token :: used) rest

theorem Closed.length_pos {ts : Tokens} (closed : Closed ts) : 0 < ts.length := by
  cases closed with
  | finish => exact Nat.one_pos
  | cons => exact Nat.succ_pos _

theorem Closed.tokens_ne_nil {ts : Tokens} (closed : Closed ts) : tokens ts ≠ [] := by
  cases closed <;> exact List.cons_ne_nil _ _

theorem Closed.reads_next {ts : Tokens} (closed : Closed ts) (inner : peek ts ≠ .finish) :
    Reads ts [peek ts] (advance ts) := by
  cases closed with
  | finish end_ => exact absurd end_ inner
  | cons inner rest =>
      cases rest with
      | finish end_ => exact .pass inner (.none (.finish end_))
      | cons other rest => exact .pass inner (.none (.cons other rest))

theorem Closed.reads_all {ts : Tokens} (closed : Closed ts) :
    ∃ rest, Reads ts (tokens ts).dropLast rest ∧ peek rest = .finish := by
  induction closed with
  | @finish t end_ => exact ⟨[t], .none (.finish end_), end_⟩
  | cons inner rest ih =>
      obtain ⟨last, reads, end_⟩ := ih
      refine ⟨last, ?_, end_⟩
      rw [tokens_cons, List.dropLast_cons_of_ne_nil rest.tokens_ne_nil]
      exact .pass inner reads

namespace Reads

variable {ts mid rest : Tokens} {used more : List Token} {t : Token}

theorem closed (reads : Reads ts used rest) : Closed rest := by
  induction reads with
  | none closed => exact closed
  | pass _ _ ih => exact ih

theorem closed_before (reads : Reads ts used rest) : Closed ts := by
  induction reads with
  | none closed => exact closed
  | pass inner _ ih => exact .cons inner ih

theorem nil_eq (reads : Reads ts [] rest) : ts = rest := by
  cases reads
  rfl

theorem length (reads : Reads ts used rest) : ts.length = used.length + rest.length := by
  induction reads with
  | none => simp
  | pass _ _ ih => simp only [List.length_cons, ih, Nat.succ_add]

theorem trans (first : Reads ts used mid) (second : Reads mid more rest) :
    Reads ts (used ++ more) rest := by
  induction first with
  | none => exact second
  | pass inner _ ih => exact .pass inner (ih second)

theorem split (reads : Reads ts (used ++ more) rest) :
    ∃ mid, Reads ts used mid ∧ Reads mid more rest := by
  induction used generalizing ts with
  | nil => exact ⟨ts, .none reads.closed_before, reads⟩
  | cons t used ih =>
      cases reads with
      | pass inner reads =>
          obtain ⟨mid, first, second⟩ := ih reads
          exact ⟨mid, .pass inner first, second⟩

theorem peek_eq (reads : Reads ts (t :: used) rest) : peek ts = t := by
  cases reads with
  | pass inner reads => rfl

theorem advance_reads (reads : Reads ts (t :: used) rest) : Reads (advance ts) used rest := by
  cases reads with
  | @pass t ts _ _ inner reads =>
      cases ts with
      | nil => cases reads.closed_before
      | cons next others => exact reads

/-- Up to the end there is only one way to read. -/
theorem eq_dropLast (reads : Reads ts used rest) (end_ : peek rest = .finish) :
    used = (tokens ts).dropLast := by
  induction reads with
  | none closed =>
      cases closed with
      | finish _ => rfl
      | cons inner _ => exact absurd end_ inner
  | pass inner reads ih =>
      rw [tokens_cons, List.dropLast_cons_of_ne_nil reads.closed_before.tokens_ne_nil, ih end_]

end Reads

/-! ## Operators -/

theorem unaryOf_eq_some_iff {t : Token} {op : UnaryOp} :
    unaryOf t = some op ↔ t = .symbol op.symbol := by
  constructor
  · intro found
    unfold unaryOf at found
    split at found
    · cases found; rfl
    · cases found; rfl
    · cases found
  · rintro rfl
    cases op <;> rfl

/-- The binary operator of a token, of whatever layer. -/
def binaryOf : Token → Option BinaryOp
  | .symbol .plus => some .add
  | .symbol .minus => some .sub
  | .symbol .star => some .mul
  | .symbol .slash => some .div
  | .symbol .percent => some .rem
  | .symbol .equal => some .equal
  | .symbol .notEqual => some .notEqual
  | .symbol .strictEqual => some .strictEqual
  | .symbol .strictNotEqual => some .strictNotEqual
  | .symbol .less => some .less
  | .symbol .lessEqual => some .lessEqual
  | .symbol .greater => some .greater
  | .symbol .greaterEqual => some .greaterEqual
  | .symbol .both => some .both
  | .symbol .either => some .either
  | _ => none

@[simp] theorem binaryOf_symbol (op : BinaryOp) : binaryOf (.symbol op.symbol) = some op := by
  cases op <;> rfl

theorem binaryOf_eq_some_iff {t : Token} {op : BinaryOp} :
    binaryOf t = some op ↔ t = .symbol op.symbol := by
  constructor
  · intro found
    unfold binaryOf at found
    split at found <;> cases found <;> rfl
  · rintro rfl
    exact binaryOf_symbol op

def layerOf (k : Nat) (t : Token) : Option BinaryOp :=
  (binaryOf t).filter (·.layer == k)

/-- The parser has the layers of the grammar. -/
theorem binaryLayers_eq : binaryLayers = (List.range 6).map layerOf := by
  unfold binaryLayers
  congr <;> funext t <;> rcases t with _ | _ | _ | _ | s | _ <;> first | rfl | cases s <;> rfl

theorem binaryLayers_drop {k : Nat} (loose : k < 6) :
    binaryLayers.drop k = layerOf k :: binaryLayers.drop (k + 1) := by
  have inside : k < binaryLayers.length := loose
  rw [List.drop_eq_getElem_cons inside]
  simp [binaryLayers_eq]

theorem layerOf_eq_some_iff {k : Nat} {t : Token} {op : BinaryOp} :
    layerOf k t = some op ↔ t = .symbol op.symbol ∧ op.layer = k := by
  simp [layerOf, Option.filter_eq_some_iff, binaryOf_eq_some_iff]

theorem Method.ofName?_eq_some_iff {word : String} {m : Method} :
    Method.ofName? word = some m ↔ word = m.name := by
  constructor
  · intro found
    have same := List.find?_some found
    exact (eq_of_beq same).symm
  · rintro rfl
    cases m <;> decide +kernel

end Superstep.Expression
