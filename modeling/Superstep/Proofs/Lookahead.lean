import Superstep.Proofs.Completeness

/-! # One token ahead

The parser never goes back and looks at one token ahead. So what it finds in some tokens
and what it finds wrong there depends on no token behind the next one, and what it has
found it would have found before any other token that cannot go on with it.
-/

namespace Superstep.Expression

/-- The token that the message names. -/
def ParseCause.found? : ParseCause → Option Token
  | .unexpectedEnd => some .finish
  | .unexpected found | .trailing found | .expected _ found | .expectedProperty found
  | .expectedKey found => some found
  | .tooDeep | .unknownMethod _ | .wrongArity _ _ | .functionCall | .notFinite _ => none

/-- Whether the parser goes past a token before it tells what is wrong with it. -/
def ParseCause.passed : ParseCause → Bool
  | .unexpected _ | .expectedProperty _ | .expectedKey _ => true
  | _ => false

/-- Where the parser reports the cause if the token that is wrong is the next one. -/
def ParseCause.place (cause : ParseCause) (ts : Tokens) : Nat :=
  position (if cause.passed then advance ts else ts)

/-- Tokens that never go on with what stands before them. -/
inductive Inert : Token → Prop where
  | finish : Inert .finish
  | colon : Inert (.symbol .colon)
  | null : Inert (.keyword .null)

/-- A token that makes no difference to what stands before it, if the other one ends it. -/
def Replaces (t' t : Token) : Prop :=
  t' = t ∨ Inert t'

/-- Behind some tokens the parser cannot go on with this one for the cause, whatever comes
    next, and there is one with which it would not fail for that cause. -/
structure Blames {α : Type} (p : Parse α) (used : List Token) (found : Token)
    (cause : ParseCause) : Prop where
  settled : ∀ ts rest, Reads ts used rest → peek rest = found →
    ∃ place, p ts = .error (.parse place cause)
  unsettled : ∃ other, Inert other ∧ ∀ ts rest, Reads ts used rest → peek rest = other →
    ∃ place cause', p ts = .error (.parse place cause') ∧ cause' ≠ cause

/-- From some tokens a parser goes no further than its result shows, or the token that is
    wrong. -/
structure LocalAt {α : Type} (p : Parse α) (ts : Tokens) : Prop where
  ok : ∀ a rest, p ts = .ok (a, rest) → ∃ used, Reads ts used rest ∧
    ∀ others last, Reads others used last → Replaces (peek last) (peek rest) →
      p others = .ok (a, last)
  error : ∀ e, p ts = .error e → ∃ place cause, e = .parse place cause ∧
    ∀ found, cause.found? = some found → ∃ used rest, Reads ts used rest ∧ peek rest = found ∧
      place = cause.place rest ∧ Blames p used found cause

def Local {α : Type} (p : Parse α) : Prop :=
  ∀ ts, Closed ts → LocalAt p ts

/-- The result, without going on. -/
def done {α : Type} (a : α) : Parse α := fun ts => .ok (a, ts)

/-- One parser, and after it another one, which depends on the first result. -/
def andThen {α β : Type} (p : Parse α) (f : α → Parse β) : Parse β := fun ts =>
  p ts >>= fun x => f x.1 x.2

section

variable {α β : Type} {ts : Tokens} {used more : List Token} {found : Token} {cause : ParseCause}

theorem Reads.peek_replaced {others last rest : Tokens} (reads : Reads ts used rest)
    (other : Reads others used last) (like : Replaces (peek last) (peek rest)) :
    Replaces (peek others) (peek ts) := by
  cases used with
  | nil =>
      rw [reads.nil_eq, other.nil_eq]
      exact like
  | cons t used => exact .inl (by rw [reads.peek_eq, other.peek_eq])

/-- A token is to blame for what fails whenever another parser does with it. -/
theorem Blames.of_failing {p : Parse α} {q : Parse β} (blames : Blames q more found cause)
    (fails : ∀ ts rest, Reads ts used rest → Replaces (peek rest) found →
      ∃ mid, Reads mid more rest ∧ ∀ e, q mid = .error e → p ts = .error e) :
    Blames p used found cause where
  settled ts rest reads next := by
    obtain ⟨mid, reads', same⟩ := fails ts rest reads (.inl next)
    obtain ⟨place, failed⟩ := blames.settled mid rest reads' next
    exact ⟨place, same _ failed⟩
  unsettled := by
    obtain ⟨other, inert, wrong⟩ := blames.unsettled
    refine ⟨other, inert, fun ts rest reads next => ?_⟩
    obtain ⟨mid, reads', same⟩ := fails ts rest reads (.inr (next ▸ inert))
    obtain ⟨place, cause', failed, differs⟩ := wrong mid rest reads' next
    exact ⟨place, cause', same _ failed, differs⟩

namespace LocalAt

/-- Of a parser only matters what it does from tokens that start alike. -/
theorem congr {p q : Parse α} (closed : Closed ts)
    (same : ∀ others, Closed others → Replaces (peek others) (peek ts) → p others = q others)
    (local_ : LocalAt q ts) : LocalAt p ts where
  ok a rest ok := by
    rw [same ts closed (.inl rfl)] at ok
    obtain ⟨used, reads, again⟩ := local_.ok a rest ok
    refine ⟨used, reads, fun others last other like => ?_⟩
    rw [same others other.closed_before (reads.peek_replaced other like)]
    exact again others last other like
  error e failed := by
    rw [same ts closed (.inl rfl)] at failed
    obtain ⟨place, cause, rfl, named⟩ := local_.error e failed
    refine ⟨place, cause, rfl, fun found names => ?_⟩
    obtain ⟨used, rest, reads, rfl, placed, blames⟩ := named found names
    refine ⟨used, rest, reads, rfl, placed, blames.of_failing fun others last other like => ?_⟩
    rw [same others other.closed_before (reads.peek_replaced other like)]
    exact ⟨others, other, fun _ => id⟩

theorem done (closed : Closed ts) (a : α) : LocalAt (Expression.done a) ts where
  ok b rest ok := by
    cases ok
    refine ⟨[], .none closed, fun others last reads _ => ?_⟩
    rw [reads.nil_eq]
    rfl
  error e failed := by cases failed

theorem silent {p : Parse α} (place : Nat) (cause : ParseCause)
    (failed : p ts = .error (.parse place cause))
    (silent : cause.found? = none) : LocalAt p ts where
  ok a rest ok := by
    rw [failed] at ok
    cases ok
  error e failed' := by
    rw [failed] at failed'
    cases failed'
    refine ⟨_, cause, rfl, fun found names => ?_⟩
    rw [silent] at names
    cases names

/-- The next token is wrong, and so would be the end, or another inert token. -/
theorem reject {p : Parse α} (cause : Token → ParseCause) (wrong : Token → Prop) {stop : Token}
    (closed : Closed ts)
    (rejects : ∀ ts, Closed ts → wrong (peek ts) →
      p ts = .error (.parse ((cause (peek ts)).place ts) (cause (peek ts))))
    (here : wrong (peek ts)) (names : ∀ t, (cause t).found? = some t)
    (wrongEnd : wrong .finish) (inert : Inert stop) (wrongStop : wrong stop)
    (inner : stop ≠ .finish) : LocalAt p ts where
  ok a rest ok := by
    rw [rejects ts closed here] at ok
    cases ok
  error e failed := by
    rw [rejects ts closed here] at failed
    cases failed
    refine ⟨_, _, rfl, fun found named => ?_⟩
    obtain rfl : peek ts = found := Option.some.inj ((names _).symm.trans named)
    have other : ∃ t, Inert t ∧ wrong t ∧ t ≠ peek ts := by
      by_cases end_ : peek ts = .finish
      · exact ⟨stop, inert, wrongStop, end_ ▸ inner⟩
      · exact ⟨.finish, .finish, wrongEnd, Ne.symm end_⟩
    obtain ⟨t, inert, wrong_, differs⟩ := other
    refine ⟨[], ts, .none closed, rfl, rfl, fun others last reads next => ?_, t, inert,
      fun others last reads next => ?_⟩
    · obtain rfl := reads.nil_eq
      rw [← next] at here ⊢
      exact ⟨_, rejects others reads.closed here⟩
    · obtain rfl := reads.nil_eq
      subst next
      refine ⟨_, _, rejects others reads.closed wrong_, fun same => differs ?_⟩
      exact Option.some.inj (((names _).symm.trans (congrArg _ same)).trans (names _))

/-- Going past a token that decides how to go on. -/
theorem pass {p q : Parse α} (closed : Closed ts) (inner : peek ts ≠ .finish)
    (same : ∀ others, Closed others → peek others = peek ts → p others = q (advance others))
    (later : LocalAt q (advance ts)) : LocalAt p ts where
  ok a rest ok := by
    rw [same ts closed rfl] at ok
    obtain ⟨used, reads, again⟩ := later.ok a rest ok
    refine ⟨peek ts :: used, (closed.reads_next inner).trans reads,
      fun others last other like => ?_⟩
    rw [same others other.closed_before other.peek_eq]
    exact again _ last other.advance_reads like
  error e failed := by
    rw [same ts closed rfl] at failed
    obtain ⟨place, cause, rfl, named⟩ := later.error e failed
    refine ⟨place, cause, rfl, fun found names => ?_⟩
    obtain ⟨used, rest, reads, next, placed, blames⟩ := named found names
    refine ⟨peek ts :: used, rest, (closed.reads_next inner).trans reads, next, placed,
      blames.of_failing fun others last other _ => ?_⟩
    rw [same others other.closed_before other.peek_eq]
    exact ⟨_, other.advance_reads, fun _ => id⟩

theorem andThen {p : Parse α} {f : α → Parse β} (first : LocalAt p ts)
    (later : ∀ a rest used, p ts = .ok (a, rest) → Reads ts used rest → LocalAt (f a) rest) :
    LocalAt (andThen p f) ts where
  ok b last ok := by
    obtain ⟨⟨a, rest⟩, found, ok⟩ := bind_ok ok
    obtain ⟨used, reads, again⟩ := first.ok a rest found
    obtain ⟨more, readsMore, goesOn⟩ := (later a rest used found reads).ok b last ok
    refine ⟨used ++ more, reads.trans readsMore, fun others end_ other like => ?_⟩
    obtain ⟨mid, readsFirst, readsLater⟩ := other.split
    have found' := again others mid readsFirst (readsMore.peek_replaced readsLater like)
    simp only [Expression.andThen, found', bind, Except.bind]
    exact goesOn mid end_ readsLater like
  error e failed := by
    cases found : p ts with
    | error cause =>
        simp only [Expression.andThen, found, bind, Except.bind] at failed
        cases failed
        obtain ⟨place, cause, rfl, named⟩ := first.error e found
        refine ⟨place, cause, rfl, fun t names => ?_⟩
        obtain ⟨used, rest, reads, next, placed, blames⟩ := named t names
        refine ⟨used, rest, reads, next, placed, blames.of_failing fun others last other _ => ?_⟩
        refine ⟨others, other, fun e failed => ?_⟩
        simp only [Expression.andThen, failed, bind, Except.bind]
    | ok result =>
        obtain ⟨a, rest⟩ := result
        simp only [Expression.andThen, found, bind, Except.bind] at failed
        obtain ⟨used, reads, again⟩ := first.ok a rest found
        obtain ⟨place, cause, rfl, named⟩ := (later a rest used found reads).error e failed
        refine ⟨place, cause, rfl, fun t names => ?_⟩
        obtain ⟨more, last, readsMore, rfl, placed, blames⟩ := named t names
        refine ⟨used ++ more, last, reads.trans readsMore, rfl, placed,
          blames.of_failing fun others end_ other like => ?_⟩
        obtain ⟨mid, readsFirst, readsLater⟩ := other.split
        have found' := again others mid readsFirst (readsMore.peek_replaced readsLater like)
        refine ⟨mid, readsLater, fun e failed => ?_⟩
        simpa only [Expression.andThen, found', bind, Except.bind] using failed

end LocalAt

end

/-! ## Parsers of phrases -/

theorem Replaces.keeps {t' t : Token} (holds : Token → Prop) (like : Replaces t' t)
    (here : holds t) (inert : ∀ t, Inert t → holds t) : holds t' := by
  rcases like with rfl | instead
  · exact here
  · exact inert t' instead

theorem expect_local (wanted : Symbol) : Local (expect wanted) := by
  intro ts closed
  by_cases next : peek ts = .symbol wanted
  · have inner : peek ts ≠ .finish := by simp [next]
    refine .pass closed inner (fun others _ same => ?_)
      (.done (closed.reads_next inner).closed ())
    exact if_pos (same.trans next)
  · exact .reject (.expected wanted) (· ≠ .symbol wanted) closed
      (fun _ _ wrong => if_neg wrong) next (fun _ => rfl) nofun .null nofun nofun

theorem Closed.length_advance {ts : Tokens} (closed : Closed ts) (inner : peek ts ≠ .finish) :
    (advance ts).length + 1 = ts.length := by
  rw [(closed.reads_next inner).length, List.length_singleton, Nat.add_comm]

section

variable {α : Type} {close : Symbol} {element : Parse α}

/-- Elements may be looked for any number of times that is not less than the number of
    tokens. -/
theorem elements_enough (local_ : Local element) {ts : Tokens} (closed : Closed ts) {a b : Nat}
    (enough : ts.length ≤ a) (same : ts.length ≤ b) :
    elements close element a ts = elements close element b ts := by
  have some_ := closed.length_pos
  induction a generalizing b ts with
  | zero => omega
  | succ a ih =>
      cases b with
      | zero => omega
      | succ b =>
          simp only [elements]
          split
          next => rfl
          next =>
            cases taken : element ts with
            | error _ => rfl
            | ok result =>
                obtain ⟨first, rest⟩ := result
                obtain ⟨used, reads, _⟩ := (local_ ts closed).ok first rest taken
                simp only [bind, Except.bind]
                split
                next comma =>
                  have passed := reads.closed.reads_of_peek comma (by simp)
                  have shorter := reads.closed.length_advance (by simp [comma])
                  have shorter' := reads.length
                  rw [ih passed.closed (b := b) (by omega) (by omega) passed.closed.length_pos]
                next => rfl

/-- What follows an element: others behind a comma, or the closing symbol. -/
def moreElements (close : Symbol) (element : Parse α) (first : α) : Parse (List α) := fun ts =>
  if peek ts = .symbol .comma then
    andThen (elementsTo close element) (fun others => done (first :: others)) (advance ts)
  else andThen (expect close) (fun _ => done [first]) ts

theorem elementsTo_eq (local_ : Local element) {ts : Tokens} (closed : Closed ts) :
    elementsTo close element ts =
      if peek ts = .symbol close then .ok ([], advance ts)
      else andThen element (moreElements close element) ts := by
  obtain ⟨most, length⟩ := Nat.exists_eq_add_one_of_ne_zero (Nat.ne_of_gt closed.length_pos)
  rw [elementsTo, length, elements]
  by_cases next : peek ts = .symbol close
  · simp only [next, if_true, bind, Except.bind, expect]
  simp only [next, if_false]
  cases taken : element ts with
  | error _ => simp only [andThen, taken, bind, Except.bind]
  | ok result =>
      obtain ⟨first, rest⟩ := result
      obtain ⟨used, reads, _⟩ := (local_ ts closed).ok first rest taken
      simp only [andThen, taken, bind, Except.bind, moreElements]
      by_cases comma : peek rest = .symbol .comma
      · have passed := reads.closed.reads_of_peek comma (by simp)
        have shorter := reads.closed.length_advance (by simp [comma])
        have shorter' := reads.length
        simp only [comma, if_true, elementsTo]
        rw [elements_enough local_ passed.closed (b := (advance rest).length) (by omega)
          (Nat.le_refl _)]
        cases elements close element (advance rest).length (advance rest) with
        | error _ => rfl
        | ok others =>
            simp only [bind, Except.bind]
            cases expect close others.2 <;> rfl
      · simp only [comma, if_false, done]

theorem elementsTo_local (local_ : Local element) (closes : close.closes = true) :
    Local (elementsTo close element) := by
  intro ts closed
  -- What comes behind a comma are fewer tokens, whatever the parser has been given to count by.
  induction length : ts.length using Nat.strongRecOn generalizing ts with
  | ind size ih =>
      by_cases next : peek ts = .symbol close
      · have inner : peek ts ≠ .finish := by simp [next]
        refine .pass closed inner (fun others closed same => ?_)
          (.done (closed.reads_next inner).closed [])
        rw [elementsTo_eq local_ closed, if_pos (same.trans next)]
        rfl
      · have stays : ∀ t, Inert t → t ≠ .symbol close := by
          rintro _ (_ | _ | _) same <;> cases same
          cases closes
        refine .congr (q := andThen element (moreElements close element)) closed
          (fun others closed like => ?_)
          ((local_ ts closed).andThen fun first rest used _ reads => ?_)
        · rw [elementsTo_eq local_ closed, if_neg (like.keeps (· ≠ .symbol close) next stays)]
        · by_cases comma : peek rest = .symbol .comma
          · have inner : peek rest ≠ .finish := by simp [comma]
            have shorter := reads.closed.length_advance inner
            have shorter' := reads.length
            refine .pass reads.closed inner (fun others _ same => if_pos (same.trans comma)) ?_
            exact (ih _ (by omega) _ (reads.closed.reads_next inner).closed rfl).andThen
              fun others _ _ _ reads => .done reads.closed _
          · refine .congr (q := andThen (expect close) fun _ => done [first]) reads.closed
              (fun others _ like => if_neg (like.keeps (· ≠ .symbol .comma) comma ?_))
              ((expect_local close rest reads.closed).andThen fun _ _ _ _ reads =>
                .done reads.closed _)
            rintro _ (_ | _ | _) <;> nofun

end

section

variable {n : Nat} {inner : Parse Expr} (local_ : Local inner)

include local_

theorem field_local : Local (field inner) := by
  intro ts closed
  cases key : keyOf (peek ts) with
  | none =>
      refine .reject .expectedKey (fun t => keyOf t = none) closed
        (fun ts _ wrong => ?_) key (fun _ => rfl) rfl .colon rfl nofun
      simp only [field, wrong]
      rfl
  | some word =>
      have inside : peek ts ≠ .finish := fun end_ => by rw [end_] at key; cases key
      refine .pass (q := andThen (expect .colon) fun _ => andThen inner fun e => done (word, e))
        closed inside (fun others _ same => ?_) ?_
      · simp only [field, same, key]
        rfl
      · refine (expect_local _ _ (closed.reads_next inside).closed).andThen fun _ _ _ _ reads => ?_
        exact (local_ _ reads.closed).andThen fun _ _ _ _ reads => .done reads.closed _

/-- What the parser reports where no expression starts. -/
def noStart (t : Token) : ParseCause :=
  if t = .finish then .unexpectedEnd else .unexpected t

omit local_ in
theorem noStart_found (t : Token) : (noStart t).found? = some t := by
  unfold noStart
  split
  next end_ => rw [end_]; rfl
  next => rfl

/-- No literal, no name and no opening bracket. -/
def StartsNothing (t : Token) : Prop :=
  t = .finish ∨ ∃ s, t = .symbol s ∧ s ≠ .openParen ∧ s ≠ .openBracket ∧ s ≠ .openBrace

omit local_ in
theorem primary_rejects {ts : Tokens} (closed : Closed ts) (wrong : StartsNothing (peek ts)) :
    primary inner ts = .error (.parse ((noStart (peek ts)).place ts) (noStart (peek ts))) := by
  rcases wrong with end_ | ⟨s, next, paren, bracket, brace⟩
  · cases closed with
    | finish =>
        simp only [primary, end_]
        rfl
    | cons inner _ => exact absurd end_ inner
  · simp only [primary, next]
    split
    case h_8 same => exact absurd (Token.symbol.inj same) paren
    case h_9 same => exact absurd (Token.symbol.inj same) bracket
    case h_10 same => exact absurd (Token.symbol.inj same) brace
    case h_12 => rfl
    all_goals contradiction

omit local_ in
theorem primary_reject {ts : Tokens} (closed : Closed ts) (wrong : StartsNothing (peek ts)) :
    LocalAt (primary inner) ts :=
  .reject noStart StartsNothing closed (fun _ closed wrong => primary_rejects closed wrong)
    wrong noStart_found (.inl rfl) .colon (.inr ⟨.colon, rfl, nofun, nofun, nofun⟩) nofun

omit local_ in
theorem primary_literal {ts : Tokens} (closed : Closed ts) (e : Expr)
    (inside : peek ts ≠ .finish)
    (same : ∀ others, peek others = peek ts → primary inner others = .ok (e, advance others)) :
    LocalAt (primary inner) ts :=
  .pass (q := done e) closed inside (fun others _ next => same others next)
    (.done (closed.reads_next inside).closed e)

theorem primary_local : Local (primary inner) := by
  intro ts closed
  cases next : peek ts with
  | keyword k =>
      refine primary_literal closed (.literal k.value) (by simp [next]) fun others same => ?_
      cases k <;> simp only [primary, same, next] <;> rfl
  | number value =>
      cases value with
      | none =>
          exact .silent _ (.notFinite (.infinite false)) (by simp only [primary, next]; rfl) rfl
      | some x =>
          refine primary_literal closed (.literal (.number (.ofBinary64 x))) (by simp [next])
            fun others same => ?_
          simp only [primary, same, next]
  | string text =>
      refine primary_literal closed (.literal (.string text)) (by simp [next])
        fun others same => ?_
      simp only [primary, same, next]
  | name word =>
      refine primary_literal closed (.name word) (by simp [next]) fun others same => ?_
      simp only [primary, same, next]
  | symbol s =>
      have inside : peek ts ≠ .finish := by simp [next]
      have passed := (closed.reads_next inside).closed
      by_cases paren : s = .openParen
      · subst paren
        refine .pass (q := andThen inner fun e => andThen (expect .closeParen) fun _ => done e)
          closed inside (fun others _ same => ?_) ?_
        · simp only [primary, same, next]
          rfl
        · refine (local_ _ passed).andThen fun e _ _ _ reads => ?_
          exact (expect_local _ _ reads.closed).andThen fun _ _ _ _ reads => .done reads.closed e
      by_cases bracket : s = .openBracket
      · subst bracket
        refine .pass (q := andThen (elementsTo .closeBracket inner) fun items =>
          done (.array items)) closed inside (fun others _ same => ?_) ?_
        · simp only [primary, same, next]
          rfl
        · exact (elementsTo_local local_ rfl _ passed).andThen fun items _ _ _ reads =>
            .done reads.closed _
      by_cases brace : s = .openBrace
      · subst brace
        refine .pass (q := andThen (elementsTo .closeBrace (field inner)) fun fields =>
          done (.object fields)) closed inside (fun others _ same => ?_) ?_
        · simp only [primary, same, next]
          rfl
        · exact (elementsTo_local (field_local local_) rfl _ passed).andThen
            fun items _ _ _ reads => .done reads.closed _
      exact primary_reject closed (.inr ⟨s, next, paren, bracket, brace⟩)
  | finish => exact primary_reject closed (.inl next)

/-- What follows a word behind a point. -/
def afterWord (inner : Parse Expr) (object : Expr) (word : String) : Parse Expr := fun ts =>
  if peek ts = .symbol .openParen then
    match Method.ofName? word with
    | none => fail (.unknownMethod word) ts
    | some method =>
        andThen (elementsTo .closeParen inner) (fun arguments rest =>
          if arguments.length = method.arity then done (.call method object arguments) rest
          else fail (.wrongArity method arguments.length) rest) (advance ts)
  else done (.member object word) ts

theorem afterWord_local (object : Expr) (word : String) : Local (afterWord inner object word) := by
  intro ts closed
  by_cases opening : peek ts = .symbol .openParen
  · have inside : peek ts ≠ .finish := by simp [opening]
    cases known : Method.ofName? word with
    | none =>
        refine .silent (position ts) (.unknownMethod word) ?_ rfl
        simp only [afterWord, opening, if_true, known]
        rfl
    | some method =>
        refine .pass (q := andThen (elementsTo .closeParen inner) fun arguments rest =>
          if arguments.length = method.arity then done (.call method object arguments) rest
          else fail (.wrongArity method arguments.length) rest)
          closed inside (fun others _ same => ?_) ?_
        · simp only [afterWord, same, opening, if_true, known]
        · refine (elementsTo_local local_ rfl _ (closed.reads_next inside).closed).andThen
            fun arguments _ _ _ reads => ?_
          by_cases enough : arguments.length = method.arity
          · simp only [enough, if_true]
            exact .done reads.closed _
          · simp only [enough, if_false]
            exact .silent _ (.wrongArity method arguments.length) rfl rfl
  · refine .congr closed (fun others _ like => ?_) (.done closed (.member object word))
    refine if_neg (like.keeps (· ≠ .symbol .openParen) opening ?_)
    rintro _ (_ | _ | _) <;> nofun

theorem afterDot_local (object : Expr) : Local (afterDot inner object) := by
  intro ts closed
  cases named : wordOf (peek ts) with
  | none =>
      refine .reject .expectedProperty (fun t => wordOf t = none) closed
        (fun ts _ wrong => ?_) named (fun _ => rfl) rfl .colon rfl nofun
      simp only [afterDot, wrong]
      rfl
  | some word =>
      have inside : peek ts ≠ .finish := fun end_ => by rw [end_] at named; cases named
      refine .pass (q := afterWord inner object word) closed inside (fun others _ same => ?_)
        (afterWord_local local_ object word _ (closed.reads_next inside).closed)
      simp only [afterDot, same, named, afterWord]
      rfl

end

section

variable {n : Nat} {inner : Parse Expr} (local_ : Local inner)
  (sound : Sound inner (Derives .nested n))

/-- What follows a phrase that may be gone on with. -/
def postfixes (inner : Parse Expr) (e : Expr) : Parse Expr := fun ts =>
  postfixRest inner (ts.length + 1) e ts

include sound

theorem postfixes_dot {ts : Tokens} (closed : Closed ts) (dot : peek ts = .symbol .dot) (e : Expr) :
    postfixes inner e ts = andThen (afterDot inner e) (postfixes inner) (advance ts) := by
  have passed := closed.reads_of_peek dot (by simp)
  have shorter := closed.length_advance (by simp [dot])
  simp only [postfixes, postfixRest, dot, andThen]
  cases taken : afterDot inner e (advance ts) with
  | error _ => rfl
  | ok result =>
      obtain ⟨longer, rest⟩ := result
      obtain ⟨used, reads, _⟩ := afterDot_sound sound e _ longer rest passed.closed taken
      have shorter' := reads.length
      exact postfixRest_enough (b := rest.length + 1) sound reads.closed longer (by omega)
        (by omega)

theorem postfixes_bracket {ts : Tokens} (closed : Closed ts)
    (bracket : peek ts = .symbol .openBracket) (e : Expr) :
    postfixes inner e ts =
      andThen inner (fun i => andThen (expect .closeBracket) fun _ =>
        postfixes inner (.index e i)) (advance ts) := by
  have passed := closed.reads_of_peek bracket (by simp)
  have shorter := closed.length_advance (by simp [bracket])
  simp only [postfixes, postfixRest, bracket, andThen]
  cases taken : inner (advance ts) with
  | error _ => rfl
  | ok result =>
      obtain ⟨i, mid⟩ := result
      obtain ⟨used, reads, _⟩ := sound _ i mid passed.closed taken
      simp only [bind, Except.bind]
      cases closing : expect .closeBracket mid with
      | error _ => rfl
      | ok result =>
          obtain ⟨_, rest⟩ := result
          have readsClose := reads_of_expect reads.closed closing
          have shorter' := reads.length
          have shorter'' := readsClose.length
          exact postfixRest_enough (b := rest.length + 1) sound readsClose.closed _ (by omega)
            (by omega)

include local_

theorem postfixes_local (e : Expr) : Local (postfixes inner e) := by
  intro ts closed
  induction length : ts.length using Nat.strongRecOn generalizing e ts with
  | ind size ih =>
      rcases Token.appends_cases (peek ts) with dot | bracket | paren | stop
      · have inside : peek ts ≠ .finish := by simp [dot]
        have passed := (closed.reads_next inside).closed
        have shorter := closed.length_advance inside
        refine .pass closed inside
          (fun others closed same => postfixes_dot sound closed (same.trans dot) e) ?_
        refine (afterDot_local local_ e _ passed).andThen fun e' rest used _ reads => ?_
        have shorter' := reads.length
        exact ih _ (by omega) e' _ reads.closed rfl
      · have inside : peek ts ≠ .finish := by simp [bracket]
        have passed := (closed.reads_next inside).closed
        have shorter := closed.length_advance inside
        refine .pass closed inside
          (fun others closed same => postfixes_bracket sound closed (same.trans bracket) e) ?_
        refine (local_ _ passed).andThen fun i mid used _ reads => ?_
        refine (expect_local _ _ reads.closed).andThen fun _ rest more _ readsClose => ?_
        have shorter' := reads.length
        have shorter'' := readsClose.length
        exact ih _ (by omega) _ _ readsClose.closed rfl
      · refine .silent (position ts) .functionCall ?_ rfl
        simp only [postfixes, postfixRest, paren]
        rfl
      · refine .congr closed (fun others _ like => ?_) (.done closed e)
        refine postfixRest_stops (like.keeps (fun t => t.appends = false) stop ?_) _
        rintro _ (_ | _ | _) <;> rfl

theorem postfixed_local : Local (postfixed inner) := fun ts closed =>
  (primary_local local_ ts closed).andThen fun e rest _ _ reads =>
    postfixes_local local_ sound e rest reads.closed

theorem prefixed_local {below : Option (Parse Expr)} (operand : ∀ p ∈ below, Local p) :
    Local (prefixed below inner) := by
  intro ts closed
  cases found : unaryOf (peek ts) with
  | none =>
      refine .congr closed (fun others _ like => ?_) (postfixed_local local_ sound ts closed)
      have bare : unaryOf (peek others) = none := by
        refine like.keeps (fun t => unaryOf t = none) found ?_
        rintro _ (_ | _ | _) <;> rfl
      simp only [prefixed, bare]
  | some op =>
      cases below with
      | none =>
          refine .silent (position ts) .tooDeep ?_ rfl
          simp only [prefixed, found]
          rfl
      | some p =>
          have inside : peek ts ≠ .finish := by simp [unaryOf_eq_some_iff.1 found]
          refine .pass (q := andThen p fun e => done (.unary op e)) closed inside
            (fun others _ same => ?_) ?_
          · simp only [prefixed, same, found]
            rfl
          · exact (operand p rfl _ (closed.reads_next inside).closed).andThen
              fun _ _ _ _ reads => .done reads.closed _

end

section

variable {n k : Nat}

theorem resumeLayer_step (loose : k < 6) {ts : Tokens} (closed : Closed ts) {op : BinaryOp}
    (found : layerOf k (peek ts) = some op) (left : Expr) :
    resumeLayer n k left ts =
      andThen (layerParser n (k + 1)) (fun right => resumeLayer n k (.binary op left right))
        (advance ts) := by
  have next := (layerOf_eq_some_iff.1 found).1
  have passed := closed.reads_of_peek next (by simp)
  have shorter := closed.length_advance (by simp [next])
  rw [resumeLayer_of_lt loose, ← shorter, chainRest, found, andThen]
  cases taken : layerParser n (k + 1) (advance ts) with
  | error _ => rfl
  | ok result =>
      obtain ⟨right, rest⟩ := result
      obtain ⟨used, reads, _⟩ := layerParser_sound n loose _ right rest passed.closed taken
      have shorter' := reads.length
      simp only [bind, Except.bind, resumeLayer_of_lt loose]
      exact chainRest_enough (layerParser_sound n loose) reads.closed _ (by omega) (Nat.le_refl _)

/-- Operators of a layer are gone past one by one; behind the last one the operand ends. -/
theorem resumeLayer_local (loose : k < 6) (local_ : Local (layerParser n (k + 1))) (left : Expr) :
    Local (resumeLayer n k left) := by
  intro ts closed
  induction length : ts.length using Nat.strongRecOn generalizing left ts with
  | ind size ih =>
      cases found : layerOf k (peek ts) with
      | none =>
          refine .congr closed (fun others closed' like => ?_) (.done closed left)
          have stop : layerOf k (peek others) = none := by
            refine like.keeps (fun t => layerOf k t = none) found ?_
            rintro _ (_ | _ | _) <;> rfl
          rw [resumeLayer_of_lt loose]
          obtain ⟨most, more⟩ := Nat.exists_eq_add_one_of_ne_zero (Nat.ne_of_gt closed'.length_pos)
          rw [more, chainRest, stop]
          rfl
      | some op =>
          have next := (layerOf_eq_some_iff.1 found).1
          have inside : peek ts ≠ .finish := by simp [next]
          have shorter := closed.length_advance inside
          refine .pass closed inside
            (fun others closed same => resumeLayer_step loose closed (same ▸ found) left) ?_
          refine (local_ _ (closed.reads_next inside).closed).andThen
            fun right rest used _ reads => ?_
          have shorter' := reads.length
          exact ih _ (by omega) _ _ reads.closed rfl

theorem layerParser_local (local_ : Local (level n).unary) {m : Nat} (whole : k + m = 6) :
    Local (layerParser n k) := by
  induction m generalizing k with
  | zero =>
      obtain rfl : k = 6 := whole
      rw [layerParser_of_ge (Nat.le_refl 6)]
      exact local_
  | succ m ih =>
      have loose : k < 6 := by omega
      have tighter := ih (k := k + 1) (by omega)
      intro ts closed
      refine .congr closed (fun others _ _ => ?_) ((tighter ts closed).andThen
        fun left rest _ _ reads => resumeLayer_local loose tighter left rest reads.closed)
      rw [layerParser_of_lt loose, chain, andThen]
      simp only [resumeLayer_of_lt loose]

/-- What follows a condition. -/
def branches (branch : Parse Expr) (condition : Expr) : Parse Expr := fun ts =>
  if peek ts = .symbol .question then
    andThen branch (fun yes => andThen (expect .colon) fun _ => andThen branch fun no =>
      done (.choice condition yes no)) (advance ts)
  else done condition ts

theorem choice_local {branch condition : Parse Expr} (branch_ : Local branch)
    (condition_ : Local condition) : Local (choice branch condition) := by
  intro ts closed
  refine .congr (q := andThen condition (branches branch)) closed (fun others _ _ => ?_)
    ((condition_ ts closed).andThen fun c rest _ _ reads => ?_)
  · unfold choice andThen branches
    rfl
  by_cases question : peek rest = .symbol .question
  · have inside : peek rest ≠ .finish := by simp [question]
    refine .pass reads.closed inside (fun others _ same => if_pos (same.trans question)) ?_
    refine (branch_ _ (reads.closed.reads_next inside).closed).andThen fun yes _ _ _ reads => ?_
    refine (expect_local _ _ reads.closed).andThen fun _ _ _ _ reads => ?_
    exact (branch_ _ reads.closed).andThen fun no _ _ _ reads => .done reads.closed _
  · refine .congr reads.closed (fun others _ like => if_neg ?_) (.done reads.closed c)
    refine like.keeps (· ≠ .symbol .question) question ?_
    rintro _ (_ | _ | _) <;> nofun

end

theorem level_local (n : Nat) : Local (level n).expression ∧ Local (level n).unary := by
  induction n with
  | zero =>
      have nested : Local (level 0).expression := fun ts _ =>
        .silent (position ts) .tooDeep rfl rfl
      have none_ : ∀ p ∈ (none : Option (Parse Expr)), Local p := by
        intro p found
        cases found
      exact ⟨nested, prefixed_local nested (level_sound 0).1 none_⟩
  | succ n ih =>
      obtain ⟨below, belowUnary⟩ := ih
      have nested : Local (level (n + 1)).expression :=
        choice_local below (layerParser_local (k := 0) (m := 6) belowUnary rfl)
      have operand : ∀ p ∈ some (level n).unary, Local p := by
        intro p found
        cases found
        exact belowUnary
      exact ⟨nested, prefixed_local nested (level_sound (n + 1)).1 operand⟩

end Superstep.Expression
