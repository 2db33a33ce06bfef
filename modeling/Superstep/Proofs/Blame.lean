import Superstep.Proofs.Lookahead
import Superstep.Proofs.Tilings

/-! # The token that an error is about

Of every parse error that names a token there is a first token that decides on it, and that
is the one which is named. An error in place of something else, or behind an expression, is
reported where that token stands; in place of an operand, a property or a key the parser has
gone past it first.
-/

namespace Superstep.Expression

/-- Tokens that are no expression, for the cause, wherever that is reported. -/
def Refused (ts : Tokens) (cause : ParseCause) : Prop :=
  ∃ place, parseTokens ts = .error (.parse place cause)

/-- The token that decides on the cause: with it the tokens are refused, whatever follows,
    and without it they need not be. -/
structure Offends (before : Tokens) (t : Located) (cause : ParseCause) : Prop where
  settled : ∀ after, Closed (before ++ t :: after) → Refused (before ++ t :: after) cause
  unsettled : ∃ rest, Closed (before ++ rest) ∧ ¬ Refused (before ++ rest) cause

section

variable {before after : Tokens} {t t' : Located} {cause : ParseCause}

theorem Offends.not_later (offends : Offends before t cause)
    (later : Offends (before ++ t :: after) t' cause) : False := by
  obtain ⟨rest, closed, free⟩ := later.unsettled
  rw [List.append_assoc, List.cons_append] at closed free
  exact free (offends.settled _ closed)

/-- Only one token decides. -/
theorem Offends.before_eq {before' after' : Tokens} (offends : Offends before t cause)
    (other : Offends before' t' cause)
    (same : before ++ t :: after = before' ++ t' :: after') : before' = before := by
  rcases List.append_eq_append_iff.1 same with ⟨mid, rfl, rest⟩ | ⟨mid, rfl, rest⟩
  · cases mid with
    | nil => simp
    | cons first mid =>
        obtain ⟨rfl, _⟩ := List.cons.inj rest
        exact (offends.not_later other).elim
  · cases mid with
    | nil => simp
    | cons first mid =>
        obtain ⟨rfl, _⟩ := List.cons.inj rest
        exact (other.not_later offends).elim

theorem Reads.exists_append {ts rest : Tokens} {used : List Token} (reads : Reads ts used rest) :
    ∃ before, ts = before ++ rest ∧
      ∀ others, Closed others → Reads (before ++ others) used others := by
  induction reads with
  | none => exact ⟨[], rfl, fun others closed => .none closed⟩
  | @pass t ts rest used inner _ ih =>
      obtain ⟨before, rfl, again⟩ := ih
      exact ⟨t :: before, rfl, fun others closed => .pass inner (again others closed)⟩

theorem closed_of_append {before rest : Tokens} (closed : Closed (before ++ rest))
    (some_ : rest ≠ []) : Closed rest := by
  induction before with
  | nil => exact closed
  | cons t before ih =>
      rw [List.cons_append] at closed
      generalize whole : before ++ rest = others at closed
      cases closed with
      | finish => exact absurd (List.append_eq_nil_iff.1 whole).2 some_
      | cons _ later => exact ih (whole ▸ later)

theorem exists_closed (t : Token) : ∃ ts, Closed ts ∧ peek ts = t := by
  by_cases end_ : t = .finish
  · exact ⟨[⟨t, 0⟩], .finish end_, rfl⟩
  · exact ⟨[⟨t, 0⟩, ⟨.finish, 0⟩], .cons end_ (.finish rfl), rfl⟩

variable {ts rest : Tokens} {used : List Token} {found : Token}

/-- Where some tokens end at one with which they are refused, and not at another one, that
    token decides. -/
theorem Reads.exists_offender (reads : Reads ts used rest) (next : peek rest = found)
    (settled : ∀ others last, Reads others used last → peek last = found → Refused others cause)
    (free : ∃ other, ∀ others last, Reads others used last → peek last = other →
      ¬ Refused others cause) :
    ∃ before t after, rest = t :: after ∧ ts = before ++ t :: after ∧ t.token = found ∧
      Offends before t cause := by
  obtain ⟨before, rfl, again⟩ := reads.exists_append
  obtain ⟨other, free⟩ := free
  obtain ⟨others, closed, first⟩ := exists_closed other
  obtain ⟨t, after, rfl⟩ := List.exists_cons_of_length_pos reads.closed.length_pos
  refine ⟨before, t, after, rfl, rfl, next, fun after' closed => ?_, others, ?_, ?_⟩
  · exact settled _ _ (again _ (closed_of_append closed (by simp))) next
  · exact (again others closed).closed_before
  · exact free _ _ (again others closed) first

/-- What the parser of expressions fails for, the tokens are refused for. -/
theorem Blames.exists_offender
    (blames : Blames (level (maxDepth + 1)).expression used found cause)
    (reads : Reads ts used rest) (next : peek rest = found) :
    ∃ before t after, rest = t :: after ∧ ts = before ++ t :: after ∧ t.token = found ∧
      Offends before t cause := by
  obtain ⟨other, _, fails⟩ := blames.unsettled
  refine reads.exists_offender next (fun others last reads next => ?_)
    ⟨other, fun others last reads next => ?_⟩
  · obtain ⟨place, failed⟩ := blames.settled others last reads next
    exact ⟨place, by simp only [parseTokens, failed, bind, Except.bind]⟩
  · obtain ⟨place, cause', failed, differs⟩ := fails others last reads next
    rintro ⟨place', refused⟩
    simp only [parseTokens, failed, bind, Except.bind] at refused
    cases refused
    exact differs rfl

/-- Behind a whole expression any token but the end is refused. -/
theorem exists_offender_of_trailing {e : Expr} (closed : Closed ts)
    (parsed : (level (maxDepth + 1)).expression ts = .ok (e, rest)) (inner : peek rest ≠ .finish) :
    ∃ before t after, rest = t :: after ∧ ts = before ++ t :: after ∧ t.token = peek rest ∧
      Offends before t (.trailing (peek rest)) := by
  obtain ⟨used, reads, again⟩ := ((level_local (maxDepth + 1)).1 ts closed).ok e rest parsed
  refine reads.exists_offender rfl (fun others last reads next => ?_)
    ⟨.finish, fun others last reads next => ?_⟩
  · have same := again others last reads (.inl next)
    exact ⟨position last, by
      simp only [parseTokens, same, bind, Except.bind, next, inner, if_false]⟩
  · have same := again others last reads (.inr (next ▸ .finish))
    rintro ⟨place, refused⟩
    simp only [parseTokens, same, bind, Except.bind, next, if_true] at refused
    cases refused

/-- What is wrong with tokens is wrong with one that decides on it. -/
theorem parseTokens_blames {e : ExpressionError} (closed : Closed ts)
    (failed : parseTokens ts = .error e) : ∃ place cause, e = .parse place cause ∧
      ∀ found, cause.found? = some found → ∃ before t after, ts = before ++ t :: after ∧
        t.token = found ∧ place = cause.place (t :: after) ∧ Offends before t cause := by
  cases parsed : (level (maxDepth + 1)).expression ts with
  | error cause =>
      simp only [parseTokens, parsed, bind, Except.bind] at failed
      cases failed
      obtain ⟨place, cause, rfl, named⟩ := ((level_local (maxDepth + 1)).1 ts closed).error _ parsed
      refine ⟨place, cause, rfl, fun found names => ?_⟩
      obtain ⟨used, rest, reads, next, rfl, blames⟩ := named found names
      obtain ⟨before, t, after, rfl, whole, same, offends⟩ := blames.exists_offender reads next
      exact ⟨before, t, after, whole, same, rfl, offends⟩
  | ok result =>
      obtain ⟨expression, rest⟩ := result
      simp only [parseTokens, parsed, bind, Except.bind] at failed
      split at failed
      next => cases failed
      next inner =>
        cases failed
        refine ⟨_, _, rfl, fun found names => ?_⟩
        obtain rfl := Option.some.inj names
        obtain ⟨before, t, after, rfl, whole, same, offends⟩ :=
          exists_offender_of_trailing closed parsed inner
        exact ⟨before, t, after, whole, same, rfl, offends⟩

end

/-- A token is spelled in the text behind so many bytes, or it is the end of it. -/
inductive StandsAt (source : String) : Token → Nat → Prop where
  | spelled {t : Token} {front spelling rest : List Char}
      (whole : source.toList = front ++ (spelling ++ rest)) (spells : Spells t spelling) :
      StandsAt source t (byteLength front)
  | finish : StandsAt source .finish source.utf8ByteSize

theorem standsAt_of_located {source : String} (front : List Char) {pieces : List Piece}
    {last : List Char} (whole : source.toList = front ++ Piece.text pieces last)
    (spells : ∀ p ∈ pieces, Spells p.token p.spelling) :
    ∀ t ∈ Piece.located (byteLength front) pieces last, StandsAt source t.token t.position := by
  induction pieces generalizing front with
  | nil =>
      have size : source.utf8ByteSize = byteLength (front ++ last) := by
        rw [← String.ofList_toList (s := source), utf8ByteSize_ofList, whole]
        rfl
      rw [byteLength_append] at size
      simp only [Piece.located, List.mem_singleton, forall_eq, ← size]
      exact .finish
  | cons p rest ih =>
      obtain ⟨first, others⟩ := List.forall_mem_cons.1 spells
      have place : byteLength front + byteLength p.gap = byteLength (front ++ p.gap) := by simp
      refine List.forall_mem_cons.2 ⟨?_, ?_⟩
      · rw [place]
        exact .spelled (by rw [whole, Piece.text, List.append_assoc]) first
      · rw [place, ← byteLength_append]
        exact ih _ (by rw [whole, Piece.text]; simp) others

theorem standsAt_of_tokenize {source : String} {ts : Tokens} (found : tokenize source = .ok ts) :
    ∀ t ∈ ts, StandsAt source t.token t.position := by
  obtain ⟨pieces, last, whole, tiled, rfl⟩ := tokenize_eq_ok_iff.1 found
  exact standsAt_of_located [] whole tiled.spells

/-- If a text has tokens but is no expression, and the error names a token, then there is
    one token that decides on the error, and it is the one that is named. The error is
    reported where that token stands, except that the parser has gone past it if it stands
    in place of an operand, of a property or of a key: then the error is reported where the
    next token stands, if there is one. -/
theorem error_points_at_token_unless_passed {source : String} {ts : Tokens} {e : ExpressionError}
    (tokenized : tokenize source = .ok ts) (refused : parse source = .error e) :
    ∃ place cause, e = .parse place cause ∧ ∀ found, cause.found? = some found →
      ∃ before t after, ts = before ++ t :: after ∧ t.token = found ∧ Offends before t cause ∧
        (∀ before' t' after', ts = before' ++ t' :: after' → Offends before' t' cause →
          before' = before) ∧
        StandsAt source found t.position ∧
        (place = t.position ↔ cause.passed = false ∨ found = .finish) ∧
        (cause.passed = true → found ≠ .finish →
          ∃ next later, after = next :: later ∧ place = next.position) := by
  have closed := (tiles_of_tokenize tokenized).closed
  have failed : parseTokens ts = .error e := by
    simpa only [parse, tokenized, bind, Except.bind] using refused
  obtain ⟨place, cause, rfl, named⟩ := parseTokens_blames closed failed
  refine ⟨place, cause, rfl, fun found names => ?_⟩
  obtain ⟨before, t, after, rfl, rfl, rfl, offends⟩ := named found names
  have stands := standsAt_of_tokenize tokenized t (by simp)
  refine ⟨before, t, after, rfl, rfl, offends, fun before' t' after' same other =>
    offends.before_eq other same, stands, ?_⟩
  cases closed_of_append closed (List.cons_ne_nil t after) with
  | finish end_ =>
      have here : cause.place [t] = t.position := by
        unfold ParseCause.place
        split <;> rfl
      exact ⟨iff_of_true here (.inr end_), fun _ inner => absurd end_ inner⟩
  | cons inner rest =>
      obtain ⟨next, later, rfl⟩ := List.exists_cons_of_length_pos rest.length_pos
      have increasing : t.position < next.position := by
        obtain ⟨pieces, last, _, tiled, same⟩ := tokenize_eq_ok_iff.1 tokenized
        have sorted : ((Piece.located 0 pieces last).map Located.position).Pairwise (· < ·) :=
          tiled.increasing
        rw [← same, List.map_append, List.pairwise_append] at sorted
        exact (List.pairwise_cons.1 sorted.2.1).1 _ (by simp)
      cases passed : cause.passed with
      | false =>
          have here : cause.place (t :: next :: later) = t.position := by
            rw [ParseCause.place, passed]
            rfl
          exact ⟨iff_of_true here (.inl rfl), nofun⟩
      | true =>
          have there : cause.place (t :: next :: later) = next.position := by
            rw [ParseCause.place, passed]
            rfl
          refine ⟨iff_of_false (by omega) ?_, fun _ _ => ⟨next, later, rfl, there⟩⟩
          rintro (same | end_)
          · cases same
          · exact inner end_

theorem error_points_at_token_unless_passed_bracket :
    let ts : Tokens := [⟨.symbol .openBracket, 0⟩, ⟨.name "é", 1⟩, ⟨.symbol .comma, 3⟩,
      ⟨.name "é", 5⟩, ⟨.name "b", 8⟩, ⟨.symbol .closeBracket, 9⟩, ⟨.finish, 10⟩]
    let cause : ParseCause := .expected .closeBracket (.name "b")
    tokenize "[é, é b]" = .ok ts ∧ parse "[é, é b]" = .error (.parse 8 cause) ∧
      ∃ before t after, ts = before ++ t :: after ∧ t.token = .name "b" ∧
        Offends before t cause ∧ StandsAt "[é, é b]" (.name "b") 8 ∧ t.position = 8 := by
  intro ts cause
  have lexed : tokenize "[é, é b]" = .ok ts := eq_ok_of_toOption (by decide +kernel)
  have refused : parse "[é, é b]" = .error (.parse 8 cause) := by
    rw [parse, lexed]
    rfl
  obtain ⟨place, cause', same, named⟩ := error_points_at_token_unless_passed lexed refused
  obtain ⟨rfl, rfl⟩ := ExpressionError.parse.inj same
  obtain ⟨before, t, after, whole, found, offends, _, stands, here, _⟩ := named _ rfl
  have position := here.2 (.inl rfl)
  exact ⟨lexed, refused, before, t, after, whole, found, offends, position ▸ stands, position.symm⟩

/-- An operator in place of an operand is reported where the token after it stands. -/
theorem error_points_behind_operator :
    tokenize "a + * b" = .ok [⟨.name "a", 0⟩, ⟨.symbol .plus, 2⟩, ⟨.symbol .star, 4⟩,
      ⟨.name "b", 6⟩, ⟨.finish, 7⟩] ∧
    parse "a + * b" = .error (.parse 6 (.unexpected (.symbol .star))) := by
  have lexed : tokenize "a + * b" = .ok [⟨.name "a", 0⟩, ⟨.symbol .plus, 2⟩, ⟨.symbol .star, 4⟩,
      ⟨.name "b", 6⟩, ⟨.finish, 7⟩] := eq_ok_of_toOption (by decide +kernel)
  refine ⟨lexed, ?_⟩
  rw [parse, lexed]
  rfl

end Superstep.Expression
