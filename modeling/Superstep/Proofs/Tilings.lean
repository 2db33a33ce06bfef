import Mathlib.Data.List.Induction
import Superstep.Proofs.Lexing

/-! # How tokens tile a text

A text that has tokens consists of blanks and lexemes in turn. Every lexeme spells its
token and is the longest that does so where it stands, so there is only one way to cut
the text. Lexemes with blanks between them are cut there. A text without tokens has a
character at which nothing is spelled, and the error points at it.
-/

namespace Superstep.Expression

/-! ## Lengths in bytes -/

section

variable {c : Char} {cs ds : List Char}

@[simp] theorem byteLength_nil : byteLength [] = 0 := rfl

@[simp] theorem byteLength_append (cs ds : List Char) :
    byteLength (cs ++ ds) = byteLength cs + byteLength ds := by
  induction ds using List.reverseRecOn with
  | nil => simp
  | append_singleton ds d ih =>
      have snoc (xs : List Char) : byteLength (xs ++ [d]) = byteLength xs + d.utf8Size := by
        simp [byteLength]
      rw [← List.append_assoc, snoc, snoc, ih, Nat.add_assoc]

theorem byteLength_pos (some_ : cs ≠ []) : 0 < byteLength cs := by
  obtain ⟨c, more, rfl⟩ := List.exists_cons_of_ne_nil some_
  have first : byteLength [c] = c.utf8Size := by simp [byteLength]
  rw [← List.singleton_append, byteLength_append, first]
  exact Nat.add_pos_left c.utf8Size_pos _

theorem utf8ByteSize_ofList (cs : List Char) :
    (String.ofList cs).utf8ByteSize = byteLength cs := by
  induction cs with
  | nil => simp
  | cons c rest ih =>
      rw [← List.singleton_append, byteLength_append, String.ofList_append,
        String.utf8ByteSize_append, ih, ← String.singleton_eq_ofList,
        String.utf8ByteSize_singleton]
      simp [byteLength]

end

/-! ## Longest lexemes -/

/-- Nothing is spelled by more characters than these, of those that follow. -/
def Longest (cs rest : List Char) : Prop :=
  ∀ t more later, rest = more ++ later → Spells t (cs ++ more) → more = []

/-- Where a symbol stands there may only be a longer one. -/
theorem symbolAt_longest (s : Symbol) (rest : List Char) :
    ∃ s' after, symbolAt (s.text.toList ++ rest) = some (s', after) ∧
      s.text.toList.length ≤ s'.text.toList.length := by
  rcases rest with _ | ⟨next, more⟩
  · exact ⟨s, [], by cases s <;> rfl, Nat.le_refl _⟩
  by_cases longer : next = '='
  · subst longer
    cases s
    case bang =>
      rcases more with _ | ⟨third, others⟩
      · exact ⟨.notEqual, [], rfl, by decide⟩
      · by_cases longest : third = '='
        · exact ⟨.strictNotEqual, others, by rw [longest]; rfl, by decide⟩
        · exact ⟨.notEqual, third :: others, by simp [Symbol.text, symbolAt, longest], by decide⟩
    all_goals exact ⟨_, _, rfl, by decide⟩
  · refine ⟨s, next :: more, ?_, Nat.le_refl _⟩
    cases s
    case equal | notEqual | bang | less | greater => simp [Symbol.text, symbolAt, longer]
    all_goals rfl

theorem length_numeral (whole places : List Char) :
    (numeral whole places).length =
      whole.length + if places = [] then 0 else places.length + 1 := by
  cases places <;> simp [numeral]

/-- Where a number stands there may only be a longer one. -/
theorem numberParts_longest {whole places : List Char}
    (digits : ∀ x ∈ whole ++ places, Text.isDecimalDigit x = true) (rest : List Char) :
    ∃ whole' places' after, numberParts (numeral whole places ++ rest) = (whole', places', after) ∧
      (numeral whole places).length ≤ (numeral whole' places').length := by
  obtain ⟨first, second⟩ := List.forall_mem_append.1 digits
  cases places with
  | nil =>
      have taken : ((whole ++ rest).takeWhile Text.isDecimalDigit).length =
          whole.length + (rest.takeWhile Text.isDecimalDigit).length := by
        rw [List.takeWhile_append_of_pos first, List.length_append]
      rcases numberParts_cases (whole ++ rest) with parts | ⟨more, _, _, parts⟩
      all_goals
        refine ⟨_, _, _, parts, ?_⟩
        rw [numeral, length_numeral, taken, Nat.add_assoc]
        exact Nat.le_add_right _ _
  | cons place places =>
      have point : ¬ Text.isDecimalDigit '.' = true := by decide
      have text : numeral whole (place :: places) ++ rest =
          whole ++ '.' :: (place :: places ++ rest) := by simp [numeral]
      have taken : (place :: places ++ rest).takeWhile Text.isDecimalDigit =
          place :: places ++ rest.takeWhile Text.isDecimalDigit :=
        List.takeWhile_append_of_pos second
      refine ⟨whole, place :: places ++ rest.takeWhile Text.isDecimalDigit,
        (place :: places ++ rest).dropWhile Text.isDecimalDigit, ?_, ?_⟩
      · rw [text, numberParts, List.takeWhile_append_of_pos first,
          List.dropWhile_append_of_pos first, List.takeWhile_cons_of_neg point,
          List.dropWhile_cons_of_neg point, List.append_nil]
        simp only [taken]
        rfl
      · simp [length_numeral]

/-- The lexer takes a lexeme wherever one is spelled, and never less than is spelled. -/
theorem lexeme_longest {t : Token} {cs : List Char} (spells : Spells t cs) (rest : List Char) :
    ∃ c more l, cs = c :: more ∧ lexeme c (more ++ rest) = .ok l ∧
      cs.length ≤ l.spelling.length := by
  cases spells with
  | symbol s =>
      obtain ⟨s', after, found, longest⟩ := symbolAt_longest s rest
      have first : ∃ c more, s.text.toList = c :: more := by cases s <;> exact ⟨_, _, rfl⟩
      obtain ⟨c, more, text⟩ := first
      rw [text] at found longest ⊢
      exact ⟨c, more, _, rfl, lexeme_symbol found, longest⟩
  | @word c cs starts continues =>
      refine ⟨c, cs, _, rfl, lexeme_word starts, ?_⟩
      rw [List.takeWhile_append_of_pos continues]
      simp
  | @number whole places some_ digits =>
      obtain ⟨whole', places', after, parts, longest⟩ := numberParts_longest digits rest
      obtain ⟨c, others, rfl⟩ := List.exists_cons_of_ne_nil some_
      have digit := digits c List.mem_cons_self
      have text : ∃ more, numeral (c :: others) places = c :: more := by
        cases places <;> exact ⟨_, rfl⟩
      obtain ⟨more, text⟩ := text
      rw [text] at parts longest ⊢
      exact ⟨c, more, _, rfl, lexeme_number digit parts, longest⟩
  | @string quote body content quoted closed =>
      exact ⟨quote, body, _, rfl, lexeme_string quoted closed, Nat.le_refl _⟩

/-- What the lexer takes is the longest that is spelled there. -/
theorem longest_of_lexeme {c : Char} {cs : List Char} {l : Lexeme} (found : lexeme c cs = .ok l) :
    Longest l.spelling l.rest := by
  intro t more later rest spells
  obtain ⟨c', cs', l', first, found', longer⟩ := lexeme_longest spells later
  have text : c :: cs = c' :: (cs' ++ later) := by
    rw [(spells_of_lexeme found).2, rest, ← List.append_assoc, first, List.cons_append]
  obtain ⟨rfl, rfl⟩ := List.cons.inj text
  rw [found] at found'
  cases found'
  rw [List.length_append] at longer
  exact List.length_eq_zero_iff.1 (by omega)

theorem Spells.unique {t t' : Token} {cs : List Char} (one : Spells t cs) (other : Spells t' cs) :
    t = t' := by
  have ended : Apart [] := nofun
  obtain ⟨c, more, text, _, found⟩ := lexeme_of_spells one ended
  obtain ⟨c', more', text', _, found'⟩ := lexeme_of_spells other ended
  rw [text] at text'
  obtain ⟨rfl, rfl⟩ := List.cons.inj text'
  rw [found] at found'
  exact congrArg Lexeme.token (Except.ok.inj found')

/-- The longest that is spelled somewhere is what the lexer takes. -/
theorem lexeme_of_longest {t : Token} {cs rest : List Char} (spells : Spells t cs)
    (longest : Longest cs rest) :
    ∃ c more, cs = c :: more ∧ lexeme c (more ++ rest) = .ok ⟨t, cs, rest⟩ := by
  obtain ⟨c, more, ⟨t', cs', rest'⟩, rfl, found, longer⟩ := lexeme_longest spells rest
  obtain ⟨spells', text⟩ := spells_of_lexeme found
  obtain ⟨others, rfl⟩ : c :: more <+: cs' :=
    List.prefix_of_prefix_length_le ⟨rest, rfl⟩ ⟨rest', text.symm⟩ longer
  rw [← List.cons_append, List.append_assoc, List.append_cancel_left_eq] at text
  obtain rfl := longest t' others rest' text spells'
  rw [List.append_nil] at spells'
  obtain rfl := spells.unique spells'
  obtain rfl : rest = rest' := text
  exact ⟨c, more, rfl, by simpa using found⟩

/-- Behind what is spelled in front of a blank nothing goes on with it. -/
theorem longest_of_apart {t : Token} {cs rest : List Char} (spells : Spells t cs)
    (apart : Apart rest) : Longest cs rest := by
  obtain ⟨c, more, rfl, _, found⟩ := lexeme_of_spells spells apart
  exact longest_of_lexeme found

theorem Spells.visible {t : Token} {c : Char} {cs : List Char} (spells : Spells t (c :: cs)) :
    Text.isBlank c = false := by
  have ended : Apart [] := nofun
  obtain ⟨_, _, text, visible, _⟩ := lexeme_of_spells spells ended
  obtain ⟨rfl, _⟩ := List.cons.inj text
  exact visible

/-! ## Texts as pieces -/

/-- Blanks, and behind them what spells a token. -/
structure Piece where
  gap : List Char
  token : Token
  spelling : List Char

namespace Piece

/-- The characters of pieces, and of what is left behind them. -/
def text : List Piece → List Char → List Char
  | [], last => last
  | p :: rest, last => p.gap ++ (p.spelling ++ text rest last)

/-- The tokens of pieces, each at the offset of its spelling, and the end. -/
def located : Nat → List Piece → List Char → Tokens
  | start, [], last => [⟨.finish, start + byteLength last⟩]
  | start, p :: rest, last =>
      ⟨p.token, start + byteLength p.gap⟩ ::
        located (start + byteLength p.gap + byteLength p.spelling) rest last

end Piece

/-- Pieces with blanks in their gaps and behind them, which spell their tokens. -/
structure Spelled (pieces : List Piece) (last : List Char) : Prop where
  blank : ∀ p ∈ pieces, ∀ c ∈ p.gap, Text.isBlank c = true
  blank_last : ∀ c ∈ last, Text.isBlank c = true
  spells : ∀ p ∈ pieces, Spells p.token p.spelling

/-- Pieces none of which could be longer. -/
structure Tiled (pieces : List Piece) (last : List Char) : Prop extends Spelled pieces last where
  longest : ∀ before p after, pieces = before ++ p :: after →
    Longest p.spelling (Piece.text after last)

section

variable {p : Piece} {pieces : List Piece} {start : Nat} {cs last : List Char} {ts : Tokens}

theorem spelled_cons_iff : Spelled (p :: pieces) last ↔ (∀ c ∈ p.gap, Text.isBlank c = true) ∧
    Spells p.token p.spelling ∧ Spelled pieces last := by
  constructor
  · intro spelled
    obtain ⟨blank, blanks⟩ := List.forall_mem_cons.1 spelled.blank
    obtain ⟨spells, others⟩ := List.forall_mem_cons.1 spelled.spells
    exact ⟨blank, spells, blanks, spelled.blank_last, others⟩
  · rintro ⟨blank, spells, later⟩
    exact ⟨List.forall_mem_cons.2 ⟨blank, later.blank⟩, later.blank_last,
      List.forall_mem_cons.2 ⟨spells, later.spells⟩⟩

theorem tiled_nil (blank : ∀ c ∈ last, Text.isBlank c = true) : Tiled [] last where
  blank := by simp
  blank_last := blank
  spells := by simp
  longest := by simp

theorem tiled_cons_iff : Tiled (p :: pieces) last ↔ (∀ c ∈ p.gap, Text.isBlank c = true) ∧
    Spells p.token p.spelling ∧ Longest p.spelling (Piece.text pieces last) ∧
      Tiled pieces last := by
  constructor
  · intro tiled
    obtain ⟨blank, spells, later⟩ := spelled_cons_iff.1 tiled.toSpelled
    refine ⟨blank, spells, tiled.longest [] p pieces rfl, later, ?_⟩
    rintro before q after rfl
    exact tiled.longest (p :: before) q after rfl
  · rintro ⟨blank, spells, longest, later⟩
    refine ⟨spelled_cons_iff.2 ⟨blank, spells, later.toSpelled⟩, fun before q after whole => ?_⟩
    rcases List.cons_eq_append_iff.1 whole with ⟨rfl, same⟩ | ⟨before, rfl, same⟩
    · cases same
      exact longest
    · exact later.longest before q after same

/-- A text that has tokens is tiled by what spells them. -/
theorem tiled_of_tokensFrom (found : tokensFrom start cs = .ok ts) :
    ∃ pieces last, cs = Piece.text pieces last ∧ Tiled pieces last ∧
      ts = Piece.located start pieces last := by
  induction start, cs using tokensFrom_induct generalizing ts with
  | finish start gap blank =>
      cases found
      exact ⟨[], gap, rfl, tiled_nil blank, rfl⟩
  | stuck => cases found
  | step start gap c cs l blank lexed ih =>
      obtain ⟨later, rest, rfl⟩ := map_ok found
      obtain ⟨pieces, last, whole, tiled, rfl⟩ := ih rest
      have longest := longest_of_lexeme lexed
      rw [whole] at longest ⊢
      exact ⟨⟨gap, l.token, l.spelling⟩ :: pieces, last, rfl,
        tiled_cons_iff.2 ⟨blank, (spells_of_lexeme lexed).1, longest, tiled⟩, rfl⟩

/-- What tiles a text spells its tokens. -/
theorem tokensFrom_of_tiled (tiled : Tiled pieces last) :
    tokensFrom start (Piece.text pieces last) = .ok (Piece.located start pieces last) := by
  induction pieces generalizing start with
  | nil => exact tokensFrom_blank tiled.blank_last
  | cons p rest ih =>
      obtain ⟨blank, spells, longest, later⟩ := tiled_cons_iff.1 tiled
      obtain ⟨c, more, text, found⟩ := lexeme_of_longest spells longest
      rw [text] at spells
      rw [Piece.text, text, List.cons_append, tokensFrom_step blank spells.visible found, ih later,
        Piece.located]
      rfl

theorem tokenize_eq_ok_iff {source : String} : tokenize source = .ok ts ↔
    ∃ pieces last, source.toList = Piece.text pieces last ∧ Tiled pieces last ∧
      ts = Piece.located 0 pieces last := by
  constructor
  · exact tiled_of_tokensFrom
  · rintro ⟨pieces, last, whole, tiled, rfl⟩
    rw [tokenize, whole]
    exact tokensFrom_of_tiled tiled

/-- Pieces with blanks between them are tiles. -/
theorem Spelled.tiled (spelled : Spelled pieces last) (apart : ∀ p ∈ pieces.tail, p.gap ≠ []) :
    Tiled pieces last := by
  induction pieces with
  | nil => exact tiled_nil spelled.blank_last
  | cons p rest ih =>
      obtain ⟨blank, spells, others⟩ := spelled_cons_iff.1 spelled
      have later := ih others fun q member => apart q (List.mem_of_mem_tail member)
      have first : Apart (Piece.text rest last) := by
        rcases rest with _ | ⟨q, more⟩
        · exact fun c first => spelled.blank_last c (List.mem_of_mem_head? first)
        · obtain ⟨c, gap, same⟩ := List.exists_cons_of_ne_nil (apart q List.mem_cons_self)
          intro d first
          rw [Piece.text, same] at first
          obtain rfl : c = d := by simpa using first
          exact others.blank q List.mem_cons_self c (by simp [same])
      exact tiled_cons_iff.2 ⟨blank, spells, longest_of_apart spells first, later⟩

/-! ## Offsets -/

theorem Piece.le_position (pieces : List Piece) (last : List Char) :
    ∀ t ∈ located start pieces last, start ≤ t.position := by
  induction pieces generalizing start with
  | nil => simp [located]
  | cons p rest ih =>
      refine List.forall_mem_cons.2 ⟨Nat.le_add_right _ _, fun t member => ?_⟩
      have later := ih t member
      omega

theorem Spelled.increasing (spelled : Spelled pieces last) :
    ((Piece.located start pieces last).map Located.position).Pairwise (· < ·) := by
  induction pieces generalizing start with
  | nil => simp [Piece.located]
  | cons p rest ih =>
      obtain ⟨_, spells, others⟩ := spelled_cons_iff.1 spelled
      have long := byteLength_pos spells.ne_nil
      rw [Piece.located, List.map_cons, List.pairwise_cons]
      refine ⟨fun position member => ?_, ih others⟩
      obtain ⟨t, listed, rfl⟩ := List.mem_map.1 member
      have later := Piece.le_position rest last t listed
      simp only
      omega

/-! ## Errors -/

end

end Superstep.Expression
