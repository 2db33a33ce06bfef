import Mathlib.Data.List.TakeWhile
import Superstep.Proofs.Reading
import Superstep.Proofs.Results

/-! # Spellings of tokens

What spells a token, without saying how it is found: a symbol is its text, a word starts
like a name and goes on like one, a number has digits and perhaps places after a point,
and a string is whatever its closing quote ends. The lexer takes a token from a text if
and only if it is spelled there, and up to a blank there is nothing else that it could
take.
-/

namespace Superstep

namespace Text

theorem Ranges.exists_of_hasCode {ranges : Ranges} {code : Nat} (has : ranges.hasCode code = true) :
    ∃ r ∈ ranges, r.1 ≤ code ∧ code ≤ r.2 := by
  induction ranges with
  | nil => cases has
  | cons r rest ih =>
      simp only [hasCode] at has
      split at has
      · cases has
      · split at has
        next high low => exact ⟨r, List.mem_cons_self, Nat.le_of_not_lt high, low⟩
        next =>
          obtain ⟨other, member, inside⟩ := ih has
          exact ⟨other, List.mem_cons_of_mem _ member, inside⟩

/-- What holds of all codes in some ranges can be found out by trying each one. -/
theorem Ranges.forall_code {ranges : Ranges} {p : Nat → Bool}
    (all : ∀ r ∈ ranges, ∀ code ∈ List.range' r.1 (r.2 + 1 - r.1), p code = true) {code : Nat}
    (has : ranges.hasCode code = true) : p code = true := by
  obtain ⟨r, member, low, high⟩ := exists_of_hasCode has
  refine all r member _ (List.mem_range'_1.2 ⟨low, ?_⟩)
  omega

theorem isDecimalDigit_eq (c : Char) : isDecimalDigit c = Ranges.hasCode [(48, 57)] c.toNat := by
  have bounds : isDecimalDigit c = (decide (48 ≤ c.toNat) && decide (c.toNat ≤ 57)) := rfl
  rw [bounds, Ranges.hasCode, Ranges.hasCode]
  by_cases low : c.toNat < 48
  · simp [low, Nat.not_le_of_lt low]
  · simp [low, Nat.le_of_not_lt low]

theorem not_letterOrNumeral_of_blank {c : Char} (blank : isBlank c = true) :
    isLetterOrNumeral c = false := by
  have neither := Ranges.forall_code
    (p := fun code => !(letterRanges.hasCode code || numeralRanges.hasCode code))
    (by decide +kernel) blank
  exact Bool.not_eq_true' _ ▸ neither

theorem not_digit_of_blank {c : Char} (blank : isBlank c = true) : isDecimalDigit c = false := by
  have outside := Ranges.forall_code (p := fun code => !Ranges.hasCode [(48, 57)] code)
    (by decide +kernel) blank
  rw [isDecimalDigit_eq]
  exact Bool.not_eq_true' _ ▸ outside

theorem not_letter_of_digit {c : Char} (digit : isDecimalDigit c = true) : isLetter c = false := by
  rw [isDecimalDigit_eq] at digit
  have outside := Ranges.forall_code (p := fun code => !letterRanges.hasCode code)
    (by decide +kernel) digit
  exact Bool.not_eq_true' _ ▸ outside

end Text

namespace Expression

/-- The digits of a number, with a point where places follow. -/
def numeral (whole : List Char) : List Char → List Char
  | [] => whole
  | place :: places => whole ++ '.' :: place :: places

/-- What stands behind an opening quote, the closing one included, and the content that
    it spells. -/
inductive Quotes (quote : Char) : List Char → List Char → Prop where
  | close : Quotes quote [quote] []
  | escape {body content : List Char} (c : Char) (rest : Quotes quote body content) :
      Quotes quote ('\\' :: c :: body) (unescape c :: content)
  | plain {body content : List Char} {c : Char} (unescaped : c ≠ '\\') (inner : c ≠ quote)
      (rest : Quotes quote body content) : Quotes quote (c :: body) (c :: content)

/-- What spells a token. -/
inductive Spells : Token → List Char → Prop where
  | symbol (s : Symbol) : Spells (.symbol s) s.text.toList
  | word {c : Char} {cs : List Char} (starts : startsName c = true)
      (continues : ∀ x ∈ cs, continuesName x = true) :
      Spells (wordToken (String.ofList (c :: cs))) (c :: cs)
  | number {whole places : List Char} (some_ : whole ≠ [])
      (digits : ∀ x ∈ whole ++ places, Text.isDecimalDigit x = true) :
      Spells (.number (numberOf whole places)) (numeral whole places)
  | string {quote : Char} {body content : List Char} (quoted : quote = '"' ∨ quote = '\'')
      (closed : Quotes quote body content) :
      Spells (.string (String.ofList content)) (quote :: body)

/-- Nothing follows, or a blank does. -/
def Apart (rest : List Char) : Prop :=
  ∀ c ∈ rest.head?, Text.isBlank c = true

section

variable {c : Char} {cs rest : List Char}

theorem startsName_of_blank (blank : Text.isBlank c = true) : startsName c = false := by
  have letter := Text.not_letterOrNumeral_of_blank blank
  have other : c ≠ '_' ∧ c ≠ '$' := by
    constructor <;> rintro rfl <;> exact absurd blank (by decide)
  simp only [Text.isLetterOrNumeral, Bool.or_eq_false_iff] at letter
  simp [startsName, letter.1, other]

theorem continuesName_of_blank (blank : Text.isBlank c = true) : continuesName c = false := by
  have other : c ≠ '_' ∧ c ≠ '$' := by
    constructor <;> rintro rfl <;> exact absurd blank (by decide)
  simp [continuesName, Text.not_letterOrNumeral_of_blank blank, other]

/-- Of characters that all have a property the longest run is all of them, if the blank
    after them has not. -/
theorem Apart.takeWhile_eq {p : Char → Bool} (apart : Apart rest) (all : ∀ x ∈ cs, p x = true)
    (blanks : ∀ x, Text.isBlank x = true → p x = false) :
    (cs ++ rest).takeWhile p = cs ∧ (cs ++ rest).dropWhile p = rest := by
  have none : rest.takeWhile p = [] ∧ rest.dropWhile p = rest := by
    cases rest with
    | nil => exact ⟨rfl, rfl⟩
    | cons next more =>
        have stops := blanks next (apart next rfl)
        simp [stops]
  rw [List.takeWhile_append_of_pos all, List.dropWhile_append_of_pos all, none.1, none.2]
  simp

/-! ## Symbols -/

theorem symbolAt_text (s : Symbol) (apart : Apart rest) :
    symbolAt (s.text.toList ++ rest) = some (s, rest) := by
  cases rest with
  | nil => cases s <;> rfl
  | cons next more =>
      have blank := apart next rfl
      have longer : next ≠ '=' := by
        rintro rfl
        exact absurd blank (by decide)
      -- Only these are the beginnings of longer symbols.
      cases s
      case equal | notEqual | bang | less | greater => simp [Symbol.text, symbolAt, longer]
      all_goals rfl

theorem text_of_symbolAt {s : Symbol} (found : symbolAt cs = some (s, rest)) :
    cs = s.text.toList ++ rest := by
  unfold symbolAt at found
  split at found <;> cases found <;> rfl

/-- The characters that start something else than a name or a number. -/
def marks : List Char :=
  "=!<>&|+-*/%.,:?()[]\x7b\x7d\"'".toList

theorem mem_marks_of_symbolAt {s : Symbol} (found : symbolAt (c :: cs) = some (s, rest)) :
    c ∈ marks := by
  have first : (c :: cs).head? = some c := rfl
  rw [text_of_symbolAt found] at first
  cases s <;> cases first <;> decide

theorem symbolAt_of_not_mark (plain : c ∉ marks) : symbolAt (c :: cs) = none := by
  cases found : symbolAt (c :: cs) with
  | none => rfl
  | some x => exact absurd (mem_marks_of_symbolAt found) plain

theorem ne_of_not_mark (plain : c ∉ marks) :
    c ≠ '=' ∧ c ≠ '&' ∧ c ≠ '|' ∧ ¬ (c = '"' ∨ c = '\'') := by
  refine ⟨?_, ?_, ?_, ?_⟩
  · rintro rfl
    exact plain (by decide)
  · rintro rfl
    exact plain (by decide)
  · rintro rfl
    exact plain (by decide)
  · rintro (rfl | rfl) <;> exact plain (by decide)

theorem not_mark_of_startsName (starts : startsName c = true) : c ∉ marks := by
  have none : marks.all (fun m => !startsName m) = true := by decide +kernel
  intro mark
  have other := List.all_eq_true.1 none c mark
  simp [starts] at other

theorem not_mark_of_digit (digit : Text.isDecimalDigit c = true) : c ∉ marks := by
  have none : marks.all (fun m => !Text.isDecimalDigit m) = true := by decide
  intro mark
  have other := List.all_eq_true.1 none c mark
  simp [digit] at other

theorem not_digit_of_startsName (starts : startsName c = true) :
    Text.isDecimalDigit c = false := by
  by_contra digit
  have digit := Bool.of_not_eq_false digit
  have other : c ≠ '_' ∧ c ≠ '$' := by
    constructor <;> rintro rfl <;> exact absurd digit (by decide)
  simp [startsName, Text.not_letter_of_digit digit, other] at starts

/-! ## Strings -/

theorem stringBody_escape (quote : Char) :
    stringBody quote ('\\' :: c :: rest) =
      (stringBody quote rest).map fun (content, after) => (unescape c :: content, after) := by
  rw [stringBody]

theorem stringBody_plain (quote : Char) (unescaped : c ≠ '\\') :
    stringBody quote (c :: rest) =
      if c = quote then some ([], rest)
      else (stringBody quote rest).map fun (content, after) => (c :: content, after) := by
  rw [stringBody]
  · rintro rfl
    exact absurd rfl unescaped
  · rintro _ _ rfl
    exact absurd rfl unescaped

theorem stringBody_of_quotes {quote : Char} {body content : List Char} (proper : quote ≠ '\\')
    (closed : Quotes quote body content) (rest : List Char) :
    stringBody quote (body ++ rest) = some (content, rest) := by
  induction closed with
  | close =>
      rw [List.cons_append, stringBody_plain quote proper, if_pos rfl]
      rfl
  | escape c _ ih =>
      rw [List.cons_append, List.cons_append, stringBody_escape, ih]
      rfl
  | plain unescaped inner _ ih =>
      rw [List.cons_append, stringBody_plain quote unescaped, if_neg inner, ih]
      rfl

theorem quotes_of_stringBody {quote : Char} {content : List Char}
    (found : stringBody quote cs = some (content, rest)) :
    ∃ body, cs = body ++ rest ∧ Quotes quote body content := by
  fun_induction stringBody quote cs generalizing content with
  | case1 | case2 => cases found
  | case3 c after ih =>
      obtain ⟨⟨inner, left⟩, closed, same⟩ := Option.map_eq_some_iff.1 found
      cases same
      obtain ⟨body, rfl, quotes⟩ := ih closed
      exact ⟨'\\' :: c :: body, rfl, .escape c quotes⟩
  | case4 after _ _ =>
      cases found
      exact ⟨[quote], rfl, .close⟩
  | case5 c after alone pair inner ih =>
      have unescaped : c ≠ '\\' := by
        rintro rfl
        cases after with
        | nil => exact alone rfl rfl
        | cons d more => exact pair d more rfl rfl
      obtain ⟨⟨content', left⟩, closed, same⟩ := Option.map_eq_some_iff.1 found
      cases same
      obtain ⟨body, rfl, quotes⟩ := ih closed
      exact ⟨c :: body, rfl, .plain unescaped inner quotes⟩

/-! ## Numbers -/

theorem numeral_of_ne_nil (whole : List Char) {places : List Char} (some_ : places ≠ []) :
    numeral whole places = whole ++ '.' :: places := by
  cases places with
  | nil => exact absurd rfl some_
  | cons => rfl

theorem numberParts_numeral {whole places : List Char}
    (digits : ∀ x ∈ whole ++ places, Text.isDecimalDigit x = true) (apart : Apart rest) :
    numberParts (numeral whole places ++ rest) = (whole, places, rest) := by
  obtain ⟨first, second⟩ := List.forall_mem_append.1 digits
  have stops (x : Char) : Text.isBlank x = true → Text.isDecimalDigit x = false :=
    Text.not_digit_of_blank
  cases places with
  | nil =>
      obtain ⟨taken, left⟩ := apart.takeWhile_eq first stops
      rw [numeral, numberParts, taken, left]
      split
      next more =>
        have point := apart '.' rfl
        exact absurd point (by decide)
      next => rfl
  | cons place places =>
      obtain ⟨taken, left⟩ := apart.takeWhile_eq second stops
      have point : ¬ Text.isDecimalDigit '.' = true := by decide
      rw [numeral, numberParts, List.append_assoc, List.takeWhile_append_of_pos first,
        List.dropWhile_append_of_pos first, List.cons_append, List.takeWhile_cons_of_neg point,
        List.dropWhile_cons_of_neg point, List.append_nil]
      simp only [taken, left]
      rfl

/-- A number ends with its digits, or with those after a point. -/
theorem numberParts_cases (cs : List Char) :
    numberParts cs = (cs.takeWhile Text.isDecimalDigit, [], cs.dropWhile Text.isDecimalDigit) ∨
      ∃ more, cs.dropWhile Text.isDecimalDigit = '.' :: more ∧
        more.takeWhile Text.isDecimalDigit ≠ [] ∧
        numberParts cs = (cs.takeWhile Text.isDecimalDigit, more.takeWhile Text.isDecimalDigit,
          more.dropWhile Text.isDecimalDigit) := by
  unfold numberParts
  split
  next more point =>
    by_cases none : more.takeWhile Text.isDecimalDigit = []
    · simp [none, point]
    · exact .inr ⟨more, point, none, if_neg (by simpa using none)⟩
  next => exact .inl rfl

theorem numeral_of_numberParts {whole places : List Char} (digit : Text.isDecimalDigit c = true)
    (found : numberParts (c :: cs) = (whole, places, rest)) :
    whole ≠ [] ∧ (∀ x ∈ whole ++ places, Text.isDecimalDigit x = true) ∧
      c :: cs = numeral whole places ++ rest := by
  have whole_ := List.takeWhile_append_dropWhile (p := Text.isDecimalDigit) (l := c :: cs)
  have some_ : (c :: cs).takeWhile Text.isDecimalDigit ≠ [] := by
    rw [List.takeWhile_cons_of_pos digit]
    exact List.cons_ne_nil _ _
  have digits (xs : List Char) : ∀ x ∈ xs.takeWhile Text.isDecimalDigit,
      Text.isDecimalDigit x = true := fun x => List.mem_takeWhile_imp
  rcases numberParts_cases (c :: cs) with parts | ⟨more, point, after, parts⟩
  · rw [parts] at found
    cases found
    refine ⟨some_, ?_, whole_.symm⟩
    rw [List.append_nil]
    exact digits _
  · rw [parts] at found
    cases found
    refine ⟨some_, List.forall_mem_append.2 ⟨digits _, digits _⟩, ?_⟩
    rw [numeral_of_ne_nil _ after, List.append_assoc, List.cons_append,
      List.takeWhile_append_dropWhile, ← point, whole_]

/-! ## Lexemes -/

/-- What comes before the rest is the spelling. -/
theorem take_spelling {spelling : List Char} (text : c :: cs = spelling ++ rest) :
    (c :: cs).take (cs.length + 1 - rest.length) = spelling := by
  have length := congrArg List.length text
  rw [text, List.take_left']
  simp only [List.length_cons, List.length_append] at length
  omega

theorem lexeme_symbol {s : Symbol} (found : symbolAt (c :: cs) = some (s, rest)) :
    lexeme c cs = .ok ⟨.symbol s, s.text.toList, rest⟩ := by
  simp only [lexeme, found, take_spelling (text_of_symbolAt found)]

theorem lexeme_string {body content : List Char} (quoted : c = '"' ∨ c = '\'')
    (closed : Quotes c body content) :
    lexeme c (body ++ rest) = .ok ⟨.string (String.ofList content), c :: body, rest⟩ := by
  have proper : c ≠ '\\' := by
    rintro rfl
    rcases quoted with same | same <;> cases same
  have none : symbolAt (c :: (body ++ rest)) = none := by
    rcases quoted with rfl | rfl <;> rfl
  have other : c ≠ '=' ∧ c ≠ '&' ∧ c ≠ '|' := by
    rcases quoted with rfl | rfl <;> decide
  have text : c :: (body ++ rest) = (c :: body) ++ rest := rfl
  have cut := take_spelling text
  simp only [lexeme, none, other, if_false, quoted, if_true, stringBody_of_quotes proper closed,
    cut]

theorem lexeme_number {whole places : List Char} (digit : Text.isDecimalDigit c = true)
    (parts : numberParts (c :: cs) = (whole, places, rest)) :
    lexeme c cs = .ok ⟨.number (numberOf whole places), numeral whole places, rest⟩ := by
  have plain := not_mark_of_digit digit
  have cut := take_spelling (numeral_of_numberParts digit parts).2.2
  simp only [lexeme, symbolAt_of_not_mark plain, ne_of_not_mark plain, digit, parts, cut,
    if_false, if_true]

theorem lexeme_word (starts : startsName c = true) :
    lexeme c cs = .ok ⟨wordToken (String.ofList (c :: cs.takeWhile continuesName)),
      c :: cs.takeWhile continuesName, cs.dropWhile continuesName⟩ := by
  have plain := not_mark_of_startsName starts
  have text : c :: cs = (c :: cs.takeWhile continuesName) ++ cs.dropWhile continuesName := by
    rw [List.cons_append, List.takeWhile_append_dropWhile]
  have cut := take_spelling text
  simp only [lexeme, symbolAt_of_not_mark plain, ne_of_not_mark plain,
    not_digit_of_startsName starts, starts, cut, if_false, if_true, Bool.false_eq_true]

/-- The lexer takes what is spelled in front of a blank or at the end. -/
theorem lexeme_of_spells {t : Token} (spells : Spells t cs) (apart : Apart rest) :
    ∃ c more, cs = c :: more ∧ Text.isBlank c = false ∧
      lexeme c (more ++ rest) = .ok ⟨t, cs, rest⟩ := by
  cases spells with
  | symbol s =>
      have found := symbolAt_text s apart
      have first : ∃ c more, s.text.toList = c :: more ∧ Text.isBlank c = false := by
        cases s <;> exact ⟨_, _, rfl, by decide⟩
      obtain ⟨c, more, text, visible⟩ := first
      rw [text] at found
      exact ⟨c, more, text, visible, lexeme_symbol found⟩
  | @word c cs starts continues =>
      obtain ⟨taken, left⟩ := apart.takeWhile_eq continues fun x => continuesName_of_blank
      have found : lexeme c (cs ++ rest) = _ := lexeme_word starts
      rw [taken, left] at found
      refine ⟨c, cs, rfl, ?_, found⟩
      by_contra blank
      rw [startsName_of_blank (Bool.of_not_eq_false blank)] at starts
      cases starts
  | @number whole places some_ digits =>
      obtain ⟨c, more, rfl⟩ := List.exists_cons_of_ne_nil some_
      have digit := digits c List.mem_cons_self
      have parts := numberParts_numeral digits apart
      have text : ∃ tail, numeral (c :: more) places = c :: tail := by
        cases places <;> exact ⟨_, rfl⟩
      obtain ⟨tail, text⟩ := text
      rw [text] at parts
      refine ⟨c, tail, text, ?_, lexeme_number digit parts⟩
      by_contra blank
      rw [Text.not_digit_of_blank (Bool.of_not_eq_false blank)] at digit
      cases digit
  | @string quote body content quoted closed =>
      refine ⟨quote, body, rfl, ?_, lexeme_string quoted closed⟩
      rcases quoted with rfl | rfl <;> decide

/-- Nothing else starts a lexeme. -/
theorem lexeme_cases {l : Lexeme} (found : lexeme c cs = .ok l) :
    (∃ s rest, symbolAt (c :: cs) = some (s, rest)) ∨
      ((c = '"' ∨ c = '\'') ∧ ∃ content rest, stringBody c cs = some (content, rest)) ∨
        Text.isDecimalDigit c = true ∨ startsName c = true := by
  cases symbol : symbolAt (c :: cs) with
  | some x => exact .inl ⟨x.1, x.2, rfl⟩
  | none =>
      by_cases quoted : c = '"' ∨ c = '\''
      · cases body : stringBody c cs with
        | some x => exact .inr (.inl ⟨quoted, x.1, x.2, rfl⟩)
        | none =>
            simp only [lexeme, symbol, quoted, body, if_true] at found
            repeat' split at found
            all_goals cases found
      · cases digit : Text.isDecimalDigit c with
        | true => exact .inr (.inr (.inl rfl))
        | false =>
            cases starts : startsName c with
            | true => exact .inr (.inr (.inr rfl))
            | false =>
                simp only [lexeme, symbol, quoted, digit, starts, if_false,
                  Bool.false_eq_true] at found
                repeat' split at found
                all_goals cases found

/-- What the lexer takes is spelled there. -/
theorem spells_of_lexeme {l : Lexeme} (found : lexeme c cs = .ok l) :
    Spells l.token l.spelling ∧ c :: cs = l.spelling ++ l.rest := by
  rcases lexeme_cases found with
    ⟨s, rest, symbol⟩ | ⟨quoted, content, rest, body⟩ | digit | starts
  · rw [lexeme_symbol symbol] at found
    cases found
    exact ⟨.symbol s, text_of_symbolAt symbol⟩
  · obtain ⟨body, rfl, closed⟩ := quotes_of_stringBody body
    rw [lexeme_string quoted closed] at found
    cases found
    exact ⟨.string quoted closed, rfl⟩
  · rcases parts : numberParts (c :: cs) with ⟨whole, places, rest⟩
    obtain ⟨some_, digits, text⟩ := numeral_of_numberParts digit parts
    rw [lexeme_number digit parts] at found
    cases found
    exact ⟨.number some_ digits, text⟩
  · rw [lexeme_word starts] at found
    cases found
    refine ⟨.word starts fun x => List.mem_takeWhile_imp, ?_⟩
    rw [List.cons_append, List.takeWhile_append_dropWhile]

theorem Spells.ne_nil {t : Token} (spells : Spells t cs) : cs ≠ [] := by
  have ended : Apart [] := nofun
  obtain ⟨c, more, rfl, _⟩ := lexeme_of_spells spells ended
  exact List.cons_ne_nil _ _

theorem Spells.ne_finish {t : Token} (spells : Spells t cs) : t ≠ .finish := by
  cases spells with
  | word =>
      unfold wordToken
      repeat' split
      all_goals exact nofun
  | symbol | number | string => exact nofun

end

/-! ## Texts -/

/-- A text that consists of blanks and spelled tokens in turn, where what follows a token
    is fit to do so. Tokens are located from an offset on. -/
inductive Tiles (fit : List Char → Prop) : Nat → List Char → Tokens → Prop where
  | finish {start : Nat} {gap : List Char} (blank : ∀ c ∈ gap, Text.isBlank c = true) :
      Tiles fit start gap [⟨.finish, start + byteLength gap⟩]
  | word {start : Nat} {gap cs rest : List Char} {t : Token} {ts : Tokens}
      (blank : ∀ c ∈ gap, Text.isBlank c = true) (spells : Spells t cs) (follows : fit rest)
      (later : Tiles fit (start + byteLength gap + byteLength cs) rest ts) :
      Tiles fit start (gap ++ (cs ++ rest)) (⟨t, start + byteLength gap⟩ :: ts)

namespace Tiles

variable {fit : List Char → Prop} {start : Nat} {cs : List Char} {ts : Tokens}

theorem closed (tiles : Tiles fit start cs ts) : Closed ts := by
  induction tiles with
  | finish => exact .finish rfl
  | word _ spells _ _ ih => exact .cons spells.ne_finish ih

theorem spelled (tiles : Tiles fit start cs ts) :
    ∀ t ∈ (tokens ts).dropLast, ∃ spelling, Spells t spelling := by
  induction tiles with
  | finish =>
      intro t member
      cases member
  | word _ spells _ later ih =>
      rw [tokens_cons, List.dropLast_cons_of_ne_nil later.closed.tokens_ne_nil]
      exact List.forall_mem_cons.2 ⟨⟨_, spells⟩, ih⟩

end Tiles

section

variable {start : Nat} {gap cs : List Char} {c : Char} {ts : Tokens}

theorem takeWhile_gap (blank : ∀ x ∈ gap, Text.isBlank x = true)
    (visible : Text.isBlank c = false) :
    (gap ++ c :: cs).takeWhile Text.isBlank = gap ∧
      (gap ++ c :: cs).dropWhile Text.isBlank = c :: cs := by
  rw [List.takeWhile_append_of_pos blank, List.dropWhile_append_of_pos blank]
  simp [visible]

theorem tokensFrom_blank (blank : ∀ x ∈ gap, Text.isBlank x = true) :
    tokensFrom start gap = .ok [⟨.finish, start + byteLength gap⟩] := by
  have none : gap.dropWhile Text.isBlank = [] := List.dropWhile_eq_nil_iff.2 blank
  have all : gap.takeWhile Text.isBlank = gap := List.takeWhile_eq_self_iff.2 blank
  rw [tokensFrom, none, all]

theorem tokensFrom_step {l : Lexeme} (blank : ∀ x ∈ gap, Text.isBlank x = true)
    (visible : Text.isBlank c = false) (found : lexeme c cs = .ok l) :
    tokensFrom start (gap ++ c :: cs) =
      (tokensFrom (start + byteLength gap + byteLength l.spelling) l.rest).map
        (⟨l.token, start + byteLength gap⟩ :: ·) := by
  obtain ⟨taken, left⟩ := takeWhile_gap blank visible
  obtain ⟨spells, text⟩ := spells_of_lexeme found
  have shorter : l.rest.length < (gap ++ c :: cs).length := by
    have := List.length_pos_iff.2 spells.ne_nil
    rw [text]
    simp only [List.length_append]
    omega
  rw [tokensFrom, left, taken]
  simp only [found, shorter, if_true]

/-- Spelled tokens with blanks between them are taken as such. -/
theorem tokensFrom_of_tiles (tiles : Tiles Apart start cs ts) :
    tokensFrom start cs = .ok ts := by
  induction tiles with
  | finish blank => exact tokensFrom_blank blank
  | word blank spells apart later ih =>
      obtain ⟨c, more, rfl, visible, found⟩ := lexeme_of_spells spells apart
      rw [List.cons_append, tokensFrom_step blank visible found, ih]
      rfl

theorem exists_gap (cs : List Char) :
    ∃ gap rest, cs = gap ++ rest ∧ (∀ x ∈ gap, Text.isBlank x = true) ∧
      ∀ x ∈ rest.head?, Text.isBlank x = false := by
  refine ⟨cs.takeWhile Text.isBlank, cs.dropWhile Text.isBlank,
    List.takeWhile_append_dropWhile.symm, fun x => List.mem_takeWhile_imp, fun x first => ?_⟩
  have stopped := List.head?_dropWhile_not Text.isBlank cs
  rw [first] at stopped
  exact stopped

/-- Tokens are found one after the other: behind a gap the text ends, or no lexeme starts
    there, or one does and the others follow it. -/
theorem tokensFrom_induct {motive : Nat → List Char → Except ExpressionError Tokens → Prop}
    (finish : ∀ start gap, (∀ x ∈ gap, Text.isBlank x = true) →
      motive start gap (.ok [⟨.finish, start + byteLength gap⟩]))
    (stuck : ∀ start gap c cs cause, lexeme c cs = .error cause →
      motive start (gap ++ c :: cs) (.error (.lex (start + byteLength gap) cause)))
    (step : ∀ start gap c cs l, (∀ x ∈ gap, Text.isBlank x = true) → lexeme c cs = .ok l →
      motive (start + byteLength gap + byteLength l.spelling) l.rest
        (tokensFrom (start + byteLength gap + byteLength l.spelling) l.rest) →
      motive start (gap ++ (l.spelling ++ l.rest))
        ((tokensFrom (start + byteLength gap + byteLength l.spelling) l.rest).map
          (⟨l.token, start + byteLength gap⟩ :: ·)))
    (start : Nat) (cs : List Char) : motive start cs (tokensFrom start cs) := by
  induction length : cs.length using Nat.strongRecOn generalizing start cs with
  | ind size ih =>
      obtain ⟨gap, rest, rfl, blank, visible⟩ := exists_gap cs
      cases rest with
      | nil =>
          rw [List.append_nil, tokensFrom_blank blank]
          exact finish start gap blank
      | cons c more =>
          have visible : Text.isBlank c = false := visible c rfl
          cases lexed : lexeme c more with
          | error cause =>
              rw [tokensFrom, (takeWhile_gap blank visible).1, (takeWhile_gap blank visible).2]
              simp only [lexed]
              exact stuck start gap c more cause lexed
          | ok l =>
              obtain ⟨spells, text⟩ := spells_of_lexeme lexed
              have shorter : l.rest.length < size := by
                have := List.length_pos_iff.2 spells.ne_nil
                rw [text] at length
                simp only [List.length_append] at length
                omega
              rw [tokensFrom_step blank visible lexed, text]
              exact step start gap c more l blank lexed (ih _ shorter _ _ rfl)

/-- Every text with tokens consists of what spells them. -/
theorem tiles_of_tokensFrom (found : tokensFrom start cs = .ok ts) :
    Tiles (fun _ => True) start cs ts := by
  induction start, cs using tokensFrom_induct generalizing ts with
  | finish start gap blank =>
      cases found
      exact .finish blank
  | stuck => cases found
  | step start gap c cs l blank lexed ih =>
      obtain ⟨later, rest, rfl⟩ := map_ok found
      exact .word blank (spells_of_lexeme lexed).1 trivial (ih rest)

end

theorem tiles_of_tokenize {source : String} {ts : Tokens} (found : tokenize source = .ok ts) :
    Tiles (fun _ => True) 0 source.toList ts :=
  tiles_of_tokensFrom found

end Expression

end Superstep
