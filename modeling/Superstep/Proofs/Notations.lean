import Superstep.Expression.Condition
import Superstep.Proofs.Tilings
import Superstep.Proofs.Writing

/-! # Two notations for names

A property is named behind a point or, as a text, within brackets, and the key of an
object is a name or a text. What an expression is depends on the kinds of its tokens
only, not on where they stand, and a key counts by the word that it is. So both notations
agree but for one word: the lexer takes `undefined` for `null`, also where it names a
property.
-/

namespace Superstep.Expression

open Json (Value)

/-! ## Kinds of tokens -/

/-- The tokens of some characters, wherever they stand. -/
def kinds (cs : List Char) : Option (List Token) :=
  (tokensFrom 0 cs).toOption.map tokens

section

variable {start : Nat} {c : Char} {cs rest : List Char}

theorem tokens_located (start : Nat) (pieces : List Piece) (last : List Char) :
    tokens (Piece.located start pieces last) = pieces.map Piece.token ++ [.finish] := by
  induction pieces generalizing start with
  | nil => rfl
  | cons p rest ih => simp [Piece.located, ih]

theorem kinds_of_tokensFrom {ts : Tokens} (found : tokensFrom start cs = .ok ts) :
    kinds cs = some (tokens ts) := by
  obtain ⟨pieces, last, rfl, tiled, rfl⟩ := tiled_of_tokensFrom found
  simp [kinds, tokensFrom_of_tiled tiled, tokens_located, Except.toOption]

theorem kinds_eq (start : Nat) (cs : List Char) :
    kinds cs = (tokensFrom start cs).toOption.map tokens := by
  cases found : tokensFrom start cs with
  | ok ts => exact kinds_of_tokensFrom found
  | error e =>
      cases other : tokensFrom 0 cs with
      | error e => simp [kinds, other, Except.toOption]
      | ok ts =>
          obtain ⟨pieces, last, rfl, tiled, rfl⟩ := tiled_of_tokensFrom other
          simp [tokensFrom_of_tiled tiled] at found

theorem visible_of_lexeme {l : Lexeme} (found : lexeme c cs = .ok l) : Text.isBlank c = false := by
  obtain ⟨spells, text⟩ := spells_of_lexeme found
  obtain ⟨d, more, same⟩ := List.exists_cons_of_ne_nil spells.ne_nil
  rw [same] at spells text
  obtain ⟨rfl, _⟩ := List.cons.inj text
  exact spells.visible

theorem kinds_of_lexeme {l : Lexeme} (found : lexeme c cs = .ok l) :
    kinds (c :: cs) = (kinds l.rest).map (l.token :: ·) := by
  have step : tokensFrom 0 ([] ++ c :: cs) = _ :=
    tokensFrom_step (List.forall_mem_nil _) (visible_of_lexeme found) found
  rw [kinds, ← List.nil_append (c :: cs), step,
    kinds_eq (0 + byteLength [] + byteLength l.spelling) l.rest]
  cases tokensFrom (0 + byteLength [] + byteLength l.spelling) l.rest <;> rfl

theorem kinds_symbol {s : Symbol} (found : symbolAt (c :: cs) = some (s, rest)) :
    kinds (c :: cs) = (kinds rest).map (.symbol s :: ·) :=
  kinds_of_lexeme (lexeme_symbol found)

end

/-- A text is an expression if and only if its tokens are derived as one. -/
theorem parse_eq_ok_iff {source : String} {e : Expr} : parse source = .ok e ↔
    ∃ used, kinds source.toList = some (used ++ [.finish]) ∧ Derives .choice maxDepth used e := by
  constructor
  · intro produced
    obtain ⟨ts, lexed, parsed⟩ := bind_ok produced
    have derived := derives_of_parseTokens (tiles_of_tokenize lexed).closed parsed
    have found := kinds_of_tokensFrom lexed
    obtain ⟨pieces, last, _, _, rfl⟩ := tokenize_eq_ok_iff.1 lexed
    rw [tokens_located] at derived found
    exact ⟨_, found, by simpa using derived⟩
  · rintro ⟨used, found, derived⟩
    obtain ⟨ts, lexed, same⟩ := Option.map_eq_some_iff.1 found
    have lexed : tokenize source = .ok ts := eq_ok_of_toOption lexed
    obtain ⟨rest, reads, end_⟩ := (tiles_of_tokenize lexed).closed.reads_all
    rw [same, List.dropLast_concat] at reads
    have parsed : (level (maxDepth + 1)).expression ts = .ok (e, rest) :=
      derived.finds ts rest reads (by rw [end_]; rfl)
    simp only [parse, lexed, parseTokens, parsed, end_, bind, Except.bind, if_true]

theorem kinds_nil : kinds [] = some [.finish] := by
  simp [kinds, tokensFrom_blank, tokens, Except.toOption]

/-! ## Keys -/

section

variable {c : Category} {n : Nat} {ts us rest : List Token} {e : Expr} {t t' : Token}
  {key : String}

theorem Derives.ne_nil (derived : Derives c n ts e) : ts ≠ [] := by
  obtain ⟨t, us, rfl, _⟩ := derived.starts
  simp

/-- Where an object is opened before a token that is no key, its first key is too. -/
theorem exists_of_opened {stop : Token} (some_ : ts ≠ []) (other : keyOf stop = none)
    (named : keyOf t = some key) (text : ts ++ stop :: us = .symbol .openBrace :: t :: rest) :
    ∃ more, ts = .symbol .openBrace :: t :: more ∧ rest = more ++ stop :: us := by
  rcases ts with _ | ⟨first, _ | ⟨second, more⟩⟩
  · exact absurd rfl some_
  · simp only [List.cons_append, List.nil_append, List.cons.injEq] at text
    obtain ⟨_, rfl, _⟩ := text
    rw [other] at named
    cases named
  · simp only [List.cons_append, List.cons.injEq] at text
    obtain ⟨rfl, rfl, rfl⟩ := text
    exact ⟨more, rfl, rfl⟩

theorem Commas.rekeyed {fields : List Entry} (listed : Commas (t :: ts) (fields.map Entry.phrase))
    (t' : Token) : ∃ f others, fields = f :: others ∧ f.key = t ∧
      Commas (t' :: ts) ((⟨t', f.word, f.tokens, f.value⟩ :: others).map Entry.phrase) := by
  generalize whole : t :: ts = all at listed
  rcases fields with _ | ⟨f, others⟩
  · rw [List.map_nil] at listed
    cases listed
    cases whole
  refine ⟨f, others, rfl, ?_⟩
  rw [List.map_cons] at listed ⊢
  generalize others.map Entry.phrase = items at listed ⊢
  cases listed with
  | last =>
      obtain ⟨rfl, rfl⟩ := List.cons.inj whole
      exact ⟨rfl, .last _⟩
  | more _ later =>
      obtain ⟨rfl, rfl⟩ := List.cons.inj whole
      exact ⟨rfl, .more (Entry.phrase ⟨t', f.word, f.tokens, f.value⟩) later⟩

/-- The first key of an object counts by its word only. -/
theorem Derives.rekeyed (derived : Derives c n ts e)
    (first : ts = .symbol .openBrace :: t :: rest) (named : keyOf t = some key)
    (same : keyOf t' = some key) : Derives c n (.symbol .openBrace :: t' :: rest) e := by
  induction derived generalizing rest with
  | nested _ ih => exact .nested (ih first)
  | condition _ ih => exact .condition (ih first)
  | operand _ ih => exact .operand (ih first)
  | tightest _ ih => exact .tightest (ih first)
  | bare _ ih => exact .bare (ih first)
  | atom _ ih => exact .atom (ih first)
  -- What grows to the right has the object at its left end.
  | choice condition yes otherwise ih =>
      obtain ⟨more, rfl, rfl⟩ := exists_of_opened condition.ne_nil rfl named first
      exact .choice (ih rfl) yes otherwise
  | binary op left right ih =>
      obtain ⟨more, rfl, rfl⟩ := exists_of_opened left.ne_nil rfl named first
      exact .binary op (ih rfl) right
  | member object word ih =>
      obtain ⟨more, rfl, rfl⟩ := exists_of_opened object.ne_nil rfl named first
      exact .member (ih rfl) word
  | call method object word listed each enough ih =>
      obtain ⟨more, rfl, rfl⟩ := exists_of_opened object.ne_nil rfl named first
      exact .call method (ih rfl) word listed each enough
  | index object inside ih =>
      obtain ⟨more, rfl, rfl⟩ := exists_of_opened object.ne_nil rfl named first
      exact .index (ih rfl) inside
  | unary op => cases op <;> cases first
  | keyword | number | string | name | parens | array => cases first
  | @object n inside fields listed keys each =>
      obtain ⟨_, first⟩ := List.cons.inj first
      rcases inside with _ | ⟨first', inside⟩
      · obtain ⟨rfl, _⟩ := List.cons.inj first
        cases named
      obtain ⟨rfl, rfl⟩ := List.cons.inj first
      obtain ⟨f, others, rfl, rfl, listed'⟩ := listed.rekeyed t'
      rw [keys f List.mem_cons_self] at named
      cases named
      simp only [List.forall_mem_cons] at keys each
      exact .object listed' (List.forall_mem_cons.2 ⟨same, keys.2⟩) (List.forall_mem_cons.2 each)

/-- Texts that differ in the notation of the first key of an object are the same
    expressions. -/
theorem parse_rekeyed {source source' : String} {later : Option (List Token)}
    (one : kinds source.toList = later.map (.symbol .openBrace :: t :: ·))
    (other : kinds source'.toList = later.map (.symbol .openBrace :: t' :: ·))
    (named : keyOf t = some key) (same : keyOf t' = some key) (produced : parse source = .ok e) :
    parse source' = .ok e := by
  obtain ⟨used, found, derived⟩ := parse_eq_ok_iff.1 produced
  rw [one] at found
  obtain ⟨all, known, text⟩ := Option.map_eq_some_iff.1 found
  obtain ⟨more, rfl, rfl⟩ := exists_of_opened derived.ne_nil rfl named text.symm
  exact parse_eq_ok_iff.2 ⟨_, by rw [other, known]; rfl, derived.rekeyed rfl named same⟩

end

/-! ## Words -/

/-- A letter, `_` or `$`, and letters, numerals, `_` and `$` after it. -/
def isIdentifier (w : String) : Bool :=
  match w.toList with
  | [] => false
  | c :: cs => startsName c && cs.all continuesName

theorem exists_of_isIdentifier {w : String} (proper : isIdentifier w = true) :
    ∃ c cs, w.toList = c :: cs ∧ startsName c = true ∧ ∀ x ∈ cs, continuesName x = true := by
  unfold isIdentifier at proper
  split at proper
  next => cases proper
  next c cs text =>
    simp only [Bool.and_eq_true, List.all_eq_true] at proper
    exact ⟨c, cs, text, proper⟩

/-- The word that the lexer takes a word for. -/
def readAs (w : String) : String :=
  if w = "undefined" then "null" else w

theorem wordOf_wordToken (w : String) : wordOf (wordToken w) = some (readAs w) := by
  unfold wordToken readAs
  split_ifs <;> simp_all [wordOf, Keyword.text]

theorem keyOf_wordToken (w : String) : keyOf (wordToken w) = some (readAs w) := by
  rw [← wordOf_wordToken w]
  rcases wordToken_cases w with free | ⟨k, taken⟩
  · rw [free]
    rfl
  · rw [taken]
    rfl

theorem wordToken_of_not_mem {x : String} (free : x ∉ ["null", "undefined", "true", "false"]) :
    wordToken x = .name x := by
  simp_all [wordToken]

theorem continuesName_of_startsName {c : Char} (starts : startsName c = true) :
    continuesName c = true := by
  simp only [startsName, continuesName, Text.isLetterOrNumeral, Bool.or_eq_true] at starts ⊢
  tauto

theorem plain_of_continuesName {c : Char} (continues : continuesName c = true) :
    c ≠ '\\' ∧ c ≠ '"' := by
  constructor <;> rintro rfl <;> exact absurd continues (by decide +kernel)

theorem quotes_of_plain {quote : Char} {cs : List Char} (plain : ∀ c ∈ cs, c ≠ '\\' ∧ c ≠ quote) :
    Quotes quote (cs ++ [quote]) cs := by
  induction cs with
  | nil => exact .close
  | cons c rest ih =>
      obtain ⟨⟨unescaped, inner⟩, others⟩ := List.forall_mem_cons.1 plain
      exact .plain unescaped inner (ih others)

section

variable {w : String} {rest : List Char}

theorem kinds_word (proper : isIdentifier w = true)
    (stops : ∀ c ∈ rest.head?, continuesName c = false) :
    kinds (w.toList ++ rest) = (kinds rest).map (wordToken w :: ·) := by
  obtain ⟨c, cs, text, starts, continues⟩ := exists_of_isIdentifier proper
  have ended : rest.takeWhile continuesName = [] ∧ rest.dropWhile continuesName = rest := by
    cases rest with
    | nil => simp
    | cons d more => simp [stops d rfl]
  have found : lexeme c (cs ++ rest) = _ := lexeme_word starts
  rw [List.takeWhile_append_of_pos continues, List.dropWhile_append_of_pos continues, ended.1,
    ended.2, List.append_nil, ← text, String.ofList_toList] at found
  rw [text, List.cons_append, kinds_of_lexeme found]

theorem kinds_text (proper : isIdentifier w = true) :
    kinds ('"' :: (w.toList ++ '"' :: rest)) = (kinds rest).map (.string w :: ·) := by
  obtain ⟨c, cs, text, starts, continues⟩ := exists_of_isIdentifier proper
  have plain : ∀ d ∈ w.toList, d ≠ '\\' ∧ d ≠ '"' := by
    rw [text]
    exact List.forall_mem_cons.2 ⟨plain_of_continuesName (continuesName_of_startsName starts),
      fun d member => plain_of_continuesName (continues d member)⟩
  have found : lexeme '"' ((w.toList ++ ['"']) ++ rest) = _ :=
    lexeme_string (.inl rfl) (quotes_of_plain plain)
  rw [List.append_assoc, String.ofList_toList] at found
  exact kinds_of_lexeme found

end

/-! ## Texts -/

/-- Both texts evaluate to the same value, or both fail. -/
def Agree (context : Context) (source source' : String) : Prop :=
  (evaluate context source).toOption = (evaluate context source').toOption

section

variable {context : Context} {x w v : String}

theorem evaluate_toOption (context : Context) (source : String) :
    (evaluate context source).toOption =
      (parse source).toOption.bind fun e => (e.eval context).toOption := by
  unfold evaluate
  cases parse source with
  | error _ => rfl
  | ok e => cases value : e.eval context <;> simp [Except.toOption, bind, Except.bind, value]

theorem agree_of_parse {source source' : String}
    (same : ∀ e, parse source = .ok e ↔ parse source' = .ok e) : Agree context source source' := by
  have parsed : (parse source).toOption = (parse source').toOption := by
    cases one : parse source with
    | ok e => simp [(same e).1 one, Except.toOption]
    | error _ =>
        cases other : parse source' with
        | ok e => simp [(same e).2 other] at one
        | error _ => rfl
  rw [Agree, evaluate_toOption, evaluate_toOption, parsed]

theorem parse_member (named : isIdentifier x = true) (free : wordToken x = .name x)
    (word : isIdentifier w = true) :
    parse (x ++ "." ++ w) = .ok (.member (.name x) (readAs w)) := by
  have text : (x ++ "." ++ w).toList = x.toList ++ '.' :: (w.toList ++ []) := by simp
  have stops : continuesName '.' = false := by decide +kernel
  have found : kinds (x ++ "." ++ w).toList =
      some ([.name x, .symbol .dot, wordToken w] ++ [.finish]) := by
    rw [text, kinds_word named (by simpa using stops), kinds_symbol rfl,
      kinds_word word (by simp), kinds_nil, free]
    rfl
  have object : Derives .postfixed maxDepth [.name x] (.name x) := .atom (.name x)
  have derived := Derives.member object (wordOf_wordToken w)
  exact parse_eq_ok_iff.2 ⟨_, found, derived.choice_of_postfixed⟩

theorem parse_index (named : isIdentifier x = true) (free : wordToken x = .name x)
    (key : isIdentifier v = true) :
    parse (x ++ "[\"" ++ v ++ "\"]") = .ok (.index (.name x) (.literal (.string v))) := by
  have text : (x ++ "[\"" ++ v ++ "\"]").toList =
      x.toList ++ '[' :: '"' :: (v.toList ++ '"' :: ']' :: []) := by simp
  have stops : continuesName '[' = false := by decide +kernel
  have found : kinds (x ++ "[\"" ++ v ++ "\"]").toList =
      some ([.name x, .symbol .openBracket, .string v, .symbol .closeBracket] ++ [.finish]) := by
    rw [text, kinds_word named (by simpa using stops), kinds_symbol rfl, kinds_text key,
      kinds_symbol rfl, kinds_nil, free]
    rfl
  have object : Derives .postfixed maxDepth [.name x] (.name x) := .atom (.name x)
  have inside : Derives .nested maxDepth [.string v] (.literal (.string v)) :=
    .nested (Derives.string v).choice_of_primary
  have derived := Derives.index object inside
  exact parse_eq_ok_iff.2 ⟨_, found, derived.choice_of_postfixed⟩

theorem property_eq (object : Value) (name : String) :
    (property object name).toOption = (atIndex object (.string name)).toOption := by
  cases object <;> rfl

/-- The text of an object with one field, under a key in whichever notation. -/
def keyed (key e : String) : String :=
  "\x7b" ++ key ++ ": " ++ e ++ "\x7d"

theorem kinds_keyed_name (word : isIdentifier w = true) (e : String) :
    kinds (keyed w e).toList = (kinds (':' :: ' ' :: (e.toList ++ ['\x7d']))).map
      (.symbol .openBrace :: wordToken w :: ·) := by
  have text : (keyed w e).toList =
      '\x7b' :: (w.toList ++ ':' :: ' ' :: (e.toList ++ ['\x7d'])) := by simp [keyed]
  have stops : continuesName ':' = false := by decide +kernel
  rw [text, kinds_symbol rfl, kinds_word word (by simpa using stops), Option.map_map]
  rfl

theorem kinds_keyed_text (key : isIdentifier v = true) (e : String) :
    kinds (keyed ("\"" ++ v ++ "\"") e).toList =
      (kinds (':' :: ' ' :: (e.toList ++ ['\x7d']))).map
        (.symbol .openBrace :: .string v :: ·) := by
  have text : (keyed ("\"" ++ v ++ "\"") e).toList =
      '\x7b' :: '"' :: (v.toList ++ '"' :: ':' :: ' ' :: (e.toList ++ ['\x7d'])) := by simp [keyed]
  rw [text, kinds_symbol rfl, kinds_text key, Option.map_map]
  rfl

/-- One field that is true. -/
theorem parse_flag {source key : String} {t : Token}
    (found : kinds source.toList = (kinds ": true\x7d".toList).map (.symbol .openBrace :: t :: ·))
    (named : keyOf t = some key) :
    parse source = .ok (.object [(key, .literal (.bool true))]) := by
  have last : kinds ": true\x7d".toList =
      some [.symbol .colon, .keyword .yes, .symbol .closeBrace, .finish] := by decide +kernel
  let field : Entry := ⟨t, key, [.keyword .yes], .literal (.bool true)⟩
  have listed : Commas field.phrase ([field].map Entry.phrase) := .last _
  have derived : Derives .primary maxDepth _ _ :=
    .object listed (by simpa [field] using named) (by
      simpa [field] using .nested (Derives.keyword .yes (n := 63)).choice_of_primary)
  refine parse_eq_ok_iff.2 ⟨_, ?_, derived.choice_of_primary⟩
  rw [found, last]
  rfl

end

/-- Property access and object keys agree in both of their notations if and only if the
    text is what the name is taken for: the name itself, but for `undefined`, which is
    taken for `null`. -/
theorem notations_agree_iff {x w v : String} (named : isIdentifier x = true)
    (free : x ∉ ["null", "undefined", "true", "false"]) (word : isIdentifier w = true)
    (key : isIdentifier v = true) :
    ((∀ context, Agree context (x ++ "." ++ w) (x ++ "[\"" ++ v ++ "\"]")) ↔ v = readAs w) ∧
    ((∀ context e, Agree context (keyed w e) (keyed ("\"" ++ v ++ "\"") e)) ↔ v = readAs w) := by
  have dotted := parse_member named (wordToken_of_not_mem free) word
  have indexed := parse_index named (wordToken_of_not_mem free) key
  refine ⟨⟨fun agree => ?_, ?_⟩, ⟨fun agree => ?_, ?_⟩⟩
  · have same := agree (KeyMap.empty.insert x (.object [(readAs w, .bool true)]))
    rw [Agree, evaluate_toOption, evaluate_toOption, dotted, indexed] at same
    by_contra other
    have differ : (v == readAs w) = false := by simpa using other
    simp [Expr.eval, property, atIndex, List.lookup_cons, differ, Except.toOption, bind,
      Except.bind] at same
  · rintro rfl context
    rw [Agree, evaluate_toOption, evaluate_toOption, dotted, indexed]
    cases found : context.get? x with
    | none => simp [Expr.eval, found, Except.toOption, bind, Except.bind]
    | some object =>
        simpa [Expr.eval, found, Except.toOption, bind, Except.bind] using
          property_eq object (readAs w)
  · have same := agree .empty "true"
    have one := parse_flag (kinds_keyed_name word "true") (keyOf_wordToken w)
    have other := parse_flag (kinds_keyed_text key "true") rfl
    rw [Agree, evaluate_toOption, evaluate_toOption, one, other] at same
    simp [Expr.eval, evalFields, Except.toOption, bind, Except.bind, Value.ofMap, KeyMap.ofList,
      KeyMap.insertAll, KeyMap.insert, KeyMap.empty, KeyMap.place] at same
    exact same.symm
  · rintro rfl context e
    have one := kinds_keyed_name word e
    have other := kinds_keyed_text key e
    exact agree_of_parse fun _ =>
      ⟨parse_rekeyed one other (keyOf_wordToken w) rfl,
        parse_rekeyed other one rfl (keyOf_wordToken w)⟩

theorem notations_agree_iff_keyword :
    (∀ context, Agree context ("x" ++ "." ++ "true") ("x" ++ "[\"" ++ "true" ++ "\"]")) ∧
    (∀ context e, Agree context (keyed "undefined" e) (keyed ("\"" ++ "null" ++ "\"") e)) := by
  have named : isIdentifier "x" = true := by decide +kernel
  have yes : isIdentifier "true" = true := by decide +kernel
  have null : isIdentifier "null" = true := by decide +kernel
  have undefined_ : isIdentifier "undefined" = true := by decide +kernel
  have free : "x" ∉ ["null", "undefined", "true", "false"] := by simp
  exact ⟨(notations_agree_iff named free yes yes).1.2 rfl,
    (notations_agree_iff named free undefined_ null).2.2 rfl⟩

/-- A property under the key `undefined` is found by its text but not by its name. -/
theorem undefined_notations_differ :
    let context : Context := KeyMap.empty.insert "x" (.object [("undefined", .ofNat 1)])
    (evaluate context "x.undefined").toOption = some .null ∧
      (evaluate context "x[\"undefined\"]").toOption = some (.ofNat 1) := by
  intro context
  have named : isIdentifier "x" = true := by decide +kernel
  have word : isIdentifier "undefined" = true := by decide +kernel
  have dotted := parse_member named rfl word
  have indexed := parse_index named rfl word
  simp only [String.reduceAppend] at dotted indexed
  rw [evaluate_toOption, evaluate_toOption, dotted, indexed]
  simp [context, Expr.eval, property, atIndex, readAs, List.lookup_cons, Except.toOption, bind,
    Except.bind]

end Superstep.Expression
