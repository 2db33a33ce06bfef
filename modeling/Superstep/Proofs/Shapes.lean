import Superstep.Proofs.Lexing
import Superstep.Proofs.Soundness

/-! # Expressions that texts spell

Not every expression has a text: a literal is a scalar, and a number only has digits if
it is not negative; names are no keywords, and a method has the arguments that it takes.
What a text with tokens spells is of this kind throughout.
-/

namespace Superstep.Expression

/-- The digits of a number, before and after the point. -/
structure Numeral where
  whole : List Char
  places : List Char
  some_ : whole ≠ []
  digits : ∀ x ∈ whole ++ places, Text.isDecimalDigit x = true

/-- The number that is read from digits, unless it is too large. -/
def Numeral.value? (d : Numeral) : Option Json.Number :=
  (numberOf d.whole d.places).map Json.Number.ofBinary64

/-- A name that is no keyword. -/
structure IsName (s : String) : Prop where
  free : wordToken s = .name s
  spelled : Spells (.name s) s.toList

/-- A name as it may follow a point. -/
structure IsWord (s : String) : Prop where
  named : wordOf (wordToken s) = some s
  spelled : Spells (wordToken s) s.toList

/-- The expressions that texts spell. -/
inductive Sayable : Expr → Prop where
  | keyword (k : Keyword) : Sayable (.literal k.value)
  | number {x : Json.Number} (d : Numeral) (value : d.value? = some x) :
      Sayable (.literal (.number x))
  | string (s : String) : Sayable (.literal (.string s))
  | name {s : String} (proper : IsName s) : Sayable (.name s)
  | member {e : Expr} {s : String} (object : Sayable e) (proper : IsWord s) :
      Sayable (.member e s)
  | index {e i : Expr} (object : Sayable e) (inside : Sayable i) : Sayable (.index e i)
  | call {m : Method} {e : Expr} {as : List Expr} (object : Sayable e)
      (each : ∀ a ∈ as, Sayable a) (enough : as.length = m.arity) : Sayable (.call m e as)
  | unary {op : UnaryOp} {e : Expr} (operand : Sayable e) : Sayable (.unary op e)
  | binary {op : BinaryOp} {l r : Expr} (left : Sayable l) (right : Sayable r) :
      Sayable (.binary op l r)
  | choice {c y n : Expr} (condition : Sayable c) (yes : Sayable y) (otherwise : Sayable n) :
      Sayable (.choice c y n)
  | array {items : List Expr} (each : ∀ e ∈ items, Sayable e) : Sayable (.array items)
  | object {fields : List (String × Expr)} (each : ∀ f ∈ fields, Sayable f.2) :
      Sayable (.object fields)

/-! ## Words -/

theorem wordToken_cases (w : String) :
    wordToken w = .name w ∨ ∃ k, wordToken w = .keyword k := by
  unfold wordToken
  repeat' split
  all_goals first | exact .inl rfl | exact .inr ⟨_, rfl⟩

theorem spells_word {c : Char} {cs : List Char} (starts : startsName c = true)
    (continues : cs.all continuesName = true) :
    Spells (wordToken (String.ofList (c :: cs))) (c :: cs) :=
  .word starts (List.all_eq_true.1 continues)

theorem spells_keyword (k : Keyword) : Spells (.keyword k) k.text.toList := by
  cases k with
  | null =>
      have spells : Spells (wordToken "null") ['n', 'u', 'l', 'l'] :=
        spells_word (by decide +kernel) (by decide +kernel)
      exact spells
  | yes =>
      have spells : Spells (wordToken "true") ['t', 'r', 'u', 'e'] :=
        spells_word (by decide +kernel) (by decide +kernel)
      exact spells
  | no =>
      have spells : Spells (wordToken "false") ['f', 'a', 'l', 's', 'e'] :=
        spells_word (by decide +kernel) (by decide +kernel)
      exact spells

theorem isName_of_spells {s : String} {cs : List Char} (spells : Spells (.name s) cs) :
    IsName s := by
  generalize token : Token.name s = t at spells
  cases spells with
  | symbol | number | string => cases token
  | @word c cs starts continues =>
      rcases wordToken_cases (String.ofList (c :: cs)) with free | ⟨k, taken⟩
      · have same := token.trans free
        cases same
        have spelled := Spells.word starts continues
        rw [free] at spelled
        exact ⟨free, by simpa using spelled⟩
      · cases token.trans taken

theorem IsName.isWord {s : String} (proper : IsName s) : IsWord s where
  named := by rw [proper.free]; rfl
  spelled := proper.free ▸ proper.spelled

theorem isWord_keyword (k : Keyword) : IsWord k.text := by
  have taken : wordToken k.text = .keyword k := by cases k <;> decide
  exact ⟨by rw [taken]; rfl, taken ▸ spells_keyword k⟩

theorem isWord_of_wordOf {t : Token} {s : String} {cs : List Char} (spells : Spells t cs)
    (named : wordOf t = some s) : IsWord s := by
  cases t with
  | name w =>
      cases named
      exact (isName_of_spells spells).isWord
  | keyword k =>
      cases named
      exact isWord_keyword k
  | number | string | symbol | finish => cases named

theorem isWord_method (m : Method) : IsWord m.name := by
  have starts : ∃ c cs, m.name.toList = c :: cs ∧ startsName c = true ∧
      cs.all continuesName = true := by
    cases m <;> exact ⟨_, _, rfl, by decide +kernel, by decide +kernel⟩
  have free : wordToken m.name = .name m.name := by cases m <;> decide
  obtain ⟨c, cs, text, starts, continues⟩ := starts
  have spelled := spells_word starts continues
  rw [← text, String.ofList_toList] at spelled
  exact ⟨by rw [free]; rfl, spelled⟩

theorem exists_numeral {x : Option Binary64} {cs : List Char} (spells : Spells (.number x) cs) :
    ∃ d : Numeral, numberOf d.whole d.places = x := by
  generalize token : Token.number x = t at spells
  cases spells with
  | symbol | string => cases token
  | @word c cs =>
      rcases wordToken_cases (String.ofList (c :: cs)) with free | ⟨k, taken⟩
      · cases token.trans free
      · cases token.trans taken
  | number some_ digits =>
      cases token
      exact ⟨⟨_, _, some_, digits⟩, rfl⟩

/-! ## Phrases -/

theorem Commas.mem {ts : List Token} {items : List (List Token)} (listed : Commas ts items)
    {item : List Token} (member : item ∈ items) : ∀ t ∈ item, t ∈ ts := by
  induction listed with
  | none => cases member
  | last only =>
      obtain rfl := List.mem_singleton.1 member
      exact fun _ => id
  | more first rest ih =>
      intro t among
      rcases List.mem_cons.1 member with rfl | later
      · exact List.mem_append_left _ among
      · exact List.mem_append_right _ (List.mem_cons_of_mem _ (ih later t among))

/-- What a text with tokens spells can be said. -/
theorem Derives.sayable {c : Category} {n : Nat} {ts : List Token} {e : Expr}
    (derived : Derives c n ts e) (spelled : ∀ t ∈ ts, ∃ cs, Spells t cs) : Sayable e := by
  induction derived with
  | nested _ ih | condition _ ih | operand _ ih | tightest _ ih | bare _ ih | atom _ ih =>
      exact ih spelled
  | choice _ _ _ condition yes otherwise =>
      simp only [List.forall_mem_append, List.forall_mem_cons] at spelled
      obtain ⟨first, _, second, _, third⟩ := spelled
      exact .choice (condition first) (yes second) (otherwise third)
  | binary op _ _ left right =>
      simp only [List.forall_mem_append, List.forall_mem_cons] at spelled
      exact .binary (left spelled.1) (right spelled.2.2)
  | unary op _ ih => exact .unary (ih (List.forall_mem_cons.1 spelled).2)
  | member _ named ih =>
      simp only [List.forall_mem_append, List.forall_mem_cons] at spelled
      obtain ⟨object, _, ⟨_, word⟩, _⟩ := spelled
      exact .member (ih object) (isWord_of_wordOf word named)
  | call method _ _ listed _ enough object each =>
      simp only [List.forall_mem_append, List.forall_mem_cons] at spelled
      obtain ⟨first, _, _, _, inside, _⟩ := spelled
      refine .call (object first) ?_ (by rw [List.length_map, enough])
      intro a among
      obtain ⟨item, member, rfl⟩ := List.mem_map.1 among
      have part := listed.mem (List.mem_map_of_mem member)
      exact each item member fun t own => inside t (part t own)
  | index _ _ object inside =>
      simp only [List.forall_mem_append, List.forall_mem_cons] at spelled
      exact .index (object spelled.1) (inside spelled.2.2.1)
  | keyword k => exact .keyword k
  | number x =>
      obtain ⟨_, spells⟩ := spelled _ List.mem_cons_self
      obtain ⟨d, same⟩ := exists_numeral spells
      exact .number d (by rw [Numeral.value?, same, Option.map_some])
  | string s => exact .string s
  | name s =>
      obtain ⟨_, spells⟩ := spelled _ List.mem_cons_self
      exact .name (isName_of_spells spells)
  | parens _ inside =>
      simp only [List.forall_mem_append, List.forall_mem_cons] at spelled
      exact inside spelled.2.1
  | array listed _ each =>
      simp only [List.forall_mem_append, List.forall_mem_cons] at spelled
      refine .array fun e among => ?_
      obtain ⟨item, member, rfl⟩ := List.mem_map.1 among
      have part := listed.mem (List.mem_map_of_mem member)
      exact each item member fun t own => spelled.2.1 t (part t own)
  | object listed _ _ each =>
      simp only [List.forall_mem_append, List.forall_mem_cons] at spelled
      refine .object fun f among => ?_
      obtain ⟨entry, member, rfl⟩ := List.mem_map.1 among
      have part := listed.mem (List.mem_map_of_mem member)
      refine each entry member fun t own => spelled.2.1 t (part t ?_)
      exact List.mem_cons_of_mem _ (List.mem_cons_of_mem _ own)

/-- A text that is an expression has tokens, and what they spell can be said. -/
theorem sayable_of_parse {source : String} {e : Expr} (produced : parse source = .ok e) :
    Sayable e := by
  obtain ⟨ts, lexed, parsed⟩ := bind_ok produced
  have tiles := tiles_of_tokenize lexed
  exact (derives_of_parseTokens tiles.closed parsed).sayable tiles.spelled

end Superstep.Expression
