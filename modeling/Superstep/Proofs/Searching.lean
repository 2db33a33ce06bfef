import Superstep.Expression.Evaluate

/-! # Searching, indexing and length

Arrays are searched with the equality of `===` over the items that their indices reach, and
texts are searched for what `+` would put into them. Lengths, indices and searches all count
in characters: a text is its characters at all indices below its length, put together.
-/

namespace Superstep.Expression

open Json (Value)

/-- The expression has a boolean as its value, and it is true just in case of a fact. -/
def Expr.Tells (context : Context) (e : Expr) (fact : Prop) : Prop :=
  ∃ b, e.eval context = .ok (.bool b) ∧ (b = true ↔ fact)

/-- What stands at an index. -/
def Expr.nth (e : Expr) (i : Nat) : Expr :=
  .index e (.literal (.ofNat i))

/-- What stands at so many indices, put together from the first on. -/
def Expr.joined (e : Expr) : Nat → Expr
  | 0 => .literal (.string "")
  | n + 1 => .binary .add (e.joined n) (e.nth n)

section

variable {context : Context} {e x : Expr} {v : Value} {items : List Value} {s : String}

theorem index?_ofNat (i : Nat) : (Json.Number.integer i).index? = some i := by
  simp [Json.Number.index?]

/-! ## Arrays -/

section

variable (array : e.eval context = .ok (.array items))

include array

theorem eval_length_array : (Expr.member e "length").eval context = .ok (.ofNat items.length) := by
  simp only [Expr.eval, array]
  rfl

theorem eval_nth_array (i : Nat) : (e.nth i).eval context = .ok (items[i]?.getD .null) := by
  simp only [Expr.nth, Expr.eval, array]
  show Except.ok (((Json.Number.integer i).index?.bind (items[·]?)).getD .null) = _
  rw [index?_ofNat]
  rfl

theorem eval_nth_equal (value : x.eval context = .ok v) (i : Nat) :
    (Expr.binary .strictEqual (e.nth i) x).eval context =
      .ok (.bool (equal (items[i]?.getD .null) v)) := by
  simp only [Expr.eval, eval_nth_array array, value]
  rfl

/-- What is included in an array equals what stands at an index below the length. -/
theorem includes_tells_item (value : x.eval context = .ok v) :
    (Expr.call .includes e [x]).Tells context (∃ i < items.length,
      (Expr.binary .strictEqual (e.nth i) x).eval context = .ok (.bool true)) := by
  refine ⟨items.any (equal · v), ?_, ?_⟩
  · simp only [Expr.eval, evalAll, array, value]
    rfl
  · simp only [eval_nth_equal array value, List.any_eq_true, List.mem_iff_getElem]
    constructor
    · rintro ⟨_, ⟨i, low, rfl⟩, same⟩
      exact ⟨i, low, by simp [low, same]⟩
    · rintro ⟨i, low, same⟩
      exact ⟨_, ⟨i, low, rfl⟩, by simpa [low] using same⟩

end

/-! ## Texts -/

theorem isPrefixOf_toList_iff {s t : String} :
    t.toList.isPrefixOf s.toList = true ↔ ∃ after, s = t ++ after := by
  rw [List.isPrefixOf_iff_prefix]
  constructor
  · rintro ⟨after, whole⟩
    exact ⟨.ofList after, String.toList_inj.1 (by simp [← whole])⟩
  · rintro ⟨after, rfl⟩
    exact ⟨after.toList, by simp⟩

theorem isSuffixOf_toList_iff {s t : String} :
    t.toList.isSuffixOf s.toList = true ↔ ∃ before, s = before ++ t := by
  rw [List.isSuffixOf_iff_suffix]
  constructor
  · rintro ⟨before, whole⟩
    exact ⟨.ofList before, String.toList_inj.1 (by simp [← whole])⟩
  · rintro ⟨before, rfl⟩
    exact ⟨before.toList, by simp⟩

section

variable (string : e.eval context = .ok (.string s))

include string

theorem includes_tells_infix (value : x.eval context = .ok v) :
    (Expr.call .includes e [x]).Tells context (∃ p q, s = p ++ textOf v ++ q) := by
  refine ⟨Text.occurs (textOf v) s, ?_, Text.occurs_iff⟩
  simp only [Expr.eval, evalAll, string, value]
  rfl

theorem startsWith_tells_prefix (value : x.eval context = .ok v) :
    (Expr.call .startsWith e [x]).Tells context (∃ q, s = textOf v ++ q) := by
  refine ⟨(textOf v).toList.isPrefixOf s.toList, ?_, isPrefixOf_toList_iff⟩
  simp only [Expr.eval, evalAll, string, value]
  rfl

theorem endsWith_tells_suffix (value : x.eval context = .ok v) :
    (Expr.call .endsWith e [x]).Tells context (∃ p, s = p ++ textOf v) := by
  refine ⟨(textOf v).toList.isSuffixOf s.toList, ?_, isSuffixOf_toList_iff⟩
  simp only [Expr.eval, evalAll, string, value]
  rfl

theorem eval_length_string : (Expr.member e "length").eval context = .ok (.ofNat s.length) := by
  simp only [Expr.eval, string]
  rfl

theorem eval_nth_string (i : Nat) : (e.nth i).eval context = .ok (charAt s i) := by
  simp only [Expr.nth, Expr.eval, string]
  show Except.ok (((Json.Number.integer i).index?.map (charAt s)).getD .null) = _
  rw [index?_ofNat]
  rfl

theorem exists_eval_nth_of_lt {i : Nat} (low : i < s.length) :
    ∃ c, s.toList[i]? = some c ∧ (e.nth i).eval context = .ok (.string c.toString) := by
  have found := List.getElem?_eq_getElem (String.length_toList ▸ low)
  exact ⟨_, found, by rw [eval_nth_string string, charAt, found]⟩

theorem eval_nth_of_le {i : Nat} (high : s.length ≤ i) : (e.nth i).eval context = .ok .null := by
  rw [eval_nth_string string, charAt, List.getElem?_eq_none (String.length_toList ▸ high)]

/-- The characters at the first indices, put together, are those that the text begins with. -/
theorem eval_joined {n : Nat} (low : n ≤ s.length) :
    (e.joined n).eval context = .ok (.string (.ofList (s.toList.take n))) := by
  induction n with
  | zero => rfl
  | succ n ih =>
      obtain ⟨c, found, next⟩ := exists_eval_nth_of_lt string low
      have longer : String.ofList (s.toList.take (n + 1)) =
          String.ofList (s.toList.take n) ++ c.toString := by
        rw [List.take_add_one, found]
        exact String.toList_inj.1 (by simp)
      simp only [Expr.joined, Expr.eval, ih (Nat.le_of_succ_le low), next, longer]
      rfl

end

end

/-- Methods that search, indices and lengths agree: what an array includes equals an item
    below its length, what is found in a text makes it up with what is around it, and a text
    has a character at each index below its length, none from there on, and is its
    characters. -/
theorem search_agrees_with_index {context : Context} {a e x : Expr} {items : List Value}
    {s : String} {v : Value} (array : a.eval context = .ok (.array items))
    (string : e.eval context = .ok (.string s)) (value : x.eval context = .ok v) :
    (∃ n, (Expr.member a "length").eval context = .ok (.ofNat n) ∧
      (Expr.call .includes a [x]).Tells context (∃ i < n,
        (Expr.binary .strictEqual (a.nth i) x).eval context = .ok (.bool true))) ∧
    (Expr.call .includes e [x]).Tells context (∃ p q, s = p ++ textOf v ++ q) ∧
    (Expr.call .startsWith e [x]).Tells context (∃ q, s = textOf v ++ q) ∧
    (Expr.call .endsWith e [x]).Tells context (∃ p, s = p ++ textOf v) ∧
    ∃ n, (Expr.member e "length").eval context = .ok (.ofNat n) ∧
      (∀ i < n, ∃ c : Char, (e.nth i).eval context = .ok (.string c.toString)) ∧
      (∀ i, n ≤ i → (e.nth i).eval context = .ok .null) ∧
      (e.joined n).eval context = .ok (.string s) := by
  have whole : (e.joined s.length).eval context = .ok (.string s) := by
    have all : s.toList.take s.length = s.toList := String.length_toList ▸ List.take_length
    rw [eval_joined string s.length.le_refl, all, String.ofList_toList]
  refine ⟨⟨_, eval_length_array array, includes_tells_item array value⟩,
    includes_tells_infix string value, startsWith_tells_prefix string value,
    endsWith_tells_suffix string value, _, eval_length_string string, fun i low => ?_,
    fun i => eval_nth_of_le string, whole⟩
  obtain ⟨c, _, found⟩ := exists_eval_nth_of_lt string low
  exact ⟨c, found⟩

theorem search_agrees_with_index_null :
    let items := Expr.literal (.array [.ofNat 1, .null])
    let text := Expr.literal (.string "ñ: null")
    let null := Expr.literal .null
    (∃ n, (Expr.member items "length").eval .empty = .ok (.ofNat n) ∧
      (Expr.call .includes items [null]).Tells .empty (∃ i < n,
        (Expr.binary .strictEqual (items.nth i) null).eval .empty = .ok (.bool true))) ∧
    (Expr.call .includes text [null]).Tells .empty (∃ p q, "ñ: null" = p ++ "null" ++ q) ∧
    (Expr.call .startsWith text [null]).Tells .empty (∃ q, "ñ: null" = "null" ++ q) ∧
    (Expr.call .endsWith text [null]).Tells .empty (∃ p, "ñ: null" = p ++ "null") ∧
    ∃ n, (Expr.member text "length").eval .empty = .ok (.ofNat n) ∧
      (∀ i < n, ∃ c : Char, (text.nth i).eval .empty = .ok (.string c.toString)) ∧
      (∀ i, n ≤ i → (text.nth i).eval .empty = .ok .null) ∧
      (text.joined n).eval .empty = .ok (.string "ñ: null") := by
  intro items text null
  have array : items.eval .empty = .ok (.array [.ofNat 1, .null]) := rfl
  have string : text.eval .empty = .ok (.string "ñ: null") := rfl
  have value : null.eval .empty = .ok .null := rfl
  have spelled : textOf .null = "null" := by decide
  have agree := search_agrees_with_index array string value
  rwa [spelled] at agree

end Superstep.Expression
