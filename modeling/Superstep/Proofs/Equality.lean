import Superstep.Expression.Evaluate
import Superstep.Proofs.Values

/-! # Equality of values

Two numbers are equal if they have the same value, be it as an integer or as a float.
Arrays and objects are equal if their parts are, but there numbers must also have the
same form. So values that are equal by value at every depth are equal if numbers at the
same place within them have the same form, and only then.
-/

namespace Superstep

namespace Json

namespace Number

variable {m n : Number}

/-- Both are floats, or both are the same integer. Large integers may have the same value
    as binary64 numbers and still differ. -/
def SameForm : Number → Number → Prop
  | .integer i, .integer j => i = j
  | .float _, .float _ => True
  | _, _ => False

theorem sameValue_self (m : Number) : m.sameValue m = true := by
  simp [sameValue, Binary64.sameValue, Binary64.order]

theorem same_iff : m.same n = true ↔ m.sameValue n = true ∧ m.SameForm n := by
  cases m <;> cases n <;> simp [same, SameForm]
  · rintro rfl
    exact sameValue_self _
  · rfl

end Number

namespace Value

/-- The values have the same structure, and numbers at the same place are related. -/
inductive Matches (related : Number → Number → Prop) : Value → Value → Prop where
  | null : Matches related .null .null
  | bool (b : Bool) : Matches related (.bool b) (.bool b)
  | number {m n : Number} (same : related m n) : Matches related (.number m) (.number n)
  | string (s : String) : Matches related (.string s) (.string s)
  | array {xs ys : List Value} (long : xs.length = ys.length)
      (each : ∀ (i : Nat) x y, xs[i]? = some x → ys[i]? = some y → Matches related x y) :
      Matches related (.array xs) (.array ys)
  | object {fs gs : List (String × Value)} (keys : fs.map Prod.fst = gs.map Prod.fst)
      (each : ∀ key x y, fs.lookup key = some x → gs.lookup key = some y → Matches related x y) :
      Matches related (.object fs) (.object gs)

section

variable {v w : Value} {R S : Number → Number → Prop}

theorem matches_and : Matches (fun m n => R m n ∧ S m n) v w ↔ Matches R v w ∧ Matches S v w := by
  constructor
  · intro both
    induction both with
    | null => exact ⟨.null, .null⟩
    | bool b => exact ⟨.bool b, .bool b⟩
    | number same => exact ⟨.number same.1, .number same.2⟩
    | string s => exact ⟨.string s, .string s⟩
    | array long _ ih =>
        exact ⟨.array long fun i x y one other => (ih i x y one other).1,
          .array long fun i x y one other => (ih i x y one other).2⟩
    | object keys _ ih =>
        exact ⟨.object keys fun key x y one other => (ih key x y one other).1,
          .object keys fun key x y one other => (ih key x y one other).2⟩
  · rintro ⟨first, second⟩
    induction first with
    | null => exact .null
    | bool b => exact .bool b
    | number same =>
        cases second with
        | number other => exact .number ⟨same, other⟩
    | string s => exact .string s
    | array long _ ih =>
        cases second with
        | array _ each =>
            exact .array long fun i x y one other => ih i x y one other (each i x y one other)
    | object keys _ ih =>
        cases second with
        | object _ each =>
            exact .object keys fun key x y one other =>
              ih key x y one other (each key x y one other)

end

theorem sameItems_iff {xs ys : List Value} : sameItems xs ys = true ↔
    xs.length = ys.length ∧
      ∀ (i : Nat) x y, xs[i]? = some x → ys[i]? = some y → x.same y = true := by
  induction xs generalizing ys with
  | nil => cases ys <;> simp [sameItems]
  | cons x xs ih =>
      cases ys with
      | nil => simp [sameItems]
      | cons y ys =>
          simp only [sameItems, Bool.and_eq_true, ih, List.length_cons, Nat.add_right_cancel_iff]
          constructor
          · rintro ⟨first, long, each⟩
            refine ⟨long, fun i a b one other => ?_⟩
            cases i with
            | zero =>
                cases one
                cases other
                exact first
            | succ i => exact each i a b one other
          · rintro ⟨long, each⟩
            exact ⟨each 0 x y rfl rfl, long, fun i => each (i + 1)⟩

theorem sameFields_iff {fs gs : List (String × Value)} (distinct : (fs.map Prod.fst).Nodup) :
    sameFields fs gs = true ↔ fs.map Prod.fst = gs.map Prod.fst ∧
      ∀ key x y, fs.lookup key = some x → gs.lookup key = some y → x.same y = true := by
  induction fs generalizing gs with
  | nil => cases gs <;> simp [sameFields]
  | cons f fs ih =>
      cases gs with
      | nil => simp [sameFields]
      | cons g gs =>
          obtain ⟨k, x⟩ := f
          obtain ⟨l, y⟩ := g
          rw [List.map_cons, List.nodup_cons] at distinct
          simp only [sameFields, Bool.and_eq_true, beq_iff_eq, ih distinct.2, List.map_cons,
            List.cons.injEq]
          constructor
          · rintro ⟨⟨rfl, first⟩, keys, each⟩
            refine ⟨⟨rfl, keys⟩, fun key a b one other => ?_⟩
            by_cases here : key = k
            · simp_all
            · have differ : (key == k) = false := by simpa using here
              rw [List.lookup_cons, differ] at one other
              exact each key a b one other
          · rintro ⟨⟨rfl, keys⟩, each⟩
            refine ⟨⟨rfl, each k x y (by simp) (by simp)⟩, keys, fun key a b one other => ?_⟩
            have differ : (key == k) = false := by
              have later := (KeyMap.lookup_eq_some_iff_mem distinct.2).1 one
              have apart : key ≠ k := fun same =>
                distinct.1 (List.mem_map.2 ⟨(key, a), later, same⟩)
              simpa using apart
            exact each key a b (by rw [List.lookup_cons, differ, one])
              (by rw [List.lookup_cons, differ, other])

/-! ## Values in key order -/

theorem ordered_item {xs : List Value} (inOrder : (array xs).ordered = array xs) :
    ∀ x ∈ xs, x.ordered = x := by
  rw [ordered, orderedItems_eq_map] at inOrder
  have same : xs.map ordered = xs.map id := by simpa using array.inj inOrder
  exact fun x member => List.map_inj_left.1 same x member

theorem distinct_of_ordered {fs : List (String × Value)}
    (inOrder : (object fs).ordered = object fs) : (fs.map Prod.fst).Nodup := by
  have entries := object.inj inOrder
  rw [← entries]
  exact KeyMap.keys_nodup _

theorem ordered_field {fs : List (String × Value)} (inOrder : (object fs).ordered = object fs)
    {key : String} {x : Value} (found : fs.lookup key = some x) : x.ordered = x := by
  have distinct := distinct_of_ordered inOrder
  have entries := object.inj inOrder
  rw [orderedFields_eq_map] at entries
  have distinct' : ((fs.map fun e => (e.1, e.2.ordered)).map Prod.fst).Nodup := by
    rw [List.map_map]
    exact distinct
  have same : fs.lookup key = (fs.lookup key).map ordered := by
    rw [← KeyMap.lookup_map_snd, ← KeyMap.get?_ofList distinct', KeyMap.get?, entries]
  rw [found] at same
  exact (Option.some.inj same).symm

/-- Sameness is structural, and of numbers it is what it is for numbers alone. -/
theorem same_iff_matches {v w : Value} (inOrder : v.ordered = v) :
    v.same w = true ↔ Matches (fun m n => m.same n = true) v w := by
  induction size : sizeOf v using Nat.strongRecOn generalizing v w with
  | ind n ih =>
      have item {xs : List Value} (whole : v = .array xs) {i : Nat} {x : Value}
          (found : xs[i]? = some x) (y : Value) :
          x.same y = true ↔ Matches (fun m n => m.same n = true) x y := by
        subst whole
        have member := List.mem_of_getElem? found
        have smaller := List.sizeOf_lt_of_mem member
        exact ih _ (by simp at size; omega) (ordered_item inOrder x member) rfl
      have field {fs : List (String × Value)} (whole : v = .object fs) {key : String} {x : Value}
          (found : fs.lookup key = some x) (y : Value) :
          x.same y = true ↔ Matches (fun m n => m.same n = true) x y := by
        subst whole
        have member :=
          (KeyMap.lookup_eq_some_iff_mem (distinct_of_ordered inOrder)).1 found
        have smaller := List.sizeOf_lt_of_mem member
        exact ih _ (by simp at size smaller; omega) (ordered_field inOrder found) rfl
      constructor
      · intro found
        cases v <;> cases w <;> simp only [same, Bool.false_eq_true, beq_iff_eq] at found
        case null => exact .null
        case bool => exact found ▸ .bool _
        case number => exact .number found
        case string => exact found ▸ .string _
        case array xs ys =>
          obtain ⟨long, each⟩ := sameItems_iff.1 found
          exact .array long fun i x y one other => (item rfl one y).1 (each i x y one other)
        case object fs gs =>
          obtain ⟨keys, each⟩ := (sameFields_iff (distinct_of_ordered inOrder)).1 found
          exact .object keys fun key x y one other => (field rfl one y).1 (each key x y one other)
      · intro matched
        cases matched with
        | null => rfl
        | bool | string => simp [same]
        | number found => exact found
        | array long each =>
            rw [same, sameItems_iff]
            exact ⟨long, fun i x y one other => (item rfl one y).2 (each i x y one other)⟩
        | object keys each =>
            rw [same, sameFields_iff (distinct_of_ordered inOrder)]
            exact ⟨keys, fun key x y one other => (field rfl one y).2 (each key x y one other)⟩

end Value

end Json

namespace Expression

open Json (Value Number)

/-- Values that are equal may still be two forms of a number. -/
def FormsAgree (v w : Value) : Prop :=
  ∀ m n, v = .number m → w = .number n → m.SameForm n

theorem same_iff_equal {v w : Value} : v.same w = true ↔ equal v w = true ∧ FormsAgree v w := by
  by_cases numbers : ∃ m n, v = .number m ∧ w = .number n
  · obtain ⟨m, n, rfl, rfl⟩ := numbers
    simp [Value.same, equal, FormsAgree, Number.same_iff]
  · have agree : FormsAgree v w := fun m n one other => absurd ⟨m, n, one, other⟩ numbers
    have same : equal v w = v.same w := by
      cases v <;> cases w <;> first | rfl | simp at numbers
    simp [same, agree]

/-- Equality by value at every depth, and of anything but two numbers also in form. -/
theorem equal_iff_matches {v w : Value} (inOrder : v.ordered = v) : equal v w = true ↔
    Value.Matches (fun m n => m.sameValue n = true) v w ∧
      ((∃ m, v = .number m) ∨ Value.Matches Number.SameForm v w) := by
  by_cases alone : ∃ m, v = .number m
  · obtain ⟨m, rfl⟩ := alone
    simp only [Value.number.injEq, exists_eq', true_or, and_true]
    constructor
    · intro found
      cases w <;> simp only [equal, Value.same, Bool.false_eq_true] at found
      exact .number found
    · intro matched
      cases matched with
      | number found => exact found
  · have same : equal v w = v.same w := by
      cases v <;> first | rfl | simp at alone
    simp only [same, Value.same_iff_matches inOrder, alone, false_or, Number.same_iff,
      Value.matches_and]

/-- The operators for equality agree in what is equal, and so does the search in a list.
    Values are equal if they are structurally, with numbers of the same value and, but for
    two numbers alone, of the same form. So arrays are equal if they have the same length,
    objects if they have the same keys, and the items or fields are equal and, where both
    are numbers, of the same form. -/
theorem equality_heeds_forms {v : Value} (inOrder : v.ordered = v) (w : Value) :
    (applyBinary .equal v w = .ok (.bool (equal v w)) ∧
      applyBinary .strictEqual v w = .ok (.bool (equal v w)) ∧
      applyBinary .notEqual v w = .ok (.bool (!equal v w)) ∧
      applyBinary .strictNotEqual v w = .ok (.bool (!equal v w))) ∧
    (∀ items, v = .array items → ∃ found, callMethod .includes v [w] = .ok (.bool found) ∧
      (found = true ↔ ∃ x ∈ items, equal x w = true)) ∧
    (equal v w = true ↔ Value.Matches (fun m n => m.sameValue n = true) v w ∧
      ((∃ m, v = .number m) ∨ Value.Matches Number.SameForm v w)) ∧
    (∀ xs ys, v = .array xs → w = .array ys → (equal v w = true ↔ xs.length = ys.length ∧
      ∀ (i : Nat) x y, xs[i]? = some x → ys[i]? = some y →
        equal x y = true ∧ FormsAgree x y)) ∧
    ∀ fs gs : KeyMap Value, v = .ofMap fs → w = .ofMap gs → (equal v w = true ↔
      fs.keys = gs.keys ∧ ∀ key x y, fs.get? key = some x → gs.get? key = some y →
        equal x y = true ∧ FormsAgree x y) := by
  refine ⟨⟨rfl, rfl, rfl, rfl⟩, ?_, equal_iff_matches inOrder, ?_, ?_⟩
  · rintro items rfl
    exact ⟨_, rfl, by simp⟩
  · rintro xs ys rfl rfl
    simp only [← same_iff_equal]
    exact Value.sameItems_iff
  · rintro fs gs rfl rfl
    simp only [← same_iff_equal]
    exact Value.sameFields_iff fs.keys_nodup

theorem equality_heeds_forms_nested :
    let v : Value := .array [.ofNat 1, .object [("two", .number (.float (.ofInt 2)))]]
    v.ordered = v ∧ equal v v = true ∧ Value.Matches (fun m n => m.sameValue n = true) v v ∧
      Value.Matches Number.SameForm v v := by
  intro v
  have inOrder : v.ordered = v := rfl
  have found : equal v v = true := by decide +kernel
  obtain ⟨_, _, deep, _⟩ := equality_heeds_forms inOrder v
  obtain ⟨values, forms⟩ := deep.1 found
  exact ⟨inOrder, found, values, forms.resolve_left (by simp [v])⟩

/-- An integer and a float of the same value are equal, but not within arrays. -/
theorem forms_differ_in_array :
    let one : Value := .number (.integer 1)
    let float : Value := .number (.float (.ofInt 1))
    applyBinary .strictEqual one float = .ok (.bool true) ∧
      applyBinary .strictEqual (.array [one]) (.array [float]) = .ok (.bool false) ∧
      callMethod .includes (.array [.array [one]]) [.array [float]] = .ok (.bool false) := by
  intro one float
  have alone : equal one float = true := by decide +kernel
  have within : equal (.array [one]) (.array [float]) = false := rfl
  simp [applyBinary, callMethod, alone, within]

end Expression

end Superstep
