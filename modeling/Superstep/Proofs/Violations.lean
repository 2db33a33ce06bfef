import Mathlib.Data.List.Forall2
import Mathlib.Data.List.TakeWhile
import Superstep.Proofs.Compiled

/-! # All violations, each in its place

Something can be wrong at certain places of a workflow: at a node its id or its
retries, at an edge its source or its target, and the start and the end. At each
place at most one thing is wrong. Validation goes through the places in a fixed
order and lists what is wrong at them.
-/

namespace Superstep

namespace Text

theorem trimChars_eq_nil_iff (cs : List Char) :
    trimChars cs = [] ↔ ∀ c ∈ cs, isBlank c = true := by
  rw [trimChars, List.reverse_eq_nil_iff, List.dropWhile_eq_nil_iff]
  simp only [List.mem_reverse]
  constructor
  · intro blank
    cases rest : cs.dropWhile isBlank with
    | nil => exact List.dropWhile_eq_nil_iff.1 rest
    | cons c more =>
        -- What is left at the front begins with a character that is not blank.
        have inside : c ∈ cs.dropWhile isBlank := rest ▸ List.mem_cons_self
        have front : isBlank ((cs.dropWhile isBlank).head (List.ne_nil_of_mem inside)) = false :=
          List.head_dropWhile_not isBlank _
        simp only [rest, List.head_cons] at front
        rw [blank c inside] at front
        cases front
  · intro blank c member
    exact blank c ((List.dropWhile_sublist isBlank).subset member)

/-- A text is blank if nothing is left when its ends are trimmed. -/
theorem isAllBlank_iff (s : String) : isAllBlank s = true ↔ trim s = "" := by
  rw [isAllBlank, List.all_eq_true, ← trimChars_eq_nil_iff, trim, String.ofList_eq_empty_iff]

end Text

/-- A place of a workflow at which something can be wrong. Nodes and edges are
    counted from zero. -/
inductive Place where
  | nodeId (index : Nat)
  | nodeRetries (index : Nat)
  | edgeSource (index : Nat)
  | edgeTarget (index : Nat)
  | startNode
  | endNode
  deriving DecidableEq

namespace Place

/-- The part of the workflow to which a place belongs, and its position there. -/
def rank : Place → Nat × Nat
  | .nodeId i => (0, 2 * i)
  | .nodeRetries i => (0, 2 * i + 1)
  | .edgeSource i => (1, 2 * i)
  | .edgeTarget i => (1, 2 * i + 1)
  | .startNode => (2, 0)
  | .endNode => (3, 0)

/-- Nodes come before edges, and those before the start and the end. -/
def Before (p q : Place) : Prop :=
  p.rank.1 < q.rank.1 ∨ p.rank.1 = q.rank.1 ∧ p.rank.2 < q.rank.2

/-- Places of one part of the workflow, from a position on. -/
def From (part position : Nat) (p : Place) : Prop :=
  p.rank.1 = part ∧ position ≤ p.rank.2

theorem eq_of_rank {p q : Place} (same : p.rank = q.rank) : p = q := by
  cases p <;> cases q <;> simp_all [rank] <;> omega

theorem from_iff (p q : Place) :
    From p.rank.1 p.rank.2 q ↔ q = p ∨ From p.rank.1 (p.rank.2 + 1) q := by
  constructor
  · rintro ⟨part, position⟩
    rcases Nat.eq_or_lt_of_le position with here | later
    · exact .inl (eq_of_rank (Prod.ext part here.symm))
    · exact .inr ⟨part, later⟩
  · rintro (rfl | ⟨part, position⟩)
    · exact ⟨rfl, Nat.le_refl _⟩
    · exact ⟨part, Nat.le_of_succ_le position⟩

end Place

/-- An item occurs once in a list if there is exactly one position for it. -/
theorem count_eq_one_iff {items : List String} {a : String} :
    items.count a = 1 ↔ ∃! i : Nat, items[i]? = some a := by
  induction items with
  | nil => simp [ExistsUnique]
  | cons b rest ih =>
      by_cases same : b = a
      · subst same
        rw [List.count_cons_self, Nat.add_eq_right, List.count_eq_zero]
        constructor
        · intro absent
          refine ⟨0, rfl, fun i found => ?_⟩
          cases i with
          | zero => rfl
          | succ i =>
              have behind : rest[i]? = some b := found
              exact absurd (List.mem_of_getElem? behind) absent
        · rintro ⟨first, _, only⟩ member
          obtain ⟨i, found⟩ := List.mem_iff_getElem?.1 member
          have atZero : 0 = first := only 0 rfl
          have later : i + 1 = first := only (i + 1) found
          omega
      · rw [List.count_cons_of_ne same, ih]
        constructor
        · rintro ⟨i, found, only⟩
          refine ⟨i + 1, found, fun j other => ?_⟩
          cases j with
          | zero => exact absurd (Option.some.inj other) same
          | succ j => exact congrArg (· + 1) (only j other)
        · rintro ⟨i, found, only⟩
          cases i with
          | zero => exact absurd (Option.some.inj found) same
          | succ i =>
              exact ⟨i, found, fun j other => Nat.succ.inj (only (j + 1) other)⟩

namespace Workflow

/-- Exactly one of the nodes before this one has its id. -/
def SecondAt (w : Workflow) (i : Nat) (id : String) : Prop :=
  w.ids[i]? = some id ∧ ∃! j, j < i ∧ w.ids[j]? = some id

/-- What is wrong at a place. -/
inductive Wrong (w : Workflow) : Place → Violation → Prop where
  | duplicate {i : Nat} {id : String} (second : w.SecondAt i id) :
      Wrong w (.nodeId i) (.duplicateId id)
  | negative {i : Nat} {n : Node} (found : w.nodes[i]? = some n) (below : n.maxRetries < 0) :
      Wrong w (.nodeRetries i) (.negativeRetries n.id n.maxRetries)
  | source {i : Nat} {e : Edge} (found : w.edges[i]? = some e) (unknown : e.source ∉ w.ids) :
      Wrong w (.edgeSource i) (.unknownSource e.source e.target)
  | target {i : Nat} {e : Edge} (found : w.edges[i]? = some e) (unknown : e.target ∉ w.ids) :
      Wrong w (.edgeTarget i) (.unknownTarget e.source e.target)
  | startMissing (blank : Text.trim w.startNode = "") : Wrong w .startNode .startMissing
  | startUnknown (named : Text.trim w.startNode ≠ "") (unknown : w.startNode ∉ w.ids) :
      Wrong w .startNode (.startUnknown w.startNode)
  | endMissing (blank : Text.trim w.endNode = "") : Wrong w .endNode .endMissing
  | endUnknown (named : Text.trim w.endNode ≠ "") (unknown : w.endNode ∉ w.ids) :
      Wrong w .endNode (.endUnknown w.endNode)

variable {w : Workflow} {p : Place} {v : Violation}

theorem Wrong.unique {u : Violation} (this : w.Wrong p v) (other : w.Wrong p u) : v = u := by
  cases this with
  | duplicate second =>
      cases other with
      | duplicate second' => rw [Option.some.inj (second.1.symm.trans second'.1)]
  | negative found =>
      cases other with
      | negative found' => rw [Option.some.inj (found.symm.trans found')]
  | source found =>
      cases other with
      | source found' => rw [Option.some.inj (found.symm.trans found')]
  | target found =>
      cases other with
      | target found' => rw [Option.some.inj (found.symm.trans found')]
  | startMissing blank =>
      cases other with
      | startMissing => rfl
      | startUnknown named => exact absurd blank named
  | startUnknown named =>
      cases other with
      | startMissing blank => exact absurd blank named
      | startUnknown => rfl
  | endMissing blank =>
      cases other with
      | endMissing => rfl
      | endUnknown named => exact absurd blank named
  | endUnknown named =>
      cases other with
      | endMissing blank => exact absurd blank named
      | endUnknown => rfl

/-! ## Lists of violations -/

/-- What is wrong at those of some places where anything is, place by place. -/
def Lists (w : Workflow) (part : Place → Prop) (vs : List Violation) : Prop :=
  ∃ places : List Place, places.Pairwise Place.Before ∧ List.Forall₂ w.Wrong places vs ∧
    ∀ p, p ∈ places ↔ part p ∧ ∃ v, w.Wrong p v

variable {part later : Place → Prop} {vs us : List Violation}

theorem lists_nil (fine : ∀ p, part p → ∀ v, ¬ w.Wrong p v) : w.Lists part [] := by
  refine ⟨[], .nil, .nil, fun p => ?_⟩
  constructor
  · exact fun member => absurd member List.not_mem_nil
  · rintro ⟨inside, v, wrong⟩
    exact absurd wrong (fine p inside v)

theorem lists_singleton (wrong : w.Wrong p v) : w.Lists (· = p) [v] := by
  refine ⟨[p], List.pairwise_singleton .., .cons wrong .nil, fun q => ?_⟩
  rw [List.mem_singleton]
  constructor
  · rintro rfl
    exact ⟨rfl, v, wrong⟩
  · exact And.left

theorem lists_if {due : Prop} [Decidable due] (wrong : due → w.Wrong p v)
    (due_of : ∀ u, w.Wrong p u → due) : w.Lists (· = p) (if due then [v] else []) := by
  split
  next holds => exact lists_singleton (wrong holds)
  next fails =>
    apply lists_nil
    rintro q rfl u found
    exact fails (due_of u found)

theorem Lists.append (first : w.Lists part vs) (second : w.Lists later us)
    (apart : ∀ p q, part p → later q → p.Before q) :
    w.Lists (fun p => part p ∨ later p) (vs ++ us) := by
  obtain ⟨ps, ordered, wrong, listed⟩ := first
  obtain ⟨qs, ordered', wrong', listed'⟩ := second
  refine ⟨ps ++ qs, List.pairwise_append.2 ⟨ordered, ordered', ?_⟩,
    List.rel_append wrong wrong', fun p => ?_⟩
  · intro p left q right
    exact apart p q ((listed p).1 left).1 ((listed' q).1 right).1
  · rw [List.mem_append, listed, listed', or_and_right]

theorem Lists.of_iff (lists : w.Lists part vs) (same : ∀ p, part p ↔ later p) :
    w.Lists later vs := by
  obtain ⟨ps, ordered, wrong, listed⟩ := lists
  exact ⟨ps, ordered, wrong, fun p => (listed p).trans (and_congr_left' (same p))⟩

/-- What is wrong at a place comes before what is wrong at the later places of its
    part. -/
theorem Lists.cons (here : w.Lists (· = p) vs)
    (others : w.Lists (Place.From p.rank.1 (p.rank.2 + 1)) us) :
    w.Lists (Place.From p.rank.1 p.rank.2) (vs ++ us) := by
  refine (here.append others ?_).of_iff fun q => (Place.from_iff p q).symm
  rintro q r rfl ⟨part, position⟩
  exact .inr ⟨part.symm, position⟩

/-! ## The parts of a workflow -/

theorem second_iff {past rest : List Node} {n : Node} (whole : w.nodes = past ++ n :: rest) :
    (past.map Node.id).reverse.count n.id = 1 ↔ w.SecondAt past.length n.id := by
  have here : w.ids[past.length]? = some n.id := by simp [ids, whole]
  have earlier : past.map Node.id = w.ids.take past.length := by simp [ids, whole]
  rw [List.count_reverse, count_eq_one_iff, earlier]
  have before (j : Nat) : (w.ids.take past.length)[j]? = some n.id ↔
      j < past.length ∧ w.ids[j]? = some n.id := by
    rw [List.getElem?_take]
    split <;> simp [*]
  simp only [before, SecondAt, here, true_and]

theorem lists_duplicate {i : Nat} {id : String} (here : w.ids[i]? = some id) {due : Prop}
    [Decidable due] (due_iff : due ↔ w.SecondAt i id) :
    w.Lists (· = .nodeId i) (if due then [.duplicateId id] else []) := by
  refine lists_if (fun due => .duplicate (due_iff.1 due)) fun u wrong => due_iff.2 ?_
  cases wrong with
  | duplicate second =>
      obtain rfl := Option.some.inj (here.symm.trans second.1)
      exact second

theorem lists_negative {i : Nat} {n : Node} (here : w.nodes[i]? = some n) :
    w.Lists (· = .nodeRetries i)
      (if n.maxRetries < 0 then [.negativeRetries n.id n.maxRetries] else []) := by
  refine lists_if (.negative here) fun u wrong => ?_
  cases wrong with
  | negative found below =>
      obtain rfl := Option.some.inj (here.symm.trans found)
      exact below

theorem lists_source {i : Nat} {e : Edge} (here : w.edges[i]? = some e) :
    w.Lists (· = .edgeSource i)
      (if e.source ∉ w.ids then [.unknownSource e.source e.target] else []) := by
  refine lists_if (.source here) fun u wrong => ?_
  cases wrong with
  | source found unknown =>
      obtain rfl := Option.some.inj (here.symm.trans found)
      exact unknown

theorem lists_target {i : Nat} {e : Edge} (here : w.edges[i]? = some e) :
    w.Lists (· = .edgeTarget i)
      (if e.target ∉ w.ids then [.unknownTarget e.source e.target] else []) := by
  refine lists_if (.target here) fun u wrong => ?_
  cases wrong with
  | target found unknown =>
      obtain rfl := Option.some.inj (here.symm.trans found)
      exact unknown

/-- Behind the last node and the last edge nothing is wrong. -/
theorem lists_beyond_nodes (w : Workflow) : w.Lists (Place.From 0 (2 * w.nodes.length)) [] := by
  apply lists_nil
  rintro p ⟨part, position⟩ v wrong
  cases wrong with
  | duplicate second =>
      have inside := (List.getElem?_eq_some_iff.1 second.1).1
      simp only [ids, List.length_map, Place.rank] at inside position
      omega
  | negative found =>
      have inside := (List.getElem?_eq_some_iff.1 found).1
      simp only [Place.rank] at position
      omega
  | source | target | startMissing | startUnknown | endMissing | endUnknown => cases part

theorem lists_beyond_edges (w : Workflow) : w.Lists (Place.From 1 (2 * w.edges.length)) [] := by
  apply lists_nil
  rintro p ⟨part, position⟩ v wrong
  cases wrong with
  | source found | target found =>
      have inside := (List.getElem?_eq_some_iff.1 found).1
      simp only [Place.rank] at position
      omega
  | duplicate | negative | startMissing | startUnknown | endMissing | endUnknown => cases part

theorem lists_nodes {past rest : List Node} (whole : w.nodes = past ++ rest) :
    w.Lists (Place.From 0 (2 * past.length))
      (nodeViolations (past.map Node.id).reverse rest) := by
  induction rest generalizing past with
  | nil =>
      have all : past.length = w.nodes.length := by simp [whole]
      rw [all]
      exact w.lists_beyond_nodes
  | cons n rest ih =>
      have here : w.nodes[past.length]? = some n := by simp [whole]
      have named : w.ids[past.length]? = some n.id := by simp [ids, whole]
      have further : w.nodes = (past ++ [n]) ++ rest := by simp [whole]
      have others : w.Lists (Place.From 0 (2 * (past.length + 1)))
          (nodeViolations (n.id :: (past.map Node.id).reverse) rest) := by
        simpa using ih further
      rw [nodeViolations, List.append_assoc]
      exact (lists_duplicate named (second_iff whole)).cons ((lists_negative here).cons others)

theorem lists_edges {past rest : List Edge} (whole : w.edges = past ++ rest) :
    w.Lists (Place.From 1 (2 * past.length)) (rest.flatMap (edgeViolations w.ids)) := by
  induction rest generalizing past with
  | nil =>
      have all : past.length = w.edges.length := by simp [whole]
      rw [all]
      exact w.lists_beyond_edges
  | cons e rest ih =>
      have here : w.edges[past.length]? = some e := by simp [whole]
      have further : w.edges = (past ++ [e]) ++ rest := by simp [whole]
      have others : w.Lists (Place.From 1 (2 * (past.length + 1)))
          (rest.flatMap (edgeViolations w.ids)) := by
        simpa using ih further
      rw [List.flatMap_cons, edgeViolations, List.append_assoc, ← ite_not,
        ← ite_not (e.target ∈ w.ids)]
      exact (lists_source here).cons ((lists_target here).cons others)

/-- A reference is missing if it is blank, and else unknown if it names no node. -/
theorem lists_reference {missing : Violation} {unknown : String → Violation} {id : String}
    (wrong_iff : ∀ u, w.Wrong p u ↔
      Text.trim id = "" ∧ u = missing ∨ Text.trim id ≠ "" ∧ id ∉ w.ids ∧ u = unknown id) :
    w.Lists (· = p) (referenceViolations w.ids missing unknown id) := by
  unfold referenceViolations
  split
  next blank =>
    exact lists_singleton ((wrong_iff missing).2 (.inl ⟨(Text.isAllBlank_iff id).1 blank, rfl⟩))
  next named =>
    rw [Text.isAllBlank_iff] at named
    rw [← ite_not]
    refine lists_if (fun absent => (wrong_iff _).2 (.inr ⟨named, absent, rfl⟩)) fun u wrong => ?_
    rcases (wrong_iff u).1 wrong with ⟨blank, _⟩ | ⟨_, absent, _⟩
    · exact absurd blank named
    · exact absent

theorem wrong_start_iff (u : Violation) :
    w.Wrong .startNode u ↔ Text.trim w.startNode = "" ∧ u = .startMissing ∨
      Text.trim w.startNode ≠ "" ∧ w.startNode ∉ w.ids ∧ u = .startUnknown w.startNode := by
  constructor
  · intro wrong
    cases wrong with
    | startMissing blank => exact .inl ⟨blank, rfl⟩
    | startUnknown named unknown => exact .inr ⟨named, unknown, rfl⟩
  · rintro (⟨blank, rfl⟩ | ⟨named, unknown, rfl⟩)
    · exact .startMissing blank
    · exact .startUnknown named unknown

theorem wrong_end_iff (u : Violation) :
    w.Wrong .endNode u ↔ Text.trim w.endNode = "" ∧ u = .endMissing ∨
      Text.trim w.endNode ≠ "" ∧ w.endNode ∉ w.ids ∧ u = .endUnknown w.endNode := by
  constructor
  · intro wrong
    cases wrong with
    | endMissing blank => exact .inl ⟨blank, rfl⟩
    | endUnknown named unknown => exact .inr ⟨named, unknown, rfl⟩
  · rintro (⟨blank, rfl⟩ | ⟨named, unknown, rfl⟩)
    · exact .endMissing blank
    · exact .endUnknown named unknown

theorem lists_violations (w : Workflow) : w.Lists (fun _ => True) w.violations := by
  have nodes := w.lists_nodes (List.nil_append w.nodes).symm
  have edges := w.lists_edges (List.nil_append w.edges).symm
  have start := w.lists_reference wrong_start_iff
  have finish := w.lists_reference wrong_end_iff
  refine (((nodes.append edges ?_).append start ?_).append finish ?_).of_iff fun p => ?_
  · rintro p q ⟨part, _⟩ ⟨part', _⟩
    exact .inl (by omega)
  · rintro p q (⟨part, _⟩ | ⟨part, _⟩) rfl <;> exact .inl (part ▸ by decide)
  · rintro p q ((⟨part, _⟩ | ⟨part, _⟩) | rfl) rfl
    · exact .inl (part ▸ by decide)
    · exact .inl (part ▸ by decide)
    · exact .inl (by decide)
  · cases p <;> simp [Place.From, Place.rank]

theorem violations_eq_nil_iff : w.violations = [] ↔ ∀ p v, ¬ w.Wrong p v := by
  obtain ⟨places, _, wrong, listed⟩ := w.lists_violations
  constructor
  · intro none p v found
    rw [none, List.forall₂_nil_right_iff] at wrong
    have member := (listed p).2 ⟨trivial, v, found⟩
    rw [wrong] at member
    cases member
  · intro fine
    have nowhere : places = [] := List.eq_nil_iff_forall_not_mem.2 fun p member => by
      obtain ⟨_, v, found⟩ := (listed p).1 member
      exact fine p v found
    rwa [nowhere, List.forall₂_nil_left_iff] at wrong

theorem not_secondAt (distinct : w.ids.Nodup) (i : Nat) (id : String) : ¬ w.SecondAt i id := by
  rintro ⟨here, j, ⟨earlier, there⟩, _⟩
  have bound := (List.getElem?_eq_some_iff.1 there).1
  have same : j = i := (List.getElem?_inj bound distinct).1 (there.trans here.symm)
  exact Nat.ne_of_lt earlier same

/-- A workflow is valid just if its ids are distinct, its edges join nodes, its start
    and its end are no blank texts but nodes, and no retries are negative. Otherwise
    its violations are what is wrong at the places of the workflow where something is,
    one for each of them, in the order of the places. -/
theorem violations_in_place (w : Workflow) :
    (w.violations = [] ↔
      w.ids.Nodup ∧ (∀ e ∈ w.edges, e.source ∈ w.ids ∧ e.target ∈ w.ids) ∧
        (Text.trim w.startNode ≠ "" ∧ w.startNode ∈ w.ids) ∧
        (Text.trim w.endNode ≠ "" ∧ w.endNode ∈ w.ids) ∧
        ∀ n ∈ w.nodes, 0 ≤ n.maxRetries) ∧
    (∀ p v u, w.Wrong p v → w.Wrong p u → v = u) ∧
    ∃ places : List Place, places.Pairwise Place.Before ∧
      List.Forall₂ w.Wrong places w.violations ∧ ∀ p, p ∈ places ↔ ∃ v, w.Wrong p v := by
  refine ⟨⟨fun none => ?_, ?_⟩, fun p v u => Wrong.unique, ?_⟩
  · have valid := valid_of_violations none
    have fine := violations_eq_nil_iff.1 none
    have named : Text.trim w.endNode ≠ "" := fun blank => fine _ _ (.endMissing blank)
    refine ⟨valid.distinct, valid.edges, ⟨?_, valid.start⟩, ⟨named, ?_⟩, ?_⟩
    · exact fun blank => fine _ _ (.startMissing blank)
    · exact Decidable.byContradiction fun unknown => fine _ _ (.endUnknown named unknown)
    · intro n member
      obtain ⟨i, found⟩ := List.mem_iff_getElem?.1 member
      exact Int.not_lt.1 fun below => fine _ _ (.negative found below)
  · rintro ⟨distinct, edges, ⟨startNamed, start⟩, ⟨endNamed, finish⟩, retries⟩
    rw [violations_eq_nil_iff]
    intro p v wrong
    cases wrong with
    | duplicate second => exact not_secondAt distinct _ _ second
    | negative found below =>
        exact absurd below (Int.not_lt.2 (retries _ (List.mem_of_getElem? found)))
    | source found unknown => exact unknown (edges _ (List.mem_of_getElem? found)).1
    | target found unknown => exact unknown (edges _ (List.mem_of_getElem? found)).2
    | startMissing blank => exact startNamed blank
    | startUnknown _ unknown => exact unknown start
    | endMissing blank => exact endNamed blank
    | endUnknown _ unknown => exact unknown finish
  · obtain ⟨places, ordered, wrong, listed⟩ := w.lists_violations
    exact ⟨places, ordered, wrong, fun p => by rw [listed, true_and]⟩

/-- Of three nodes with one id only the second is reported, and its retries after it. -/
example : violations {
      plan := "", diagram := ""
      nodes := [.plain "a" "t", { Node.plain "a" "t" with maxRetries := -1 }, .plain "a" "t"]
      edges := [.always "a" "x"]
      startNode := " ", endNode := "z", initialMetadata := none } =
    [.duplicateId "a", .negativeRetries "a" (-1), .unknownTarget "a" "x", .startMissing,
      .endUnknown "z"] := by
  decide +kernel

end Workflow

end Superstep
