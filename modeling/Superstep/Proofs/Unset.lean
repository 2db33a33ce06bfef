import Mathlib.Data.List.Infix
import Superstep.Proofs.References
import Superstep.Proofs.Results

/-! # Variables that are not set

A reference to a variable that is not set is written down again from its name, with the
brace that closes it. So a text without variables that are set is kept as it stands if all
of its references are closed. If the last one is left open, its name is all that follows,
and the text gets the brace that it lacks.
-/

namespace Superstep

/-- Some end of the characters starts a reference and does not close it. -/
def LeftOpen (cs : List Char) : Prop :=
  ∃ rest, rest <:+ cs ∧ opening <+: rest ∧ '\x7d' ∉ rest

instance (cs : List Char) : Decidable (LeftOpen cs) :=
  decidable_of_iff (∃ rest ∈ cs.tails, opening <+: rest ∧ '\x7d' ∉ rest) <| by
    simp only [List.mem_tails, LeftOpen]

/-- What is missing at the end of the characters: the brace of a reference that is left
    open. -/
def missingEnd (cs : List Char) : List Char :=
  if LeftOpen cs then ['\x7d'] else []

theorem missingEnd_congr {cs ds : List Char} (same : LeftOpen cs ↔ LeftOpen ds) :
    missingEnd cs = missingEnd ds := by
  simp only [missingEnd, same]

theorem leftOpen_opening {name : List Char} (free : '\x7d' ∉ name) :
    LeftOpen ('$' :: '\x7b' :: name) :=
  ⟨_, List.suffix_rfl, ⟨name, rfl⟩, by simpa using free⟩

theorem leftOpen_cons {c : Char} {cs : List Char} (plain : ¬ opening <+: c :: cs) :
    LeftOpen (c :: cs) ↔ LeftOpen cs := by
  constructor
  · rintro ⟨rest, ending, starts, free⟩
    rcases List.suffix_cons_iff.1 ending with rfl | later
    · exact absurd starts plain
    · exact ⟨rest, later, starts, free⟩
  · rintro ⟨rest, ending, starts, free⟩
    exact ⟨rest, ending.trans (List.suffix_cons c cs), starts, free⟩

/-- Only what follows the last closing brace can be left open. -/
theorem leftOpen_append_closed (cs rest : List Char) :
    LeftOpen (cs ++ '\x7d' :: rest) ↔ LeftOpen rest := by
  induction cs with
  | nil =>
      refine leftOpen_cons ?_
      rintro ⟨_, same⟩
      exact absurd (List.cons.inj same).1 (by decide)
  | cons c cs ih =>
      rw [List.cons_append, ← ih]
      constructor
      · rintro ⟨tail, ending, starts, free⟩
        rcases List.suffix_cons_iff.1 ending with rfl | later
        · exact absurd (by simp) free
        · exact ⟨tail, later, starts, free⟩
      · rintro ⟨tail, ending, starts, free⟩
        exact ⟨tail, ending.trans (List.suffix_cons c _), starts, free⟩

variable {lookup : String → Option String}

theorem replacement_of_unset {name : List Char} (unset : lookup (String.ofList name) = none) :
    replacement lookup name = '$' :: '\x7b' :: (name ++ ['\x7d']) := by
  rw [replacement, unset]
  rfl

theorem namesInName_append {name : List Char} (free : '\x7d' ∉ name) (before rest : List Char) :
    namesInName before (name ++ rest) = namesInName (name.reverse ++ before) rest := by
  induction name generalizing before with
  | nil => rfl
  | cons c name ih =>
      rw [List.mem_cons, not_or] at free
      rw [List.cons_append, namesInName, ih free.2, List.reverse_cons, List.append_assoc,
        List.singleton_append]
      exact fun same => free.1 same.symm

/-- Without a closing brace, all that follows is the name. -/
theorem expandName_open {name : List Char} (free : '\x7d' ∉ name) :
    expandName lookup [] name = replacement lookup name := by
  have whole : expandName lookup [] (name ++ []) = _ := expandName_append free [] []
  rwa [List.append_nil, List.append_nil, expandName, List.reverse_reverse] at whole

theorem namesInName_open {name : List Char} (free : '\x7d' ∉ name) :
    namesInName [] name = [String.ofList name] := by
  have whole := namesInName_append free [] []
  rwa [List.append_nil, List.append_nil, namesInName, List.reverse_reverse] at whole

theorem namesInName_reference {name : List Char} (free : '\x7d' ∉ name) (rest : List Char) :
    namesInName [] (name ++ '\x7d' :: rest) = String.ofList name :: namesInChars rest := by
  rw [namesInName_append free, List.append_nil, namesInName, List.reverse_reverse]

theorem namesInChars_cons {c : Char} {cs : List Char} (plain : ¬ opening <+: c :: cs) :
    namesInChars (c :: cs) = namesInChars cs := by
  rw [namesInChars]
  rintro rest rfl rfl
  exact plain ⟨rest, rfl⟩

/-- If no variable is set to which characters refer, they are kept, and the last reference
    is closed. -/
theorem expandChars_unset (cs : List Char) (unset : ∀ name ∈ namesInChars cs, lookup name = none) :
    expandChars lookup cs = cs ++ missingEnd cs := by
  induction length : cs.length using Nat.strongRecOn generalizing cs with
  | ind size shorter =>
      by_cases starts : opening <+: cs
      · obtain ⟨rest, rfl⟩ := starts
        change ∀ name ∈ namesInName [] rest, lookup name = none at unset
        change expandName lookup [] rest = _
        by_cases closed : '\x7d' ∈ rest
        · -- The first brace ends the name, and what follows it is shorter.
          obtain ⟨name, later, rfl, free⟩ := List.eq_append_cons_of_mem closed
          rw [namesInName_reference free] at unset
          obtain ⟨own, others⟩ := List.forall_mem_cons.1 unset
          have less : later.length < size := by
            simp only [← length, List.length_append, List.length_cons]
            omega
          have after : missingEnd (opening ++ (name ++ '\x7d' :: later)) = missingEnd later := by
            refine missingEnd_congr ?_
            rw [← List.append_assoc]
            exact leftOpen_append_closed _ _
          rw [expandName_reference free, List.reverse_nil, List.nil_append,
            replacement_of_unset own, shorter _ less later others rfl, after]
          simp [opening]
        · rw [namesInName_open closed] at unset
          have missing : missingEnd (opening ++ rest) = ['\x7d'] :=
            if_pos (leftOpen_opening closed)
          have own := unset _ (List.mem_singleton_self _)
          rw [expandName_open closed, replacement_of_unset own, missing]
          simp [opening]
      · cases cs with
        | nil => rw [expandChars, missingEnd, if_neg (by decide), List.append_nil]
        | cons c cs =>
            rw [namesInChars_cons starts] at unset
            rw [expandChars_cons starts, missingEnd_congr (leftOpen_cons starts),
              shorter _ (by simp [← length]) cs unset rfl, List.cons_append]

/-- If no variable is set to which a text refers, expanding the text changes nothing, and
    what is read is what it spells as it stands, as long as its last reference is closed.
    If that is left open, both are so with a closing brace behind the text. -/
theorem unset_references_kept {text : String}
    (unset : ∀ name ∈ referencedNames text, lookup name = none) :
    (¬ LeftOpen text.toList →
      expandReferences lookup text = text ∧
        Configuration.parse lookup text = Configuration.ofText text) ∧
    (LeftOpen text.toList →
      expandReferences lookup text = text ++ "\x7d" ∧
        Configuration.parse lookup text = Configuration.ofText (text ++ "\x7d")) := by
  have expanded : expandReferences lookup text =
      String.ofList (text.toList ++ missingEnd text.toList) :=
    congrArg String.ofList (expandChars_unset text.toList unset)
  rw [Configuration.parse, expanded]
  constructor
  · intro closed
    have same : String.ofList (text.toList ++ missingEnd text.toList) = text := by
      rw [missingEnd, if_neg closed, List.append_nil, String.ofList_toList]
    rw [same]
    exact ⟨rfl, rfl⟩
  · intro leftOpen
    have same : String.ofList (text.toList ++ missingEnd text.toList) = text ++ "\x7d" := by
      rw [missingEnd, if_pos leftOpen, String.ofList_append, String.ofList_toList]
    rw [same]
    exact ⟨rfl, rfl⟩

/-- Settings below a remark, which may start a reference. -/
def remarked (remark : String) : String :=
  "# " ++ remark ++ "\n[engine]\nmax_steps = 7\n"

theorem unset_references_kept_tangled :
    expandReferences homely.lookup (remarked "$$\x7bHOST$\x7bME\x7d\x7b$\x7b\x7d$") =
        remarked "$$\x7bHOST$\x7bME\x7d\x7b$\x7b\x7d$" ∧
      expandReferences homely.lookup (remarked "$\x7bHOST") = remarked "$\x7bHOST" ++ "\x7d" := by
  constructor
  · exact ((unset_references_kept (by decide +kernel)).1 (by decide +kernel)).1
  · exact ((unset_references_kept (by decide +kernel)).2 (by decide +kernel)).1

/-- The brace that is put behind a reference without one makes a text unreadable that spells
    a configuration. -/
theorem open_reference_closed :
    (∀ name ∈ referencedNames (remarked "$\x7bHOST"), homely.lookup name = none) ∧
      expandReferences homely.lookup (remarked "$\x7bHOST") ≠ remarked "$\x7bHOST" ∧
      Configuration.ofText (remarked "$\x7bHOST") = .ok { engine := { maxSteps := 7 } } ∧
      Configuration.parse homely.lookup (remarked "$\x7bHOST") = .error .unreadable := by
  have spelled : Configuration.ofText (remarked "$\x7bHOST") =
      .ok { engine := { maxSteps := 7 } } := eq_ok_of_toOption (by decide +kernel)
  have unread : Configuration.decode? (expandReferences homely.lookup (remarked "$\x7bHOST")) =
      none := by
    decide +kernel
  refine ⟨by decide +kernel, by decide +kernel, spelled, ?_⟩
  rw [Configuration.parse, Configuration.ofText, unread]

end Superstep
