import Superstep.Config.Environment
import Superstep.Config.Read

/-! # References to variables

A text with references is made of literals with names between them. Expanding it puts
the value of every variable that is set in place of its reference, and leaves all else as
it stands. A literal may end in the sign that starts a reference, a name may hold it, and
so may a value: what has been put in is not read again.
-/

namespace Superstep

/-- What starts a reference. -/
def opening : List Char := ['$', '\x7b']

/-- How a text refers to a variable. -/
def referenceTo (name : String) : String :=
  "$\x7b" ++ name ++ "\x7d"

/-- A text with references: literals, each with the name of a variable behind it, and what
    follows the last reference. -/
structure Template where
  passages : List (String × String)
  last : String

namespace Template

/-- No literal starts a reference, and no name ends one. -/
structure Proper (t : Template) : Prop where
  literals : ∀ passage ∈ t.passages, ¬ opening <:+: passage.1.toList
  names : ∀ passage ∈ t.passages, '\x7d' ∉ passage.2.toList
  last : ¬ opening <:+: t.last.toList

/-- The literals, with something in place of the names. -/
def fill (t : Template) (f : String → String) : String :=
  String.join (t.passages.map fun passage => passage.1 ++ f passage.2) ++ t.last

/-- The text itself. -/
def text (t : Template) : String :=
  t.fill referenceTo

end Template

section

variable {lookup : String → Option String}

theorem toList_referenceTo (name : String) :
    (referenceTo name).toList = '$' :: '\x7b' :: (name.toList ++ ['\x7d']) := by
  simp [referenceTo]

theorem replacement_toList (name : String) :
    replacement lookup name.toList = ((lookup name).getD (referenceTo name)).toList := by
  unfold replacement
  rw [String.ofList_toList]
  cases lookup name with
  | none => exact (toList_referenceTo name).symm
  | some value => rfl

/-- A character is kept unless it starts a reference. -/
theorem expandChars_cons {c : Char} {cs : List Char} (plain : ¬ opening <+: c :: cs) :
    expandChars lookup (c :: cs) = c :: expandChars lookup cs := by
  rw [expandChars]
  rintro rest rfl rfl
  exact plain ⟨rest, rfl⟩

/-- A literal is kept, even if it ends in what could start a reference: only a brace
    behind it would. -/
theorem expandChars_literal {cs rest : List Char} (plain : ¬ opening <:+: cs)
    (apart : rest.head? ≠ some '\x7b') :
    expandChars lookup (cs ++ rest) = cs ++ expandChars lookup rest := by
  induction cs with
  | nil => rfl
  | cons c cs ih =>
      have later : ¬ opening <:+: cs := fun inside =>
        plain (inside.trans (List.suffix_cons c cs).isInfix)
      have here : ¬ opening <+: c :: (cs ++ rest) := by
        rintro ⟨more, same⟩
        obtain ⟨rfl, next⟩ := List.cons.inj same
        cases cs with
        | nil => exact apart (by rw [show rest = _ from next.symm]; rfl)
        | cons d cs =>
            obtain ⟨rfl, _⟩ := List.cons.inj next
            exact plain ⟨[], cs, rfl⟩
      rw [List.cons_append, expandChars_cons here, ih later, List.cons_append]

/-- A name goes on up to the first closing brace, whatever else there is in it. -/
theorem expandName_append {name : List Char} (free : '\x7d' ∉ name) (before rest : List Char) :
    expandName lookup before (name ++ rest) = expandName lookup (name.reverse ++ before) rest := by
  induction name generalizing before with
  | nil => rfl
  | cons c name ih =>
      rw [List.mem_cons, not_or] at free
      rw [List.cons_append, expandName, ih free.2, List.reverse_cons, List.append_assoc,
        List.singleton_append]
      exact fun same => free.1 same.symm

theorem expandName_reference {name : List Char} (free : '\x7d' ∉ name) (before rest : List Char) :
    expandName lookup before (name ++ '\x7d' :: rest) =
      replacement lookup (before.reverse ++ name) ++ expandChars lookup rest := by
  rw [expandName_append free, expandName, List.reverse_append, List.reverse_reverse]

theorem expandChars_reference {name : String} (free : '\x7d' ∉ name.toList) (rest : List Char) :
    expandChars lookup ((referenceTo name).toList ++ rest) =
      ((lookup name).getD (referenceTo name)).toList ++ expandChars lookup rest := by
  rw [toList_referenceTo, List.cons_append, List.cons_append, List.append_assoc,
    List.singleton_append, expandChars, expandName_reference free, List.reverse_nil,
    List.nil_append, replacement_toList]

/-- Every reference in a text is replaced by the value of its variable, or kept if that is
    not set, and nothing else is changed: neither the literals nor what has been put in. -/
theorem references_replaced_once {t : Template} (proper : t.Proper) :
    expandReferences lookup t.text =
      t.fill fun name => (lookup name).getD (referenceTo name) := by
  obtain ⟨passages, last⟩ := t
  obtain ⟨literals, names, plain⟩ := proper
  have chars : expandChars lookup (Template.text ⟨passages, last⟩).toList =
      (Template.fill ⟨passages, last⟩ fun name =>
        (lookup name).getD (referenceTo name)).toList := by
    simp only [Template.text, Template.fill, String.toList_append, String.toList_join,
      List.flatMap_map] at literals names plain ⊢
    induction passages with
    | nil =>
        have whole : expandChars lookup (last.toList ++ []) =
            last.toList ++ expandChars lookup [] := expandChars_literal plain nofun
        rwa [List.append_nil, expandChars, List.append_nil] at whole
    | cons passage rest ih =>
        obtain ⟨literal, literals⟩ := List.forall_mem_cons.1 literals
        obtain ⟨name, names⟩ := List.forall_mem_cons.1 names
        -- A reference starts with its own sign, so no literal before it can lend it one.
        have apart (more : List Char) :
            ((referenceTo passage.2).toList ++ more).head? ≠ some '\x7b' := by
          simp [toList_referenceTo]
        simp only [List.flatMap_cons, List.append_assoc]
        rw [expandChars_literal literal (apart _), expandChars_reference name,
          ih literals names]
  rw [expandReferences, chars, String.ofList_toList]

end

/-- A text with a sign before a reference, a name with the beginning of a reference in it,
    an empty name, and a brace behind a reference. -/
def tangled : Template where
  passages := [("a$", "HOME"), ("\x7b", "HO$\x7bME"), ("", "")]
  last := "$"

/-- Variables one of which has a reference as its value. -/
def homely : Environment where
  entries := .ofList [("HOME", "$\x7bPATH\x7d$"), ("PATH", "\x7b\x7d")]

theorem references_replaced_once_tangled :
    tangled.text = "a$$\x7bHOME\x7d\x7b$\x7bHO$\x7bME\x7d$\x7b\x7d$" ∧
      expandReferences homely.lookup tangled.text =
        "a$$\x7bPATH\x7d$\x7b$\x7bHO$\x7bME\x7d$\x7b\x7d$" := by
  have proper : tangled.Proper :=
    ⟨by decide +kernel, by decide +kernel, by decide +kernel⟩
  refine ⟨by decide +kernel, ?_⟩
  rw [references_replaced_once proper]
  decide +kernel

end Superstep
