/-! # Texts inside of texts

Whether one text occurs in another.
-/

namespace Superstep.Text

/-- Whether some characters occur in others, one after another. -/
def occursIn (needle : List Char) : List Char → Bool
  | [] => needle.isEmpty
  | c :: rest => needle.isPrefixOf (c :: rest) || occursIn needle rest

def occurs (needle text : String) : Bool :=
  occursIn needle.toList text.toList

theorem occursIn_iff {needle text : List Char} :
    occursIn needle text = true ↔ needle <:+: text := by
  induction text with
  | nil => simp [occursIn]
  | cons c rest ih =>
      rw [occursIn, Bool.or_eq_true, List.isPrefixOf_iff_prefix, ih, List.infix_cons_iff]

/-- A text occurs in another one that goes on before and after it. -/
theorem occurs_iff {needle text : String} :
    occurs needle text = true ↔ ∃ before after, text = before ++ needle ++ after := by
  rw [occurs, occursIn_iff]
  constructor
  · rintro ⟨before, after, whole⟩
    refine ⟨.ofList before, .ofList after, ?_⟩
    apply String.toList_inj.1
    simp [← whole]
  · rintro ⟨before, after, rfl⟩
    exact ⟨before.toList, after.toList, by simp⟩

end Superstep.Text
