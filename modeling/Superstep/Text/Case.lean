import Superstep.Text.CaseTable

/-! # Lower and upper case

Full Unicode case mapping without a locale. A capital sigma becomes the final
form at the end of a word; every other mapping looks at one character only.
-/

namespace Superstep.Text

/-- The image of a character under a case mapping, itself when the tables do
    not mention it. -/
def mapCase (expansions : List (Nat × List Nat)) (shifts : List Shift) (c : Char) : List Char :=
  match expansions.lookup c.toNat with
  | some codes => codes.map Char.ofNat
  | none => [((shifts.findSome? (·.image? c.toNat)).map Char.ofNat).getD c]

/-- Whether the first character that matters for casing is a cased one. -/
def startsCased (cs : List Char) : Bool :=
  match cs.dropWhile caseIgnorableRanges.has with
  | c :: _ => casedRanges.has c
  | [] => false

/-- Lower case of one character between those before it, nearest first, and
    those after it. -/
def lowerChar (before : List Char) (c : Char) (after : List Char) : List Char :=
  if c = 'Σ' then
    if startsCased before && !startsCased after then ['ς'] else ['σ']
  else mapCase lowerExpansions lowerShifts c

/-- Lower case of the characters after those in `before`, nearest first. -/
def lowerChars (before : List Char) : List Char → List Char
  | [] => []
  | c :: rest => lowerChar before c rest ++ lowerChars (c :: before) rest

def lower (s : String) : String :=
  String.ofList (lowerChars [] s.toList)

def upper (s : String) : String :=
  String.ofList (s.toList.flatMap (mapCase upperExpansions upperShifts))

end Superstep.Text
