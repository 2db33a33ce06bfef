import Superstep.Text.Digits
import Superstep.Text.Unprintable

/-! # Quoted text in messages

A text is shown between double quotes with a backslash before what would end
or blur it: quotes, backslashes and the usual line controls by their letters,
characters without a visible form by their code point.
-/

namespace Superstep.Text

def quoteChar (c : Char) : List Char :=
  match c with
  | '"' => ['\\', '"']
  | '\\' => ['\\', '\\']
  | '\n' => ['\\', 'n']
  | '\t' => ['\\', 't']
  | '\r' => ['\\', 'r']
  | '\x00' => ['\\', '0']
  | c =>
      if isExtending c || isUnprintable c then
        ['\\', 'u', '\x7b'] ++ hexDigits c.toNat ++ ['\x7d']
      else [c]

/-- A text in quotes, as messages show it. -/
def quoted (s : String) : String :=
  String.ofList ('"' :: s.toList.flatMap quoteChar ++ ['"'])

end Superstep.Text
