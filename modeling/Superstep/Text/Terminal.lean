/-! # Control sequences of terminals

Text for a terminal may hold sequences that say how it is to look or that are
meant for the terminal itself. They start with the escape character. What is
left without them, and without control characters, is plain text.
-/

namespace Superstep.Text

/-- What a character of a text for a terminal is part of. -/
inductive TerminalPart where
  | text
  | escape
  /-- A longer sequence after the escape character, before its last character. -/
  | escapeMiddle
  /-- A control sequence, which starts with an escape character and a bracket. -/
  | control
  /-- A command for the system, such as a title. -/
  | command
  | deviceStart
  | deviceParameters
  | deviceMiddle
  | string
  deriving DecidableEq

def stringTerminator : Nat := 0x9C

/-- Whether the byte that ends strings is among the bytes of a character
    outside ASCII, which is written in two to four bytes. -/
def holdsTerminator (c : Char) : Bool :=
  let low (code : Nat) : Bool := 0x80 + code % 0x40 == stringTerminator
  low c.toNat || (0x800 ≤ c.toNat && low (c.toNat / 0x40)) ||
    (0x10000 ≤ c.toNat && low (c.toNat / 0x1000))

namespace TerminalPart

/-- The part that a character after the escape character leads to. -/
def afterEscape (c : Char) : Option TerminalPart :=
  if c = '[' then some .control
  else if c = ']' then some .command
  else if c = 'P' then some .deviceStart
  else if c = 'X' ∨ c = '^' ∨ c = '_' then some .string
  else if ' ' ≤ c ∧ c ≤ '/' then some .escapeMiddle
  else if '0' ≤ c ∧ c ≤ '~' then some .text
  else none

/-- The part that an ASCII character leads to which does not lead to the same
    part from everywhere. -/
def afterAscii (part : TerminalPart) (c : Char) : Option TerminalPart :=
  match part with
  | .text => none
  | .escape => afterEscape c
  | .escapeMiddle => if '0' ≤ c ∧ c ≤ '~' then some .text else none
  | .control => if '@' ≤ c ∧ c ≤ '~' then some .text else none
  | .command => if c = '\x07' then some .text else none
  | .deviceStart =>
      if ' ' ≤ c ∧ c ≤ '/' then some .deviceMiddle
      else if '0' ≤ c ∧ c ≤ '?' then some .deviceParameters
      else if '@' ≤ c ∧ c ≤ '~' then some .string
      else none
  | .deviceParameters =>
      if ' ' ≤ c ∧ c ≤ '/' then some .deviceMiddle
      else if '<' ≤ c ∧ c ≤ '~' then some .string
      else none
  | .deviceMiddle => if '0' ≤ c ∧ c ≤ '~' then some .string else none
  | .string => none

/-- The part that a character leads to; without one it stays the same. -/
def after (part : TerminalPart) (c : Char) : Option TerminalPart :=
  if c = '\x1b' then some .escape
  else if c = '\x18' ∨ c = '\x1a' then some .text
  else if c < '\x80' then part.afterAscii c
  else
    match part with
    | .text => some .text
    | .string => if holdsTerminator c then some .text else none
    | _ => none

def isSpacing (c : Char) : Bool :=
  c = '\t' || c = '\n' || c = '\x0c' || c = '\r'

/-- Whether a character is shown. White space is shown even within sequences,
    but not within strings. -/
def shows (part : TerminalPart) (c : Char) : Bool :=
  match part with
  | .text => isSpacing c || (' ' ≤ c && c ≠ '\x7f')
  | .escape | .escapeMiddle | .control => isSpacing c
  | _ => false

end TerminalPart

/-- The characters that are shown. While they are, `showing`, every one is taken
    as text; a sequence that white space has interrupted is gone on with, as
    `part`, from the next character that is not shown. -/
def shownChars (showing : Bool) (part : TerminalPart) : List Char → List Char
  | [] => []
  | c :: rest =>
      let here : TerminalPart := if showing then .text else part
      let next := (here.after c).getD part
      if here.shows c then c :: shownChars true next rest
      else if showing then shownChars false ((next.after c).getD next) rest
      else shownChars false next rest

def plain (s : String) : String :=
  String.ofList (shownChars false .text s.toList)

end Superstep.Text
