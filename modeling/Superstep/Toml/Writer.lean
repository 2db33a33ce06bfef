import Superstep.Binary64.Layout
import Superstep.Toml.Value

/-! # Writing TOML

A document is written table by table: the values of a table under its header,
and then the tables inside of it. A header is left out if its table has nothing
but tables. Texts are written in the plainest form that holds them.
-/

namespace Superstep.Toml

/-- What matters for the form of a text. -/
structure Traits where
  /-- It has control characters other than tabs and line breaks. -/
  control : Bool
  hasBreak : Bool
  hasBackslash : Bool
  apostrophes : Nat
  quotes : Nat

/-- The longest run of a character; `run` and `longest` are those so far. -/
def longestRun (c : Char) (run longest : Nat) : List Char → Nat
  | [] => longest
  | d :: rest =>
      if d = c then longestRun c (run + 1) (max longest (run + 1)) rest
      else longestRun c 0 longest rest

/-- Whether a character can only be written as an escape. -/
def isControl (c : Char) : Bool :=
  (c < ' ' && c != '\t' && c != '\n') || c == '\x7f'

def Traits.of (cs : List Char) : Traits where
  control := cs.any isControl
  hasBreak := cs.contains '\n'
  hasBackslash := cs.contains '\\'
  apostrophes := longestRun '\'' 0 0 cs
  quotes := longestRun '"' 0 0 cs

def numbered (c : Char) : List Char :=
  '\\' :: 'u' :: (Text.paddedHex 4 c.toNat).map Char.toUpper

/-- A character between quotes, apart from line breaks and quotes. -/
def escapePlain (c : Char) : List Char :=
  match c with
  | '\x08' => ['\\', 'b']
  | '\t' => ['\\', 't']
  | '\x0c' => ['\\', 'f']
  | '\r' => ['\\', 'r']
  | '\\' => ['\\', '\\']
  | c => if isControl c then numbered c else [c]

def escapeLine (cs : List Char) : List Char :=
  cs.flatMap fun c =>
    match c with
    | '"' => ['\\', '"']
    | '\n' => ['\\', 'n']
    | c => escapePlain c

/-- Characters between triple quotes. The third quote of a run is escaped, and
    the count starts anew after every escape. -/
def escapeLines (run : Nat) : List Char → List Char
  | [] => []
  | '"' :: rest =>
      if run = 2 then '\\' :: '"' :: escapeLines 0 rest else '"' :: escapeLines (run + 1) rest
  | '\n' :: rest => '\n' :: escapeLines 0 rest
  | c :: rest => escapePlain c ++ escapeLines 0 rest

def writeLine (cs : List Char) : List Char :=
  '"' :: escapeLine cs ++ ['"']

/-- A text over several lines; a text with line breaks starts on a line of its
    own. -/
def writeLines (t : Traits) (delimiter : List Char) (content : List Char) : List Char :=
  delimiter ++ (if t.hasBreak then ['\n'] else []) ++ content ++ delimiter

def writeText (s : String) : List Char :=
  let cs := s.toList
  let t := Traits.of cs
  let tripleQuotes := List.replicate 3 '"'
  if !t.control && !t.hasBackslash && t.quotes == 0 && !t.hasBreak then writeLine cs
  else if !t.control && t.apostrophes == 0 && !t.hasBreak then '\'' :: cs ++ ['\'']
  else if !t.control && !t.hasBackslash && t.quotes ≤ 2 then
    writeLines t tripleQuotes (escapeLines 0 cs)
  else if !t.control && t.apostrophes ≤ 2 then writeLines t (List.replicate 3 '\'') cs
  else if t.hasBreak then writeLines t tripleQuotes (escapeLines 0 cs)
  else writeLine cs

/-- Whether a character may stand in a key without quotes. -/
def isBareKeyChar (c : Char) : Bool :=
  c.isAlphanum || c == '_' || c == '-'

def writeKey (s : String) : List Char :=
  let cs := s.toList
  let t := Traits.of cs
  let control := t.control || t.hasBreak
  if !cs.isEmpty && cs.all isBareKeyChar then cs
  else if !control && !t.hasBackslash && t.quotes == 0 then writeLine cs
  else if !control && t.apostrophes == 0 then '\'' :: cs ++ ['\'']
  else writeLine cs

/-- Floats: always plain, and a whole number ends in `.0`. -/
def floatLayout : Layout :=
  ⟨fun _ => true, ['.', '0'], .upward⟩

def writeInteger (i : Int) : List Char :=
  if i < 0 then '-' :: Text.decimalDigits i.natAbs else Text.decimalDigits i.natAbs

mutual
/-- A value after its key. An array of several items has each of them on a line
    of its own. -/
def Value.write : Value → List Char
  | .string s => writeText s
  | .integer i => writeInteger i
  | .float (.ok x) => floatLayout.write x
  | .float (.error .undefined) => "nan".toList
  | .float (.error n) => n.text.toList
  | .bool b => (if b then "true" else "false").toList
  | .moment text => text.toList
  | .array [] => ['[', ']']
  | .array [v] => '[' :: v.write ++ [']']
  | .array items => '[' :: writeItems items ++ ['\n', ']']
  | .table [] => ['\x7b', '\x7d']
  | .table fields => '\x7b' :: writeInline true fields ++ [' ', '\x7d']

/-- The items of an array on lines of their own. -/
def writeItems : List Value → List Char
  | [] => []
  | v :: rest => "\n    ".toList ++ v.write ++ ',' :: writeItems rest

def writeInline (first : Bool) : List (String × Value) → List Char
  | [] => []
  | (key, v) :: rest =>
      (if first then [' '] else [',', ' ']) ++ writeKey key ++ " = ".toList ++ v.write ++
        writeInline false rest
end

/-- A field on its line; tables have none. -/
def writeField (key : String) : Value → List Char
  | .table _ => []
  | v => writeKey key ++ " = ".toList ++ v.write ++ ['\n']

/-- The header of a table and its values, unless it has nothing but tables. The
    whole document has no header. -/
def section? (path : List (List Char)) (fields : List (String × Value)) : List (List Char) :=
  let lines := fields.flatMap fun field => writeField field.1 field.2
  let header := '[' :: List.intercalate ['.'] path ++ [']', '\n']
  if path.isEmpty then (if lines.isEmpty then [] else [lines])
  else if lines.isEmpty && !fields.isEmpty then []
  else [header ++ lines]

mutual
/-- The sections of a table and of those inside of it. -/
def Value.sections (path : List (List Char)) : Value → List (List Char)
  | .table fields => section? path fields ++ fieldSections path fields
  | _ => []

def fieldSections (path : List (List Char)) : List (String × Value) → List (List Char)
  | [] => []
  | (key, v) :: rest => v.sections (path ++ [writeKey key]) ++ fieldSections path rest
end

/-- The text of a document, with blank lines between its tables. -/
def render (fields : List (String × Value)) : String :=
  String.ofList (List.intercalate ['\n'] ((Value.table fields).sections []))

end Superstep.Toml
