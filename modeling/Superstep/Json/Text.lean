import Superstep.Binary64.Layout
import Superstep.Json.Value

/-! # JSON text

Values written as JSON, without any space or over several lines with an
indentation of two. Text escapes only what it has to: quotes, backslashes and
control characters below the space.
-/

namespace Superstep.Json

def escapeChar (c : Char) : List Char :=
  match c with
  | '"' => ['\\', '"']
  | '\\' => ['\\', '\\']
  | '\x08' => ['\\', 'b']
  | '\x0c' => ['\\', 'f']
  | '\n' => ['\\', 'n']
  | '\r' => ['\\', 'r']
  | '\t' => ['\\', 't']
  | c => if c < ' ' then ['\\', 'u'] ++ Text.paddedHex 4 c.toNat else [c]

def writeString (s : String) : List Char :=
  '"' :: s.toList.flatMap escapeChar ++ ['"']

def Number.write : Number → List Char
  | .integer i =>
      if i < 0 then '-' :: Text.decimalDigits i.natAbs else Text.decimalDigits i.natAbs
  | .float x => Layout.json.write x

def openObject : Char := '\x7b'

def closeObject : Char := '\x7d'

namespace Value

mutual
/-- A value without spaces. -/
def write : Value → List Char
  | .null => "null".toList
  | .bool true => "true".toList
  | .bool false => "false".toList
  | .number n => n.write
  | .string s => writeString s
  | .array items => '[' :: writeItems true items ++ [']']
  | .object fields => openObject :: writeFields true fields ++ [closeObject]

def writeItems (first : Bool) : List Value → List Char
  | [] => []
  | item :: rest => (if first then [] else [',']) ++ item.write ++ writeItems false rest

def writeFields (first : Bool) : List (String × Value) → List Char
  | [] => []
  | (key, value) :: rest =>
      (if first then [] else [',']) ++ writeString key ++ ':' :: value.write ++
        writeFields false rest
end

def newLine (depth : Nat) : List Char :=
  '\n' :: List.replicate (2 * depth) ' '

mutual
/-- A value with every item and field on its own line. -/
def writeLines (depth : Nat) : Value → List Char
  | .array [] => ['[', ']']
  | .array items => '[' :: itemLines (depth + 1) true items ++ newLine depth ++ [']']
  | .object [] => [openObject, closeObject]
  | .object fields =>
      openObject :: fieldLines (depth + 1) true fields ++ newLine depth ++ [closeObject]
  | .null => "null".toList
  | .bool true => "true".toList
  | .bool false => "false".toList
  | .number n => n.write
  | .string s => writeString s

/-- Items on lines of their own. -/
def itemLines (depth : Nat) (first : Bool) : List Value → List Char
  | [] => []
  | item :: rest =>
      (if first then [] else [',']) ++ newLine depth ++ item.writeLines depth ++
        itemLines depth false rest

/-- Fields on lines of their own. -/
def fieldLines (depth : Nat) (first : Bool) : List (String × Value) → List Char
  | [] => []
  | (key, value) :: rest =>
      (if first then [] else [',']) ++ newLine depth ++ writeString key ++ [':', ' '] ++
        value.writeLines depth ++ fieldLines depth false rest
end

/-- The text of a value without spaces. -/
def compact (v : Value) : String :=
  String.ofList v.write

def pretty (v : Value) : String :=
  String.ofList (v.writeLines 0)

end Value

end Superstep.Json
