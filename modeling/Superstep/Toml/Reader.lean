import Superstep.Toml.Moment
import Superstep.Toml.Table

/-! # Reading TOML

A document is a sequence of lines: blank ones, headers, and keys with values.
Each line changes the table under construction, and one that must not do so
makes the document wrong, as does any character out of place.
-/

namespace Superstep.Toml

/-- A line that says something. -/
inductive Statement where
  | table (path : List String)
  /-- A header that opens one more table of an array. -/
  | element (path : List String)
  /-- A key and its value, in the table of the last header. -/
  | assign (key : List String) (value : Value)

namespace Reader

open Scalar (skipSpace afterBreak? isPrintable)

/-- Whether a character may stand in a key without quotes. -/
def isBare (c : Char) : Bool :=
  c.isAlphanum || c == '_' || c == '-'

def keyPart : List Char → Scan String
  | '"' :: rest => Scalar.basic rest
  | '\'' :: rest => Scalar.literal rest
  | cs =>
      let part := cs.takeWhile isBare
      if part.isEmpty then none else some (String.ofList part, cs.dropWhile isBare)

/-- A key, which may have parts with dots between them. At most `fuel` parts. -/
def keyParts : Nat → List Char → Option (List String × List Char)
  | 0, _ => none
  | fuel + 1, cs => do
      let (part, rest) ← keyPart (skipSpace cs)
      match skipSpace rest with
      | '.' :: rest =>
          let (parts, rest) ← keyParts fuel rest
          some (part :: parts, rest)
      | rest => some ([part], rest)

/-- The most parts a key may have. -/
def maxParts : Nat := 79

def key (cs : List Char) : Scan (List String) :=
  keyParts maxParts cs

/-- The end of a line, perhaps after a comment. -/
def lineEnd (cs : List Char) : Option (List Char) :=
  let rest :=
    match skipSpace cs with
    | '#' :: rest => rest.dropWhile isPrintable
    | rest => rest
  if rest.isEmpty then some [] else afterBreak? rest

/-- Skip spaces, line breaks and comments, at most `fuel` of them. -/
def skipFiller : Nat → List Char → List Char
  | 0, cs => cs
  | fuel + 1, cs =>
      match skipSpace cs with
      | '#' :: rest =>
          match afterBreak? (rest.dropWhile isPrintable) with
          | some rest => skipFiller fuel rest
          | none => '#' :: rest
      | rest =>
          match afterBreak? rest with
          | some rest => skipFiller fuel rest
          | none => rest

/-- Skip everything that may stand between the items of an array. -/
def filler (cs : List Char) : List Char :=
  skipFiller (cs.length + 1) cs

def word (letters : List Char) (v : Value) (cs : List Char) : Scan Value :=
  if letters.isPrefixOf cs then some (v, cs.drop letters.length) else none

def numeral (cs : List Char) : Scan Value :=
  Moment.moment cs <|> Scalar.decimalFloat cs <|> Scalar.specialFloat cs <|> Scalar.integer cs

/-- The fields of a table that is written as a value. -/
def inlineTable (pairs : List (List String × Value)) : Option Value :=
  (pairs.foldlM (fun fields pair => Fields.assignDotted pair.2 pair.1 fields) []).map
    fun fields => .table (Fields.toValues fields)

mutual
/-- A value with at most `left` containers inside of each other. At most `fuel`
    nested steps, which the length of the text bounds. -/
def value : Nat → Nat → List Char → Option (Value × List Char)
  | 0, _, _ => none
  | fuel + 1, left, cs =>
      match cs, left with
      | '"' :: _, _ => (Scalar.text cs).map fun (s, rest) => (.string s, rest)
      | '\'' :: _, _ => (Scalar.text cs).map fun (s, rest) => (.string s, rest)
      | '[' :: rest, left + 1 => do
          let (items, rest) ← items fuel left rest
          some (.array items, rest)
      | '\x7b' :: rest, left + 1 => do
          let (pairs, rest) ← pairs fuel left true rest
          let v ← inlineTable pairs
          some (v, rest)
      | 't' :: _, _ => word ['t', 'r', 'u', 'e'] (.bool true) cs
      | 'f' :: _, _ => word ['f', 'a', 'l', 's', 'e'] (.bool false) cs
      | _, _ => numeral cs

/-- The items of an array, after its bracket or a comma. -/
def items : Nat → Nat → List Char → Option (List Value × List Char)
  | 0, _, _ => none
  | fuel + 1, left, cs =>
      match filler cs with
      | ']' :: rest => some ([], rest)
      | cs => do
          let (v, rest) ← value fuel left cs
          match filler rest with
          | ',' :: rest =>
              let (vs, rest) ← items fuel left rest
              some (v :: vs, rest)
          | ']' :: rest => some ([v], rest)
          | _ => none

/-- The fields of a table that is written as a value, after its brace or a
    comma. The brace may close it at once, a comma may not be the last. -/
def pairs : Nat → Nat → Bool → List Char → Option (List (List String × Value) × List Char)
  | 0, _, _, _ => none
  | fuel + 1, left, first, cs =>
      match skipSpace cs, first with
      | '\x7d' :: rest, true => some ([], rest)
      | cs, _ => do
          let (path, rest) ← key cs
          match rest with
          | '=' :: rest =>
              let (v, rest) ← value fuel left (skipSpace rest)
              match skipSpace rest with
              | ',' :: rest =>
                  let (more, rest) ← pairs fuel left false rest
                  some ((path, v) :: more, rest)
              | '\x7d' :: rest => some ([(path, v)], rest)
              | _ => none
          | _ => none
end

def maxNesting : Nat := 79

def statement (cs : List Char) : Option (Statement × List Char) := do
  let (s, rest) ←
    match cs with
    | '[' :: '[' :: rest => do
        let (path, rest) ← key rest
        match rest with
        | ']' :: ']' :: rest => some (Statement.element path, rest)
        | _ => none
    | '[' :: rest => do
        let (path, rest) ← key rest
        match rest with
        | ']' :: rest => some (Statement.table path, rest)
        | _ => none
    | cs => do
        let (path, rest) ← key cs
        match rest with
        | '=' :: rest =>
            let (v, rest) ← value (2 * rest.length + 2) maxNesting (skipSpace rest)
            some (Statement.assign path v, rest)
        | _ => none
  let rest ← lineEnd rest
  some (s, rest)

/-- The statements of a document, at most `fuel` lines of them. -/
def statements : Nat → List Char → Option (List Statement)
  | 0, _ => none
  | fuel + 1, cs =>
      match skipSpace cs with
      | [] => some []
      | '#' :: rest => do
          let rest ← lineEnd ('#' :: rest)
          statements fuel rest
      | rest =>
          match afterBreak? rest with
          | some rest => statements fuel rest
          | none => do
              let (s, rest) ← statement rest
              let more ← statements fuel rest
              some (s :: more)

end Reader

/-- A document under construction: its fields, and the path of the table that
    was opened last. -/
structure Document where
  fields : Fields
  path : List String

namespace Document

def add (d : Document) : Statement → Option Document
  | .table path => do
      let key ← path.getLast?
      let fields ← d.fields.atPath (Fields.openTable key) path.dropLast
      some ⟨fields, path⟩
  | .element path => do
      let key ← path.getLast?
      let fields ← d.fields.atPath (Fields.openElement key) path.dropLast
      some ⟨fields, path⟩
  | .assign key v => do
      let fields ← d.fields.atPath (Fields.assignDotted v key) d.path
      some { d with fields := fields }

def ofStatements (statements : List Statement) : Option Document :=
  statements.foldlM add ⟨[], []⟩

end Document

/-- The fields of the document that a text spells. A mark of the byte order in
    front is skipped. -/
def parse (text : String) : Option (List (String × Value)) := do
  let cs :=
    match text.toList with
    | '\ufeff' :: rest => rest
    | cs => cs
  let statements ← Reader.statements (cs.length + 1) cs
  let d ← Document.ofStatements statements
  some (Fields.toValues d.fields)

end Superstep.Toml
