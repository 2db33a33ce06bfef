import Superstep.Toml.Value

/-! # Tables under construction

A document tells of a table in several places: headers open tables, and dotted
keys reach into tables below. A table under construction remembers how it came
about, because this decides about what may still be added to it.
-/

namespace Superstep.Toml

/-- How a table came about. -/
inductive Origin where
  | header
  | way
  | dots
  deriving DecidableEq

/-- What a key stands for in a table under construction. -/
inductive Item where
  | value (v : Value)
  | table (origin : Origin) (fields : List (String × Item))
  | tables (elements : List (List (String × Item)))

/-- The fields of a table under construction, in the order of their keys' first
    occurrence. -/
abbrev Fields := List (String × Item)

namespace Fields

def replace (fields : Fields) (key : String) (item : Item) : Fields :=
  fields.map fun field => if field.1 = key then (key, item) else field

/-- Change the last table of an array. -/
def inLast (f : Fields → Option Fields) (elements : List Fields) : Option (List Fields) := do
  let last ← elements.getLast?
  let last ← f last
  some (elements.dropLast ++ [last])

/-- Change the table that headers reach by a path. A table that is not there
    comes about on the way; of an array the last table is reached. -/
def atPath (f : Fields → Option Fields) : List String → Fields → Option Fields
  | [], fields => f fields
  | key :: path, fields =>
      match fields.lookup key with
      | none => (atPath f path []).map fun inner => fields ++ [(key, .table .way inner)]
      | some (.table origin inner) =>
          (atPath f path inner).map fun inner => fields.replace key (.table origin inner)
      | some (.tables elements) =>
          (inLast (atPath f path) elements).map fun elements =>
            fields.replace key (.tables elements)
      | some (.value _) => none

/-- Open a table by a header. Only a table that so far lay on the way to others
    may be opened once more. -/
def openTable (key : String) (fields : Fields) : Option Fields :=
  match fields.lookup key with
  | none => some (fields ++ [(key, .table .header [])])
  | some (.table .way inner) => some (fields.replace key (.table .header inner))
  | some _ => none

/-- Open one more table of an array by a header. -/
def openElement (key : String) (fields : Fields) : Option Fields :=
  match fields.lookup key with
  | none => some (fields ++ [(key, .tables [[]])])
  | some (.tables elements) => some (fields.replace key (.tables (elements ++ [[]])))
  | some _ => none

/-- Give a value to a key that has none. -/
def assign (key : String) (v : Value) (fields : Fields) : Option Fields :=
  match fields.lookup key with
  | none => some (fields ++ [(key, .value v)])
  | some _ => none

/-- Give a value to a dotted key, the last part of which comes first. Dotted keys
    lead through tables that no header has opened, and the table that gets the
    value has to have come about by dotted keys itself. -/
def assignDotted (v : Value) : List String → Fields → Option Fields
  | [], _ => none
  | [key], fields => fields.assign key v
  | key :: path, fields =>
      match fields.lookup key with
      | none =>
          (assignDotted v path []).map fun inner => fields ++ [(key, .table .dots inner)]
      | some (.table origin inner) =>
          if origin = .header ∨ (origin = .way ∧ path.length = 1) then none
          else
            (assignDotted v path inner).map fun inner => fields.replace key (.table origin inner)
      | some (.tables elements) =>
          if path.length = 1 then none
          else
            (inLast (assignDotted v path) elements).map fun elements =>
              fields.replace key (.tables elements)
      | some (.value _) => none

end Fields

mutual
def Item.toValue : Item → Value
  | .value v => v
  | .table _ fields => .table (Fields.toValues fields)
  | .tables elements => .array (Fields.elementValues elements)

/-- The values that the fields of a table have come to. -/
def Fields.toValues : List (String × Item) → List (String × Value)
  | [] => []
  | (key, item) :: rest => (key, item.toValue) :: Fields.toValues rest

def Fields.elementValues : List (List (String × Item)) → List Value
  | [] => []
  | fields :: rest => .table (Fields.toValues fields) :: Fields.elementValues rest
end

end Superstep.Toml
