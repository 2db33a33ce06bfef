import Superstep.Config.Wire
import Superstep.Failure
import Superstep.Toml.Reader

/-! # Reading configurations

A configuration is a TOML text in which references to variables are replaced
before anything else. What it says has to make sense: runs need at least one
step, programs a path, and the default task type an executor.
-/

namespace Superstep

/-- What stands in place of a reference: the value of its variable, or the
    reference itself if that is not set. -/
def replacement (lookup : String → Option String) (name : List Char) : List Char :=
  match lookup (String.ofList name) with
  | some value => value.toList
  | none => '$' :: '\x7b' :: name ++ ['\x7d']

mutual
def expandChars (lookup : String → Option String) : List Char → List Char
  | [] => []
  | '$' :: '\x7b' :: rest => expandName lookup [] rest
  | c :: rest => c :: expandChars lookup rest

/-- Replace a reference whose name goes on; `name` is its beginning, the last
    character first. A reference without an end has the rest of the text as its
    name. -/
def expandName (lookup : String → Option String) (name : List Char) : List Char → List Char
  | [] => replacement lookup name.reverse
  | '\x7d' :: rest => replacement lookup name.reverse ++ expandChars lookup rest
  | c :: rest => expandName lookup (c :: name) rest
end

/-- A text with the values of variables in place of references to them. Values
    are not searched for references again. -/
def expandReferences (lookup : String → Option String) (text : String) : String :=
  String.ofList (expandChars lookup text.toList)

mutual
/-- The names of the variables that characters refer to, in order. -/
def namesInChars : List Char → List String
  | [] => []
  | '$' :: '\x7b' :: rest => namesInName [] rest
  | _ :: rest => namesInChars rest

/-- The names from within a reference; `name` is the beginning of its name, the
    last character first. -/
def namesInName (name : List Char) : List Char → List String
  | [] => [String.ofList name.reverse]
  | '\x7d' :: rest => String.ofList name.reverse :: namesInChars rest
  | c :: rest => namesInName (c :: name) rest
end

/-- The names of the variables that a text refers to. No other variable matters
    to what `expandReferences` makes of it. -/
def referencedNames (text : String) : List String :=
  namesInChars text.toList

namespace Configuration

/-- Whether an executor is meant to run a program and has none. -/
def lacksProgram (s : ExecutorSettings) : Bool :=
  s.kind == .command && s.program.isNone

/-- The first thing that is wrong with a configuration. -/
def fault? (c : Configuration) : Option ConfigFault :=
  if c.engine.maxSteps = 0 then some .zeroSteps
  else
    match c.executors.entries.find? (fun entry => lacksProgram entry.2) with
    | some (taskType, _) => some (.programMissing taskType)
    | none =>
        match c.engine.defaultTaskType with
        | some taskType =>
            if c.executors.contains taskType then none else some (.defaultMissing taskType)
        | none => none

/-- The configuration that a text spells as it stands, whether or not it makes sense. -/
def decode? (text : String) : Option Configuration := do
  let fields ← Toml.parse text
  (decoder .toml (Toml.Value.table fields).toDraft).toOption

/-- The configuration that a text spells as it stands, if it makes sense. -/
def ofText (text : String) : Except ConfigFault Configuration :=
  match decode? text with
  | none => .error .unreadable
  | some c =>
      match c.fault? with
      | some fault => .error fault
      | none => .ok c

/-- The configuration that a text spells, given the values of variables. -/
def parse (lookup : String → Option String) (text : String) :
    Except ConfigFault Configuration :=
  ofText (expandReferences lookup text)

end Configuration

end Superstep
