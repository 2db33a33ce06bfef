import Superstep.Config.Settings
import Superstep.Json.Decode
import Superstep.Toml.Value

/-! # Configurations as JSON and TOML

All fields have defaults, and fields that are not known are skipped. The two
formats differ in little: after the fields of a record that is written as an
array TOML ignores further items, and a kind that is written as a table with one
key has to have an empty value in TOML and null in JSON.
-/

namespace Superstep

open Json (Value Draft Items Members Decoder DecodeError RecordField)

/-- Where the formats of a configuration differ. -/
structure Dialect where
  /-- Whether items after the fields of a record are ignored. -/
  surplus : Bool
  isUnit : Draft → Bool

def Dialect.json : Dialect where
  surplus := false
  isUnit
    | .null => true
    | _ => false

def Dialect.toml : Dialect where
  surplus := true
  isUnit
    | .array .close => true
    | .object .close => true
    | _ => false

/-- The key under which a moment is found by those who look for a table. -/
def momentKey : String :=
  "$__toml_private_datetime"

mutual
/-- The draft of a TOML value. A moment is a table with its text. -/
def Toml.Value.toDraft : Toml.Value → Draft
  | .string s => .string (some s)
  | .integer i => .number (some (.integer i))
  | .float (.ok x) => .number (some (.float x))
  | .float (.error _) => .number none
  | .bool b => .bool b
  | .moment text => .object (.member (some momentKey) (.string (some text)) .close)
  | .array items => .array (Toml.itemsDraft items)
  | .table fields => .object (Toml.fieldsDraft fields)

def Toml.itemsDraft : List Toml.Value → Items
  | [] => .close
  | v :: rest => .item v.toDraft (Toml.itemsDraft rest)

def Toml.fieldsDraft : List (String × Toml.Value) → Members
  | [] => .close
  | (key, v) :: rest => .member (some key) v.toDraft (Toml.fieldsDraft rest)
end

namespace EngineSettings

/-- Settings of which some have been read. -/
structure Parts where
  maxConcurrency : Option Nat := none
  maxSteps : Option Nat := none
  placeholder : Option String := none
  defaultTaskType : Option (Option String) := none
  verbose : Option Bool := none

def wireFields : List (RecordField Parts) := [
  .of ["max_concurrency"] (·.maxConcurrency) (fun p v => { p with maxConcurrency := some v })
    (Draft.asNatural 64),
  .of ["max_steps"] (·.maxSteps) (fun p v => { p with maxSteps := some v }) (Draft.asNatural 64),
  .of ["output_placeholder"] (·.placeholder) (fun p v => { p with placeholder := some v })
    Draft.asString,
  .of ["default_task_type"] (·.defaultTaskType) (fun p v => { p with defaultTaskType := some v })
    (Draft.asOptional Draft.asString),
  .of ["verbose"] (·.verbose) (fun p v => { p with verbose := some v }) Draft.asBool]

/-- The settings that were read, and defaults for the others. -/
def ofParts (p : Parts) : EngineSettings :=
  let default : EngineSettings := {}
  { maxConcurrency := p.maxConcurrency.getD default.maxConcurrency
    maxSteps := p.maxSteps.getD default.maxSteps
    placeholder := p.placeholder.getD default.placeholder
    defaultTaskType := p.defaultTaskType.getD default.defaultTaskType
    verbose := p.verbose.getD default.verbose }

def decoder (dialect : Dialect) : Decoder EngineSettings :=
  Draft.asRecordWith dialect.surplus wireFields {} fun p => .ok (ofParts p)

def toJson (s : EngineSettings) : Value :=
  .object [
    ("max_concurrency", .ofNat s.maxConcurrency),
    ("max_steps", .ofNat s.maxSteps),
    ("output_placeholder", .string s.placeholder),
    ("default_task_type", .ofOption s.defaultTaskType),
    ("verbose", .bool s.verbose)]

def toToml (s : EngineSettings) : Toml.Value :=
  .table <|
    [("max_concurrency", .integer s.maxConcurrency),
      ("max_steps", .integer s.maxSteps),
      ("output_placeholder", .string s.placeholder)] ++
    (s.defaultTaskType.map fun taskType => ("default_task_type", .string taskType)).toList ++
    [("verbose", .bool s.verbose)]

end EngineSettings

namespace RetryPolicy

/-- A policy of which some parts have been read. -/
structure Parts where
  maxRetries : Option Nat := none
  initialBackoff : Option Nat := none
  maxBackoff : Option Nat := none

def wireFields : List (RecordField Parts) := [
  .of ["max_retries"] (·.maxRetries) (fun p v => { p with maxRetries := some v })
    (Draft.asNatural 32),
  .of ["initial_backoff_ms"] (·.initialBackoff) (fun p v => { p with initialBackoff := some v })
    (Draft.asNatural 64),
  .of ["max_backoff_ms"] (·.maxBackoff) (fun p v => { p with maxBackoff := some v })
    (Draft.asNatural 64)]

/-- The parts that were read, and defaults for the others. -/
def ofParts (p : Parts) : RetryPolicy :=
  let default : RetryPolicy := {}
  { maxRetries := p.maxRetries.getD default.maxRetries
    initialBackoff := p.initialBackoff.getD default.initialBackoff
    maxBackoff := p.maxBackoff.getD default.maxBackoff }

def decoder (dialect : Dialect) : Decoder RetryPolicy :=
  Draft.asRecordWith dialect.surplus wireFields {} fun p => .ok (ofParts p)

def toJson (r : RetryPolicy) : Value :=
  .object [
    ("max_retries", .ofNat r.maxRetries),
    ("initial_backoff_ms", .ofNat r.initialBackoff),
    ("max_backoff_ms", .ofNat r.maxBackoff)]

def toToml (r : RetryPolicy) : Toml.Value :=
  .table [
    ("max_retries", .integer r.maxRetries),
    ("initial_backoff_ms", .integer r.initialBackoff),
    ("max_backoff_ms", .integer r.maxBackoff)]

end RetryPolicy

namespace ExecutorKind

def name : ExecutorKind → String
  | .command => "command"
  | .echo => "echo"

def ofName : String → Except DecodeError ExecutorKind
  | "command" => .ok .command
  | "echo" => .ok .echo
  | _ => .error .mismatch

def decoder (dialect : Dialect) : Decoder ExecutorKind
  | .string (some name) => ofName name
  | .object (.member (some name) content .close) =>
      if dialect.isUnit content then ofName name else .error .mismatch
  | d => .error d.wrongKind

end ExecutorKind

namespace ExecutorSettings

/-- Settings of which some have been read. -/
structure Parts where
  kind : Option ExecutorKind := none
  program : Option (Option String) := none
  arguments : Option (List String) := none
  environment : Option (KeyMap String) := none
  timeoutSeconds : Option Nat := none
  sessionCheck : Option (Option (List String)) := none
  retry : Option (Option RetryPolicy) := none

def wireFields (dialect : Dialect) : List (RecordField Parts) := [
  .of ["kind"] (·.kind) (fun p v => { p with kind := some v }) (ExecutorKind.decoder dialect),
  .of ["program"] (·.program) (fun p v => { p with program := some v })
    (Draft.asOptional Draft.asString),
  .of ["args"] (·.arguments) (fun p v => { p with arguments := some v })
    (Draft.asList Draft.asString),
  .of ["env"] (·.environment) (fun p v => { p with environment := some v })
    (Draft.asMap Draft.asString),
  .of ["timeout_secs"] (·.timeoutSeconds) (fun p v => { p with timeoutSeconds := some v })
    (Draft.asNatural 64),
  .of ["session_check"] (·.sessionCheck) (fun p v => { p with sessionCheck := some v })
    (Draft.asOptional (Draft.asList Draft.asString)),
  .of ["retry"] (·.retry) (fun p v => { p with retry := some v })
    (Draft.asOptional (RetryPolicy.decoder dialect))]

/-- The settings that were read, and defaults for the others. -/
def ofParts (p : Parts) : ExecutorSettings :=
  let default : ExecutorSettings := {}
  { kind := p.kind.getD default.kind
    program := p.program.getD default.program
    arguments := p.arguments.getD default.arguments
    environment := p.environment.getD default.environment
    timeoutSeconds := p.timeoutSeconds.getD default.timeoutSeconds
    sessionCheck := p.sessionCheck.getD default.sessionCheck
    retry := p.retry.getD default.retry }

def decoder (dialect : Dialect) : Decoder ExecutorSettings :=
  Draft.asRecordWith dialect.surplus (wireFields dialect) {} fun p => .ok (ofParts p)

def textsJson (texts : List String) : Value :=
  .array (texts.map .string)

def toJson (s : ExecutorSettings) : Value :=
  .object [
    ("kind", .string s.kind.name),
    ("program", .ofOption s.program),
    ("args", textsJson s.arguments),
    ("env", .ofMap (s.environment.map .string)),
    ("timeout_secs", .ofNat s.timeoutSeconds),
    ("session_check", match s.sessionCheck with
      | some arguments => textsJson arguments
      | none => .null),
    ("retry", match s.retry with
      | some policy => policy.toJson
      | none => .null)]

def textsToml (texts : List String) : Toml.Value :=
  .array (texts.map .string)

def toToml (s : ExecutorSettings) : Toml.Value :=
  .table <|
    [("kind", .string s.kind.name)] ++
    (s.program.map fun program => ("program", .string program)).toList ++
    [("args", textsToml s.arguments),
      ("env", .table (s.environment.map .string).entries),
      ("timeout_secs", .integer s.timeoutSeconds)] ++
    (s.sessionCheck.map fun arguments => ("session_check", textsToml arguments)).toList ++
    (s.retry.map fun policy => ("retry", policy.toToml)).toList

end ExecutorSettings

namespace Configuration

/-- A configuration of which some parts have been read. -/
structure Parts where
  engine : Option EngineSettings := none
  executors : Option (KeyMap ExecutorSettings) := none

def wireFields (dialect : Dialect) : List (RecordField Parts) := [
  .of ["engine"] (·.engine) (fun p v => { p with engine := some v })
    (EngineSettings.decoder dialect),
  .of ["executors"] (·.executors) (fun p v => { p with executors := some v })
    (Draft.asMap (ExecutorSettings.decoder dialect))]

/-- The parts that were read, and defaults for the others. -/
def ofParts (p : Parts) : Configuration :=
  ⟨p.engine.getD {}, p.executors.getD .empty⟩

def decoder (dialect : Dialect) : Decoder Configuration :=
  Draft.asRecordWith dialect.surplus (wireFields dialect) {} fun p => .ok (ofParts p)

def toJson (c : Configuration) : Value :=
  .object [
    ("engine", c.engine.toJson),
    ("executors", .ofMap (c.executors.map ExecutorSettings.toJson))]

def toToml (c : Configuration) : List (String × Toml.Value) :=
  [("engine", c.engine.toToml),
    ("executors", .table (c.executors.map ExecutorSettings.toToml).entries)]

end Configuration

end Superstep
