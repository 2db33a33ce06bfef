import Superstep.KeyMap

/-! # Command line arguments

The arguments of one level of a command line are options, which start with a
dash, and operands. Reading stops at the first problem, or where help or the
version is asked for.
-/

namespace Superstep.Command

/-- What an option takes. -/
inductive Taking where
  | nothing
  /-- A text, which may be empty. -/
  | text
  /-- Like a text, and the option may be repeated. -/
  | texts
  /-- The path of a file, which is not empty. -/
  | path
  deriving DecidableEq

/-- An option by its long name and its letter. -/
structure Switch where
  name : String
  letter : Option Char
  taking : Taking

/-- Why arguments are not read to their end. -/
inductive Stop where
  | misuse
  /-- Help is asked for, about a subcommand or about everything. -/
  | help (subcommand : Option String)
  | version
  deriving DecidableEq

/-- One level of a command line. -/
structure Level where
  /-- The subcommand, unless it is the top level. -/
  subcommand : Option String
  switches : List Switch
  subcommands : List String
  operands : Nat

/-- What has been read at one level. -/
structure Reading where
  /-- The options with their values, in order. -/
  options : List (String × String)
  /-- An option with the argument after it as its value, not yet looked at. -/
  held : Option (Switch × String)
  operands : List String
  next : Option (String × List String)

namespace Reading

def empty : Reading := ⟨[], none, [], none⟩

def has (r : Reading) (name : String) : Bool :=
  r.options.any (·.1 == name)

def value? (r : Reading) (name : String) : Option String :=
  r.options.lookup name

def values (r : Reading) (name : String) : List String :=
  (r.options.filter (·.1 == name)).map Prod.snd

/-- Take note of an option. Most options may be given once. -/
def addOption (r : Reading) (s : Switch) (value : String) : Except Stop Reading :=
  if s.taking ≠ .texts ∧ r.has s.name then .error .misuse
  else if s.taking = .path ∧ value.isEmpty then .error .misuse
  else .ok { r with options := r.options ++ [(s.name, value)] }

/-- Look at the option that is held. This is put off until the next option or
    operand or the end of all arguments, so that help on a subcommand comes
    before what is wrong with the option in front of it. -/
def settle (r : Reading) : Except Stop Reading :=
  match r.held with
  | some (s, value) => { r with held := none }.addOption s value
  | none => .ok r

end Reading

namespace Level

/-- Take note of an operand, which is a path. -/
def addOperand (level : Level) (r : Reading) (operand : String) : Except Stop Reading :=
  if r.operands.length < level.operands ∧ !operand.isEmpty then
    .ok { r with operands := r.operands ++ [operand] }
  else .error .misuse

def addOperands (level : Level) : Reading → List String → Except Stop Reading
  | r, [] => .ok r
  | r, operand :: rest => do
      let r ← level.addOperand r operand
      level.addOperands r rest

def stop? (level : Level) (name : String) (letter : Option Char) : Option Stop :=
  if name = "help" ∨ letter = some 'h' then some (.help level.subcommand)
  else if level.subcommand.isNone ∧ (name = "version" ∨ letter = some 'V') then some .version
  else none

/-- An option whose value has to follow. -/
abbrev Waiting := Option Switch

/-- A long option: its name, and a value after an equality sign. -/
def readLong (level : Level) (r : Reading) (cs : List Char) : Except Stop (Reading × Waiting) :=
  let name := String.ofList (cs.takeWhile (· != '='))
  let attached :=
    match cs.dropWhile (· != '=') with
    | _ :: value => some (String.ofList value)
    | [] => none
  match level.switches.find? (·.name == name), attached with
  | some s, none =>
      if s.taking = .nothing then (r.addOption s "").map fun r => (r, none)
      else .ok (r, some s)
  | some s, some value =>
      if s.taking = .nothing then .error .misuse
      else (r.addOption s value).map fun r => (r, none)
  | none, none => .error ((level.stop? name none).getD .misuse)
  | none, some _ => .error .misuse

/-- Letters after a single dash. A letter that takes a value takes the rest of
    them, after an equality sign if there is one. -/
def readLetters (level : Level) (r : Reading) : List Char → Except Stop (Reading × Waiting)
  | [] => .ok (r, none)
  | c :: rest =>
      match level.switches.find? (·.letter == some c) with
      | none => .error ((level.stop? "" (some c)).getD .misuse)
      | some s =>
          if s.taking = .nothing then do
            let r ← r.addOption s ""
            level.readLetters r rest
          else
            match rest with
            | [] => .ok (r, some s)
            | '=' :: value => (r.addOption s (String.ofList value)).map fun r => (r, none)
            | value => (r.addOption s (String.ofList value)).map fun r => (r, none)

/-- Read the arguments of a level. An option that waits for its value takes the
    next argument, unless that starts with a dash and more. -/
def read (level : Level) : Reading → Waiting → List String → Except Stop Reading
  | r, none, [] => .ok r
  | _, some _, [] => .error .misuse
  | r, waiting, arg :: rest =>
      match arg.toList, waiting with
      | '-' :: _ :: _, some _ => .error .misuse
      | _, some s => level.read { r with held := some (s, arg) } none rest
      | ['-', '-'], none => do
          let r ← r.settle
          level.addOperands r rest
      | '-' :: '-' :: cs, none => do
          let r ← r.settle
          let (r, waiting) ← level.readLong r cs
          level.read r waiting rest
      | '-' :: c :: cs, none => do
          let r ← r.settle
          let (r, waiting) ← level.readLetters r (c :: cs)
          level.read r waiting rest
      | _, none =>
          if level.subcommands.contains arg then .ok { r with next := some (arg, rest) }
          else do
            let r ← r.settle
            let r ← level.addOperand r arg
            level.read r none rest

end Level

/-- What the program is told to do. -/
inductive Order where
  | run (workflow prompt : String) (metadata : List String) (json dryRun : Bool)
  | validate (workflow : String)
  | config
  deriving DecidableEq

/-- What arguments say. -/
structure Request where
  configPath : String
  verbose : Bool
  order : Order
  deriving DecidableEq

def programName : String :=
  "taskgraph"

/-- The path of the configuration unless another one is given. -/
def defaultConfigPath : String :=
  "taskgraph.toml"

/-- The prompt unless another one is given. -/
def defaultPrompt : String :=
  ""

def configVariable : String :=
  "TASKGRAPH_CONFIG"

def verboseSwitch : Switch :=
  ⟨"verbose", some 'v', .nothing⟩

def topLevel : Level where
  subcommand := none
  switches := [⟨"config", some 'c', .path⟩, verboseSwitch]
  subcommands := ["run", "validate", "config", "help"]
  operands := 0

def levelOf (subcommand : String) : Level :=
  if subcommand = "run" then {
    subcommand := some subcommand
    switches := [
      ⟨"prompt", some 'p', .text⟩, ⟨"meta", some 'm', .texts⟩, ⟨"json", none, .nothing⟩,
      ⟨"dry-run", none, .nothing⟩, verboseSwitch]
    subcommands := []
    operands := 1 }
  else {
    subcommand := some subcommand
    switches := [verboseSwitch]
    subcommands := []
    operands := if subcommand = "validate" then 1 else 0 }

def orderOf (subcommand : String) (r : Reading) : Except Stop Order :=
  match subcommand, r.operands with
  | "run", [workflow] =>
      .ok (.run workflow ((r.value? "prompt").getD defaultPrompt) (r.values "meta") (r.has "json")
        (r.has "dry-run"))
  | "validate", [workflow] => .ok (.validate workflow)
  | "config", [] => .ok .config
  | _, _ => .error .misuse

def helpOn : List String → Stop
  | [] => .help none
  | [subcommand] =>
      if topLevel.subcommands.contains subcommand then .help (some subcommand) else .misuse
  | _ => .misuse

/-- The path of the configuration: the option, else the variable, else the
    usual one. -/
def configPathOf (configured : Option String) (r : Reading) : Except Stop String :=
  match r.value? "config", configured with
  | some path, _ => .ok path
  | none, some path => if path.isEmpty then .error .misuse else .ok path
  | none, none => .ok defaultConfigPath

/-- What arguments say, given the value of the variable for the configuration. -/
def parseArguments (configured : Option String) (args : List String) : Except Stop Request := do
  let top ← topLevel.read .empty none args
  match top.next with
  | none => .error .misuse
  | some ("help", rest) => .error (helpOn rest)
  | some (subcommand, rest) =>
      let inner ← (levelOf subcommand).read .empty none rest
      let inner ← inner.settle
      let top ← top.settle
      let configPath ← configPathOf configured top
      let order ← orderOf subcommand inner
      .ok ⟨configPath, top.has "verbose" || inner.has "verbose", order⟩

end Superstep.Command
