import Superstep.Command.Execute

/-! # The command line program

Everything that touches the world stands here. The files that the arguments name
and the variables that matter are read first, then `Command.execute` decides what
there is to write and with which code to end.

No program is started from here: a task that needs one fails.
-/

namespace Superstep.Main

def pathsOf (r : Command.Request) : List String :=
  match r.order with
  | .run workflow .. => [r.configPath, workflow]
  | .validate workflow => [workflow]
  | .config => [r.configPath]

def faultOf : IO.Error → ReadFault
  | .noFileOrDirectory .. => .missing
  | .inappropriateType _ code _ => if code = 21 then .directory else .throughFile
  | .invalidArgument _ _ "name too long" => .nameTooLong
  | e => .other (toString e)

def readPath (path : String) : IO (Except ReadFault String) := do
  try
    return .ok (← IO.FS.readFile path)
  catch e =>
    return .error (faultOf e)

def readAll (paths : List String) : IO (KeyMap (Except ReadFault String)) := do
  return .ofList (← paths.mapM fun path => return (path, ← readPath path))

def reader (files : KeyMap (Except ReadFault String)) : Reader := fun path =>
  (files.get? path).getD (.error .missing)

/-- The variables that are set among those of the given names. -/
def readVariables (names : List String) : IO (KeyMap String) := do
  let found ← names.mapM fun name => return (← IO.getEnv name).map fun value => (name, value)
  return .ofList (found.filterMap id)

/-- The names of the variables that what has been read refers to. -/
def namesIn (files : KeyMap (Except ReadFault String)) : List String :=
  files.entries.flatMap fun file =>
    match file.2 with
    | .ok text => referencedNames text
    | .error _ => []

def refuse : Launcher Unit := fun launch world =>
  (world, .error (.task launch.taskType ("failed to spawn " ++ launch.program)))

def hexadecimal (bytes : ByteArray) : String :=
  String.ofList (bytes.toList.flatMap fun b =>
    [Nat.digitChar (b.toNat / 16), Nat.digitChar (b.toNat % 16)])

def twoDigits (n : Nat) : String :=
  String.ofList [Nat.digitChar (n / 10 % 10), Nat.digitChar (n % 10)]

/-- Hours, minutes and seconds of a duration in milliseconds. -/
def clockText (milliseconds : Nat) : String :=
  let seconds := milliseconds / 1000
  ":".intercalate [twoDigits (seconds / 3600 % 24), twoDigits (seconds / 60 % 60),
    twoDigits (seconds % 60)]

end Superstep.Main

open Superstep Superstep.Main in
/-- Do what the arguments say. Times count from the start of the program. -/
def main (args : List String) : IO UInt32 := do
  let start ← IO.monoMsNow
  let path ← IO.getEnv Command.configVariable
  let paths :=
    match Command.parseArguments path args with
    | .ok request => pathsOf request
    | .error _ => []
  let files ← readAll paths
  let environment ← readVariables (Command.configVariable ::
    Command.plainVariable :: Command.forcingVariable :: namesIn files)
  let runId := hexadecimal (← IO.getRandomBytes 16)
  let (_, outcome) := Command.execute (reader files) environment.get? refuse () runId args
  (← IO.getStdout).putStr outcome.output
  let clock := clockText ((← IO.monoMsNow) - start)
  let errors ← IO.getStderr
  for notice in outcome.notices do
    errors.putStrLn (notice.line clock)
  return outcome.code.toUInt32
