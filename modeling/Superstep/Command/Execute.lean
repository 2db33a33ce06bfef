import Superstep.Command.FileTree
import Superstep.Command.Help
import Superstep.Config.Read
import Superstep.Executor.Create
import Superstep.Executor.Schedule
import Superstep.Toml.Writer
import Superstep.Workflow.Wire

/-! # The program

What the program does for its arguments, given a way to read files and to run
other programs. Results go to the standard output; progress, violations and
errors are notices for the standard error.
-/

namespace Superstep.Command

open Json (Value)

/-- A line for the standard error. -/
inductive Notice where
  | misuse
  | violation (v : Violation)
  /-- Something that happens in a run, with the time of day in front. -/
  | progress (text : String)
  | failure (message : String)

def Notice.line (clock : String) : Notice → String
  | .misuse => "error: wrong arguments\n\nFor more information, try '--help'."
  | .violation v => "  - " ++ v.message
  | .progress text => clock ++ " " ++ text
  | .failure message => "Error: " ++ message

/-- What the program does. -/
structure Outcome where
  code : Nat
  output : String
  notices : List Notice

namespace Outcome

def success (output : String) : Outcome :=
  ⟨0, output, []⟩

/-- A failure without output. -/
def failure (message : String) : Outcome :=
  ⟨1, "", [.failure message]⟩

def misuse : Outcome :=
  ⟨2, "", [.misuse]⟩

def breakdown : Outcome :=
  ⟨101, "", []⟩

end Outcome

def excerpt (limit : Nat) (s : String) : String :=
  if s.length ≤ limit then s else String.ofList (s.toList.take limit) ++ "..."

/-- The longest part of an error that is shown as progress. -/
def shownError : Nat := 200

/-- What is shown of an event while a run goes on. -/
def progressOf : Event → Option String
  | .stepStarted _ step nodes =>
      some ("[step " ++ toString step ++ "] " ++ ", ".intercalate nodes)
  | .nodeSucceeded _ nodeId attempt elapsed =>
      some ("[" ++ nodeId ++ ": ok] attempt " ++ toString attempt ++ ", " ++ toString elapsed ++
        "ms")
  | .nodeFailed _ nodeId _ _ error =>
      some ("[" ++ nodeId ++ ": ERROR] " ++ excerpt shownError error)
  | _ => none

/-- One entry of metadata from an argument `key=value`. The value is taken as
    JSON if it is, and as text otherwise. -/
def metadataEntry (argument : String) : Except String (String × Value) :=
  let cs := argument.toList
  match cs.dropWhile (· != '=') with
  | _ :: value =>
      let raw := String.ofList value
      .ok (Text.trim (String.ofList (cs.takeWhile (· != '='))),
        match Json.parse raw with
        | .ok v => v
        | .error _ => .string raw)
  | [] => .error ("--meta expects key=value, got '" ++ argument ++ "'")

/-- Metadata from arguments; of equal keys the last one wins. -/
def parseMetadata : List String → Except String Metadata
  | arguments => (arguments.mapM metadataEntry).map KeyMap.ofList

/-- The configuration in a file, which is the usual one if there is no file. -/
def loadConfiguration (read : Reader) (lookup : String → Option String) (path : String) :
    Except String Configuration :=
  match read path with
  | .error _ => .ok {}
  | .ok text =>
      match Configuration.parse lookup text with
      | .ok c => .ok c
      | .error fault => .error (Failure.config fault).message

def loadWorkflow (read : Reader) (path : String) : Except String Workflow :=
  match read path with
  | .error fault => .error ("cannot read " ++ path ++ ": " ++ fault.message)
  | .ok text =>
      match Workflow.parse text with
      | .ok w => .ok w
      | .error e => .error (Failure.json e).message

/-- The pool for a dry run: every task type of a workflow is echoed. -/
def dryPool {σ : Type} (w : Workflow) : Pool σ :=
  w.nodes.foldl
    (fun p n =>
      if (p.get? n.taskType).isSome then p else p.register n.taskType (.echo n.taskType))
    .empty

def poolFor {σ : Type} (launcher : Launcher σ) (c : Configuration) (w : Workflow)
    (dryRun : Bool) : Except String (Pool σ) :=
  if dryRun then .ok (dryPool w)
  else
    match Pool.ofConfiguration launcher c with
    | .ok p => .ok p
    | .error fault => .error (Failure.config fault).message

def report (run : Run) (json : Bool) : Outcome :=
  let result := run.result
  let output := (if json then result.toJson.pretty else result.finalAnswer) ++ "\n"
  let progress := if json then [] else run.events.filterMap fun e => (progressOf e).map .progress
  match result.error with
  | none => ⟨0, output, progress⟩
  | some error => ⟨1, output, progress ++ [.failure ("workflow failed: " ++ error)]⟩

def validateWorkflow (read : Reader) (path : String) : Outcome :=
  match loadWorkflow read path with
  | .error message => .failure message
  | .ok w =>
      match w.violations with
      | [] =>
          .success (path ++ ": ok (" ++ toString w.nodes.length ++ " nodes, " ++
            toString w.edges.length ++ " edges, " ++ w.startNode ++ " -> " ++ w.endNode ++ ")\n")
      | violations =>
          ⟨1, "", violations.map .violation ++
            [.failure (Failure.invalidWorkflow violations).message]⟩

def showConfiguration (read : Reader) (lookup : String → Option String) (path : String) :
    Outcome :=
  match loadConfiguration read lookup path with
  | .error message => .failure message
  | .ok c => .success (Toml.render c.toToml ++ "\n")

/-- What a run needs: its engine, its workflow and its metadata. -/
def prepareRun {σ : Type} (read : Reader) (lookup : String → Option String)
    (launcher : Launcher σ) (configPath path : String) (arguments : List String)
    (dryRun verbose : Bool) :
    Except String (Engine (Site σ) (Executor σ) × Workflow × Metadata) := do
  let c ← loadConfiguration read lookup configPath
  let w ← loadWorkflow read path
  let metadata ← parseMetadata arguments
  let pool ← poolFor launcher c w dryRun
  let settings := { c.engine with verbose := c.engine.verbose || verbose }
  .ok (pool.engine settings, w, metadata)

def execute {σ : Type} (read : Reader) (lookup : String → Option String)
    (launcher : Launcher σ) (world : σ) (runId : String) (args : List String) : σ × Outcome :=
  match parseArguments (lookup configVariable) args with
  | .error .misuse => (world, .misuse)
  | .error .version => (world, .success (versionLine ++ "\n"))
  | .error (.help subcommand) =>
      (world, .success (writtenHelp lookup subcommand))
  | .ok ⟨configPath, verbose, order⟩ =>
      match order with
      | .validate path => (world, validateWorkflow read path)
      | .config => (world, showConfiguration read lookup configPath)
      | .run path prompt arguments json dryRun =>
          match prepareRun read lookup launcher configPath path arguments dryRun verbose with
          | .error message => (world, .failure message)
          | .ok (engine, w, metadata) =>
              match engine.run? w runId prompt metadata ⟨[], world⟩ with
              | (site, some run) => (site.world, report run json)
              | (site, none) => (site.world, .breakdown)

end Superstep.Command
