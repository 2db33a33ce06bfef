import Superstep.Command.Arguments
import Superstep.Text.Blank
import Superstep.Text.Quoted
import Superstep.Text.Terminal

/-! # Help

What the program writes when it is asked how it is used. The text is laid out
for a terminal; elsewhere it is plain.
-/

namespace Superstep.Command

def release : String :=
  "0.1.0"

def versionLine : String :=
  programName ++ " " ++ release

/-- How a part of the help is to look. -/
inductive Look where
  | plain
  | literal
  | heading
  deriving DecidableEq

/-- A part of the help that looks alike. -/
structure Span where
  look : Look
  text : String

namespace Span

/-- A part without a look of its own. -/
def plain (text : String) : Span :=
  ⟨.plain, text⟩

def literal (text : String) : Span :=
  ⟨.literal, text⟩

def heading (text : String) : Span :=
  ⟨.heading, text⟩

def bold : String := "\x1b[1m"

def underlined : String := "\x1b[4m"

/-- The sequence that ends every look. -/
def reset : String := "\x1b[0m"

def forTerminal (s : Span) : String :=
  match s.look with
  | .plain => s.text
  | .literal => bold ++ s.text ++ reset
  | .heading => bold ++ underlined ++ s.text ++ reset

end Span

def widthOf : List Span → Nat
  | [] => 0
  | s :: rest => s.text.length + widthOf rest

/-- What is said about an option or operand, in two columns. -/
structure HelpLine where
  form : List Span
  meaning : String

def blanks (count : Nat) : List Char :=
  List.replicate count ' '

/-- Characters with blanks at the start of every line but the first. -/
def indentRest (depth : Nat) (cs : List Char) : List Char :=
  cs.flatMap fun c => if c = '\n' then c :: blanks depth else [c]

/-- Lines in two columns, the second one as far left as it can be. -/
def columns (lines : List HelpLine) : List (List Span) :=
  let width := (lines.map fun l => widthOf l.form).foldl max 0
  lines.map fun l =>
    let gap := blanks (width - widthOf l.form + 2)
    .plain "  " :: l.form ++
      [.plain (String.ofList (gap ++ indentRest (width + 4) l.meaning.toList))]

/-- The form of an option. Without a letter it leaves the place for one empty. -/
def optionForm (letter : Option Char) (name : String) (value : Option String) : List Span :=
  (match letter with
    | some c => [.literal ("-" ++ String.ofList [c]), .plain ", "]
    | none => [.plain "    "]) ++
    [.literal ("--" ++ name)] ++
    match value with
    | some value => [.plain (" <" ++ value ++ ">")]
    | none => []

def verboseLine : HelpLine :=
  ⟨optionForm (some 'v') "verbose" none, "Debug logging, including node inputs and outputs"⟩

def helpLine : HelpLine :=
  ⟨optionForm (some 'h') "help" none, "Print help"⟩

def versionHelpLine : HelpLine :=
  ⟨optionForm (some 'V') "version" none, "Print version"⟩

def workflowLine : HelpLine :=
  ⟨[.plain "<SCHEMA>"], "Workflow schema (JSON)"⟩

def subcommandMeanings : List (String × String) := [
  ("run", "Run a workflow schema to completion"),
  ("validate", "Validate a workflow schema without running it"),
  ("config", "Show current configuration"),
  ("help", "Print this message or the help of the given subcommand(s)")]

/-- What is said about a default value. It is quoted where it could not be seen
    whole otherwise. -/
def defaultNote (value : String) : String :=
  let shown := if value.isEmpty || value.toList.any Text.isBlank then Text.quoted value else value
  "[default: " ++ shown ++ "]"

/-- The options of `run`. -/
def runLines : List HelpLine := [
  ⟨optionForm (some 'p') "prompt" (some "PROMPT"),
    "Original input stored with the run " ++ defaultNote defaultPrompt⟩,
  ⟨optionForm (some 'm') "meta" (some "KEY=VALUE"),
    "Extra initial metadata, `key=value` (value parsed as JSON when possible)"⟩,
  verboseLine,
  ⟨optionForm none "json" none, "Print the run result as JSON"⟩,
  ⟨optionForm none "dry-run" none, "Serve every task type with the echo executor"⟩,
  helpLine]

/-- A titled list in the help, if there is something in it. -/
def titled (title : String) (lines : List HelpLine) : List (List Span) :=
  if lines.isEmpty then [] else [[], [.heading title]] ++ columns lines

/-- The line that shows how the program is used: its words as they stand, and
    then what takes their place. -/
def usageLine (words : List String) (rest : List String) : List Span :=
  [.heading "Usage:", .plain " ", .literal (" ".intercalate words)] ++
    rest.map fun word => .plain (" " ++ word)

def detailsOf (subcommand : String) : List HelpLine × List HelpLine :=
  match subcommand with
  | "run" => ([workflowLine], runLines)
  | "validate" => ([workflowLine], [verboseLine, helpLine])
  | "help" => ([⟨[.plain "[COMMAND]..."], "Print help for the subcommand(s)"⟩], [])
  | _ => ([], [verboseLine, helpLine])

def subcommandHelp (subcommand : String) : List (List Span) :=
  let about := (subcommandMeanings.lookup subcommand).getD ""
  let (operands, options) := detailsOf subcommand
  let rest := (if options.isEmpty then [] else ["[OPTIONS]"]) ++
    operands.map fun l => String.join (l.form.map Span.text)
  [[.plain about], [], usageLine [programName, subcommand] rest] ++
    titled "Arguments:" operands ++ titled "Options:" options

def overview (configured : Option String) : List (List Span) :=
  let configLine : HelpLine :=
    ⟨optionForm (some 'c') "config" (some "CONFIG"),
      "Path to config file [env: " ++ configVariable ++ "=" ++ configured.getD "" ++
        "] " ++ defaultNote defaultConfigPath⟩
  [[.plain "Compile and run workflow graphs of task nodes"], [],
    usageLine [programName] ["[OPTIONS]", "<COMMAND>"]] ++
    titled "Commands:" (subcommandMeanings.map fun s => ⟨[.literal s.1], s.2⟩) ++
    titled "Options:" [configLine, verboseLine, helpLine, versionHelpLine]

/-- Help on a subcommand or on everything, as text for a terminal. -/
def helpText (configured : Option String) (subcommand : Option String) : String :=
  let lines :=
    match subcommand with
    | some subcommand => subcommandHelp subcommand
    | none => overview configured
  String.join (lines.map fun line => String.join (line.map Span.forTerminal) ++ "\n")

def plainVariable : String :=
  "NO_COLOR"

/-- The variable that asks for text for a terminal wherever it is written. -/
def forcingVariable : String :=
  "CLICOLOR_FORCE"

/-- Whether text for a terminal is asked for. A variable counts if it is not
    empty. -/
def asksForLook (lookup : String → Option String) : Bool :=
  let isSet (name : String) : Bool := (lookup name).any (!·.isEmpty)
  isSet forcingVariable && !isSet plainVariable

def writtenHelp (lookup : String → Option String) (subcommand : Option String) : String :=
  let text := helpText (lookup configVariable) subcommand
  if asksForLook lookup then text else Text.plain text

end Superstep.Command
