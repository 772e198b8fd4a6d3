import CachePartition.CommandLine.Basic
import CachePartition.Text.Search

/-! The texts that explain the commands. -/
namespace CachePartition

def programName : String := "rmd-operator"

def programVersion : String := "0.1.0"

namespace CommandOption

/-- The option with a name for its value. -/
def usage (o : CommandOption) : String :=
  "--" ++ o.name ++ " <" ++
    .ofList (o.name.toList.map fun c => if c = '-' then '_' else c.toUpper) ++ ">"

/-- The help with what else may give the value. -/
def details (o : CommandOption) : String :=
  o.help ++ o.environmentName.elim "" (fun v => " [env: " ++ v ++ "=]") ++
    o.default.elim "" fun v => " [default: " ++ v ++ "]"

end CommandOption

namespace Help

/-- The columns of a line. -/
def width : Nat := 100

def blanks (n : Nat) : String := .ofList (List.replicate n ' ')

/-- A line of a list, with a short form or the place of one. -/
structure Line where
  short : String := "    "
  term : String
  text : String

def helpLine : Line := { short := "-h, ", term := "--help", text := "Print help" }

def versionLine : Line := { short := "-V, ", term := "--version", text := "Print version" }

/-- Terms and texts in two columns or, if a line grew too long, each text under its term. -/
def layout (lines : List Line) : String :=
  let column := (lines.map fun l => l.short.length + l.term.length).foldl max 0 + 4
  let isWide (l : Line) : Bool := width < column + l.text.length
  .join <| lines.map fun l =>
    let start := "  " ++ l.short ++ l.term
    if lines.any isWide then start ++ "\n" ++ blanks 10 ++ l.text ++ "\n"
    else start ++ blanks (column - start.length) ++ l.text ++ "\n"

def optionLines (topic : HelpTopic) : List Line :=
  topic.options.map (fun o => { term := o.usage, text := o.details }) ++ [helpLine]

end Help

namespace HelpTopic

def name (t : HelpTopic) : String := ((commands.find? fun e => e.2 = t).map (·.1)).getD ""

def about : HelpTopic → String
  | program => ""
  | operator => "Run the workload synchronizer, node-state reporter and node labeler"
  | agent => "Run the per-node agent deriving workloads from pods"
  | definitions => "Print the custom resource definitions as YAML"
  | help => "Print this message or the help of the given subcommand(s)"

/-- What follows the name of a command. -/
def usage (t : HelpTopic) : String :=
  (if t.options.isEmpty then "" else " [OPTIONS]") ++
    .join ((t.options.filter (·.isRequired)).map fun o => " " ++ o.usage)

def commandLines : List Help.Line :=
  commands.map fun e => { short := "", term := e.1, text := e.2.about }

def text (t : HelpTopic) : String :=
  match t with
  | program =>
    "Usage: " ++ programName ++ " <COMMAND>\n\nCommands:\n" ++ Help.layout commandLines ++
      "\nOptions:\n" ++ Help.layout [Help.helpLine, Help.versionLine]
  | help =>
    t.about ++ "\n\nUsage: " ++ programName ++ " help [COMMAND]...\n\nArguments:\n" ++
      Help.layout [{ short := "", term := "[COMMAND]...", text := "Print help for the subcommand(s)" }]
  | t =>
    t.about ++ "\n\nUsage: " ++ programName ++ " " ++ t.name ++ t.usage ++ "\n\nOptions:\n" ++
      Help.layout (Help.optionLines t)

end HelpTopic

/-- What a program leaves behind: its exit code, what it printed and what it complained of. -/
structure ProgramOutcome where
  exitCode : UInt8
  output : String := ""
  complaint : String := ""
  deriving DecidableEq, Repr

def UsageError.message : UsageError → String
  | invalidValue => "an option has no value"
  | valueValidation => "the value of an option is no number"
  | argumentConflict => "an option is given twice"
  | unknownArgument => "unexpected argument"
  | tooManyValues => "a flag takes no value"
  | invalidSubcommand => "unrecognized subcommand"
  | missingRequiredArgument => "a required option is not given"

/-- Help and version are printed; all else that names no command is a mistake in the use. -/
def Stop.outcome : Stop → ProgramOutcome
  | .help topic => { exitCode := 0, output := topic.text }
  | .version => { exitCode := 0, output := programName ++ " " ++ programVersion ++ "\n" }
  | .nothing => { exitCode := 2, complaint := HelpTopic.program.text }
  | .fault e => { exitCode := 2, complaint := "error: " ++ e.message ++ "\n" }

end CachePartition
