import CachePartition.CommandLine.Option
import CachePartition.SortedMap
import CachePartition.Tls.Settings

/-! Commands, and how a command line and an environment name one. -/
namespace CachePartition

structure OperatorSettings where
  kubeconfig : Option String
  logFile : Option String
  /-- The namespace in which node states are created. -/
  space : String
  nodeLabel : String
  /-- The namespace of the daemon set. -/
  daemonSpace : String
  daemonName : String
  tls : TlsPaths
  /-- The seconds to the next turn, one at least. -/
  delay : Nat
  deriving DecidableEq, Repr

structure AgentSettings where
  kubeconfig : Option String
  logFile : Option String
  podName : String
  podResourcesSocket : String
  deriving DecidableEq, Repr

inductive Command where
  | operator (s : OperatorSettings)
  | agent (s : AgentSettings)
  /-- Prints the definitions of the custom resources. -/
  | definitions
  deriving DecidableEq, Repr

/-- What there is help on. -/
inductive HelpTopic where
  | program
  | operator
  | agent
  | definitions
  | help
  deriving DecidableEq, Repr

/-- Why a command line names no command to run. -/
inductive Stop where
  | help (topic : HelpTopic)
  | version
  /-- There is no argument at all. -/
  | nothing
  | fault (e : UsageError)
  deriving DecidableEq, Repr

namespace HelpTopic

/-- The topics that are commands, by name. -/
def commands : List (String × HelpTopic) :=
  [("operator", operator), ("agent", agent), ("crd", definitions), ("help", help)]

def command? (name : String) : Option HelpTopic := (commands.find? fun e => e.1 = name).map (·.2)

def options : HelpTopic → List CommandOption
  | operator => CommandOption.operator
  | agent => CommandOption.agent
  | _ => []

end HelpTopic

namespace CommandLine

/-- Values that are settled, and an option that is still to be settled, with its value if there is
one. -/
structure Given where
  values : TextMap String := SortedMap.empty
  pending : Option (CommandOption × Option String) := none

/-- Settles what is pending: it has a value, is not settled yet, and the value will do. -/
def Given.settle (g : Given) : Except UsageError Given :=
  match g.pending with
  | none => .ok g
  | some (_, none) => .error .invalidValue
  | some (o, some v) =>
    if g.values.contains o.name then .error .argumentConflict
    else
      match o.kind.fault? v with
      | some e => .error e
      | none => .ok { values := g.values.insert o.name v }

/-- An argument by its form. -/
inductive Argument where
  /-- Two dashes: no options follow. -/
  | divider
  | long (name : String) (value : Option String)
  /-- A dash and flags of one character. -/
  | short (flag : Char)
  | plain (text : String)
  deriving DecidableEq, Repr

def Argument.ofText (s : String) : Argument :=
  match s.toList with
  | ['-', '-'] => .divider
  | '-' :: '-' :: rest =>
    match rest.dropWhile (· ≠ '=') with
    | [] => .long (.ofList rest) none
    | _ :: value => .long (.ofList (rest.takeWhile (· ≠ '='))) (some (.ofList value))
  | '-' :: flag :: _ => .short flag
  | _ => .plain s

def fail {α : Type} (e : UsageError) : Except Stop α := .error (.fault e)

/-- Reads the arguments of a command up to the end. -/
def readOptions (topic : HelpTopic) (g : Given) : List String → Except Stop (TextMap String)
  | [] => (g.settle.mapError .fault).map (·.values)
  | arg :: rest =>
    match Argument.ofText arg with
    | .divider =>
      if rest.isEmpty then (g.settle.mapError .fault).map (·.values) else fail .unknownArgument
    | .long "help" value =>
      if value.isSome then fail .tooManyValues
      else do
        let _ ← g.settle.mapError Stop.fault
        .error (.help topic)
    | .short 'h' => do
      let _ ← g.settle.mapError Stop.fault
      .error (.help topic)
    | .short _ => fail .unknownArgument
    | .long name value =>
      match topic.options.find? fun o => o.name = name with
      | none => fail .unknownArgument
      | some o => do
        let settled ← g.settle.mapError Stop.fault
        let next := { settled with pending := some (o, value) }
        if value.isSome then
          let next ← next.settle.mapError Stop.fault
          readOptions topic next rest
        else readOptions topic next rest
    | .plain text =>
      match g.pending with
      | some (o, none) => readOptions topic { g with pending := some (o, some text) } rest
      | _ => fail .unknownArgument

/-- Adds what the environment gives for options that have no value. -/
def addVariables (environment : String → Option String) (values : TextMap String) :
    List CommandOption → Except UsageError (TextMap String)
  | [] => .ok values
  | o :: rest =>
    match o.environmentName.bind environment with
    | none => addVariables environment values rest
    | some v =>
      if values.contains o.name then addVariables environment values rest
      else
        match o.kind.fault? v with
        | some e => .error e
        | none => addVariables environment (values.insert o.name v) rest

/-- The values of a command's options. -/
def readValues (environment : String → Option String) (topic : HelpTopic) (args : List String) :
    Except Stop (TextMap String) := do
  let given ← readOptions topic {} args
  let values ← (addVariables environment given topic.options).mapError Stop.fault
  if topic.options.all fun o => !o.isRequired || values.contains o.name then return values
  else fail .missingRequiredArgument

/-- A value, or the option's own. -/
def valueOf? (options : List CommandOption) (values : TextMap String) (name : String) :
    Option String :=
  (values.get? name).orElse fun _ =>
    (options.find? fun o => o.name = name).bind (·.default)

def operatorSettings (values : TextMap String) : OperatorSettings :=
  let value? := valueOf? CommandOption.operator values
  let value (name : String) : String := (value? name).getD ""
  { kubeconfig := value? "kubeconfig"
    logFile := value? "log-file"
    space := value "namespace"
    nodeLabel := value "node-label"
    daemonSpace := value "daemon-namespace"
    daemonName := value "daemon-name"
    tls := ⟨value "tls-cert", value "tls-key", value "tls-ca"⟩
    delay := max 1 ((Text.readDecimal? (1 <<< 64) (value "requeue-secs").toList).getD 0) }

def agentSettings (values : TextMap String) : AgentSettings :=
  let value? := valueOf? CommandOption.agent values
  { kubeconfig := value? "kubeconfig"
    logFile := value? "log-file"
    podName := (value? "pod-name").getD ""
    podResourcesSocket := (value? "pod-resources-socket").getD "" }

/-- What the help command names: no command for the program, or one command, which has none below
it. -/
def readTopic : List String → Stop
  | [] => .help .program
  | [name] => (HelpTopic.command? name).elim (.fault .invalidSubcommand) .help
  | _ :: _ :: _ => .fault .invalidSubcommand

def readCommand (environment : String → Option String) (topic : HelpTopic) (args : List String) :
    Except Stop Command :=
  match topic with
  | .operator => (readValues environment topic args).map fun v => .operator (operatorSettings v)
  | .agent => (readValues environment topic args).map fun v => .agent (agentSettings v)
  | .definitions => (readValues environment topic args).map fun _ => .definitions
  | .help => .error (readTopic args)
  | .program => .error .nothing

/-- Reads a command line. -/
def read (environment : String → Option String) : List String → Except Stop Command
  | [] => .error .nothing
  | arg :: rest =>
    match HelpTopic.command? arg with
    | some topic => readCommand environment topic rest
    | none =>
      match Argument.ofText arg with
      | .divider =>
        match rest with
        | [] => .error .nothing
        | name :: _ =>
          fail (if (HelpTopic.command? name).isSome then .unknownArgument else .invalidSubcommand)
      | .long "help" none => .error (.help .program)
      | .long "version" none => .error .version
      | .long "help" (some _) => fail .tooManyValues
      | .long "version" (some _) => fail .tooManyValues
      | .short 'h' => .error (.help .program)
      | .short 'V' => .error .version
      | .long _ _ => fail .unknownArgument
      | .short _ => fail .unknownArgument
      | .plain _ => fail .invalidSubcommand

end CommandLine

end CachePartition
