import CachePartition.CommandLine.Help
import CachePartition.Json.Yaml
import CachePartition.NodeState.Definition
import CachePartition.Startup.Kubeconfig
import CachePartition.Startup.LogFile
import CachePartition.Workload.Definition

/-! The program up to the point where its controllers run: it prints what is asked for, or makes sure
that it can log and reach the cluster. -/
namespace CachePartition

/-- Why a command does not start. -/
inductive StartError where
  | log (e : LogFileError)
  | cluster (e : ClusterError)
  deriving DecidableEq, Repr

def StartError.message : StartError → String
  | log e => e.message
  | cluster e => e.message

/-- What a program starts in: its files, and the directories in which it can make some. -/
structure StartSetting where
  files : Files
  accepts : String → Bool

/-- The documents that define the kinds of custom resources. -/
def definitionsText : String :=
  Yaml.printAll [Workload.definition.toJson, NodeState.definition.toJson]

/-- Opens the log file, if there is to be one, and sets up the client of the cluster; gives that
client's namespace. A cluster that no file tells of is not found. -/
def startUp (s : StartSetting) (logFile kubeconfig : Option String) : Except StartError String := do
  match logFile with
  | some path => let _ ← (LogFile.open? s.accepts path).mapError StartError.log
  | none => pure ()
  match kubeconfig with
  | some path => (connect s.files path).mapError .cluster
  | none => .error (.cluster (.connection "Failed to create Kubernetes client"))

/-- The outcome of a start: a complaint, or none if the controllers can run. -/
def startOutcome : Except StartError String → ProgramOutcome
  | .ok _ => { exitCode := 0 }
  | .error e => { exitCode := 1, complaint := "Error: " ++ e.message ++ "\n" }

def Command.outcome (s : StartSetting) : Command → ProgramOutcome
  | .definitions => { exitCode := 0, output := definitionsText }
  | .operator settings => startOutcome (startUp s settings.logFile settings.kubeconfig)
  | .agent settings => startOutcome (startUp s settings.logFile settings.kubeconfig)

/-- The outcome of the program. -/
def programOutcome (s : StartSetting) : Except Stop Command → ProgramOutcome
  | .ok c => c.outcome s
  | .error stop => stop.outcome

end CachePartition
