import CachePartition.Startup.Program

/-! The command line of the program. -/
namespace CachePartition

/-- The variables that options may take their values from. -/
def optionVariables : List String :=
  (CommandOption.operator ++ CommandOption.agent).filterMap (·.environmentName)

/-- The paths that a start may look into. -/
def startPaths : Except Stop Command → List String
  | .ok (.operator s) => s.kubeconfig.toList
  | .ok (.agent s) => s.kubeconfig.toList
  | _ => []

/-- The directories that a start may make files in. -/
def startDirectories : Except Stop Command → List String
  | .ok (.operator s) => (s.logFile.bind LogFile.ofPath?).toList.map (·.directory)
  | .ok (.agent s) => (s.logFile.bind LogFile.ofPath?).toList.map (·.directory)
  | _ => []

/-- The content of a file, if it can be read. -/
def readFile? (path : String) : IO (Option (List UInt8)) := do
  try
    return some (← IO.FS.readBinFile path).toList
  catch _ => return none

/-- Whether a path is a directory or can be made one. -/
def isDirectory (path : String) : IO Bool := do
  try
    IO.FS.createDirAll path
    return true
  catch _ => return false

/-- The pairs of things and what an action makes of each. -/
def collect {α β : Type} (f : α → IO β) (l : List α) : IO (List (α × β)) :=
  l.mapM fun a => do return (a, ← f a)

end CachePartition

open CachePartition

def main (args : List String) : IO UInt32 := do
  let environment ← collect (fun name => IO.getEnv name) optionVariables
  let command := CommandLine.read (fun name => (environment.lookup name).join) args
  let named ← collect readFile? (startPaths command)
  let files ← named.flatMapM fun f => do
    let config := f.2.bind Kubeconfig.read?
    return f :: (← collect readFile? (config.elim [] fun k => k.references f.1))
  let directories ← collect isDirectory (startDirectories command)
  let o := programOutcome
    ⟨fun path => (files.lookup path).join, fun path => (directories.lookup path).getD false⟩ command
  (← IO.getStdout).putStr o.output
  (← IO.getStderr).putStr o.complaint
  return o.exitCode.toUInt32
