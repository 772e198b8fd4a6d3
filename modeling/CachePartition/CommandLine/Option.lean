import CachePartition.Text.Numeral

/-! Options of commands: each takes a value from the command line, from the environment or from its own
default, in this order. -/
namespace CachePartition

/-- What an option takes for a value. -/
inductive ValueKind where
  | text
  /-- A path, which is not empty. -/
  | path
  /-- A number of 64 bits. -/
  | count
  deriving DecidableEq, Repr

structure CommandOption where
  name : String
  help : String
  kind : ValueKind := .text
  /-- The variable of the environment that may give the value. -/
  environmentName : Option String := none
  default : Option String := none
  /-- Whether there has to be a value. -/
  isRequired : Bool := false
  deriving DecidableEq, Repr

/-- What is wrong with a command line. -/
inductive UsageError where
  /-- A value is missing or empty. -/
  | invalidValue
  /-- A value is no number. -/
  | valueValidation
  /-- An option is given twice. -/
  | argumentConflict
  | unknownArgument
  /-- A flag is given a value. -/
  | tooManyValues
  | invalidSubcommand
  | missingRequiredArgument
  deriving DecidableEq, Repr

namespace ValueKind

/-- What keeps a text from being a value. -/
def fault? : ValueKind → String → Option UsageError
  | text, _ => none
  | path, s => if s.isEmpty then some .invalidValue else none
  | count, s =>
    if (Text.readDecimal? (1 <<< 64) s.toList).isSome then none else some .valueValidation

end ValueKind

namespace CommandOption

def kubeconfig : CommandOption where
  name := "kubeconfig"
  help := "Path to kubeconfig file (defaults to cluster config or ~/.kube/config)"
  kind := .path
  environmentName := some "KUBECONFIG"

def logFile : CommandOption where
  name := "log-file"
  help := "Also write logs to this file, rotated daily"
  kind := .path
  environmentName := some "RMD_LOG_FILE"

def operator : List CommandOption := [
  kubeconfig,
  { name := "namespace", help := "Namespace in which node states are created"
    environmentName := some "RMD_NAMESPACE", default := some "default" },
  { name := "node-label", help := "Label selector marking nodes eligible for the daemon"
    default := some "intel.com/rmd-node=true" },
  { name := "daemon-namespace", help := "Namespace of the daemon DaemonSet"
    environmentName := some "RMD_DAEMON_NAMESPACE", default := some "default" },
  { name := "daemon-name"
    help := "Name of the daemon DaemonSet, inspected to choose TLS or plaintext"
    default := some "rmd" },
  { name := "tls-cert", help := "Client certificate presented to the daemon", kind := .path
    default := some "/etc/certs/public/cert.pem" },
  { name := "tls-key", help := "Private key of the client certificate", kind := .path
    default := some "/etc/certs/public/key.pem" },
  { name := "tls-ca", help := "CA bundle the daemon's certificate must chain to", kind := .path
    default := some "/etc/certs/public/ca.pem" },
  { name := "requeue-secs"
    help := "Seconds between node state polls and between retries of failed reconciliations"
    kind := .count, default := some "5" },
  logFile]

def agent : List CommandOption := [
  kubeconfig,
  { name := "pod-name", help := "Name of this agent's own pod, used to find the node it runs on"
    environmentName := some "HOSTNAME", isRequired := true },
  { name := "pod-resources-socket", help := "Kubelet pod-resources socket", kind := .path
    default := some "/var/lib/kubelet/pod-resources/kubelet.sock" },
  logFile]

end CommandOption

end CachePartition
