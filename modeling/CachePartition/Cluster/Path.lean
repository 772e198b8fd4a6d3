/-! Where the objects of the cluster are found on its server. -/
namespace CachePartition.Api

/-- Below the kinds that every cluster has. -/
def corePath (rest : String) : String := "/api/v1/" ++ rest

/-- Below the kinds of this program. -/
def groupPath (rest : String) : String := "/apis/intel.com/v1alpha1/" ++ rest

def podsPath : String := corePath "pods"

def nodesPath : String := corePath "nodes"

def allWorkloadsPath : String := groupPath "rmdworkloads"

def allNodeStatesPath : String := groupPath "rmdnodestates"

def podPath (space name : String) : String :=
  corePath ("namespaces/" ++ space ++ "/pods/" ++ name)

def nodePath (name : String) : String := nodesPath ++ "/" ++ name

def workloadPath (space name : String) : String :=
  groupPath ("namespaces/" ++ space ++ "/rmdworkloads/" ++ name)

def nodeStatesPath (space : String) : String :=
  groupPath ("namespaces/" ++ space ++ "/rmdnodestates")

def nodeStatePath (space name : String) : String := nodeStatesPath space ++ "/" ++ name

/-- Characters that a request path may hold. -/
def isPathChar (c : Char) : Bool :=
  c = '!' || ('$' ≤ c && c ≤ ';') || c = '=' || ('@' ≤ c && c ≤ '_') || ('a' ≤ c && c ≤ 'z') ||
    c ∈ ['|', '~', '"', '\x7b', '\x7d']

/-- Characters that a query may hold. -/
def isQueryChar (c : Char) : Bool :=
  c = '!' || ('$' ≤ c && c ≤ ';') || c = '=' || ('?' ≤ c && c ≤ '~')

/-- What is requested when a path and a query are written one after the other. A question mark in
the path starts the query, and what follows a number sign is left out. -/
def target? (path query : String) : Option (String × String) :=
  let text := (path.toList ++ '?' :: query.toList).takeWhile (· ≠ '#')
  let requested := text.takeWhile (· ≠ '?')
  let asked := (text.dropWhile (· ≠ '?')).drop 1
  if requested.all isPathChar && asked.all isQueryChar then
    some (String.ofList requested, String.ofList asked)
  else none

end CachePartition.Api
