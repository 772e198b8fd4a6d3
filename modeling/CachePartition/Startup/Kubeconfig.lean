import CachePartition.Failure
import CachePartition.Json.Codec
import CachePartition.Json.Reader
import CachePartition.Startup.ServerAddress
import CachePartition.Text.Blank
import CachePartition.Text.Utf8
import CachePartition.Tls.Base64
import CachePartition.Tls.Settings

/-! The file that tells how to reach the cluster: servers, users, and contexts that join the two under
a namespace. -/
namespace CachePartition

open Json

/-- A server of a cluster. -/
structure ClusterEntry where
  server : Option String := none
  proxyUrl : Option String := none
  authority : Option String := none
  authorityData : Option String := none
  deriving DecidableEq, Repr

structure ContextEntry where
  cluster : String
  user : String
  /-- The namespace. -/
  space : Option String := none
  deriving DecidableEq, Repr

/-- Entries by name; an entry may be empty. What a user is has no part in finding the server. -/
structure Kubeconfig where
  clusters : List (String × Option ClusterEntry) := []
  contexts : List (String × Option ContextEntry) := []
  users : List (String × Option Unit) := []
  current : Option String := none
  deriving DecidableEq, Repr

mutual

/-- Whether no object in a value has two fields of one name. -/
def namesOnce : Json → Bool
  | .array items => itemsOnce items
  | .object fields => fieldsOnce fields
  | _ => true

def itemsOnce : List Json → Bool
  | [] => true
  | j :: rest => namesOnce j && itemsOnce rest

def fieldsOnce : List (String × Json) → Bool
  | [] => true
  | (name, j) :: rest => (findName name rest).isNone && namesOnce j && fieldsOnce rest

end

/-- The fields of an object by name. Null has none. -/
def fieldsOf? : Json → Option (String → Option Json)
  | .object fields => some fun n => findName n fields
  | .null => some fun _ => none
  | _ => none

/-- Fields that may be left out, and are texts otherwise. -/
def areTexts (field : String → Option Json) (names : List String) : Bool :=
  names.all fun n => (maybe (field n) text?).isSome

/-- Whether a value is a named extension, which may be anything. -/
def isExtension (j : Json) : Bool :=
  match fieldsOf? j with
  | some field => ((field "name").bind text?).isSome && (field "extension").isSome
  | none => false

/-- Whether the extensions, if there are any, are a list of such. -/
def areExtensions (field : Option Json) : Bool :=
  (maybe field (list? fun j => if isExtension j then some () else none)).isSome

/-- Whether a value holds preferences. -/
def arePreferences (j : Json) : Bool :=
  match fieldsOf? j with
  | some field => (maybe (field "colors") bool?).isSome && areExtensions (field "extensions")
  | none => false

namespace ClusterEntry

def ofJson? (j : Json) : Option ClusterEntry := do
  let field ← fieldsOf? j
  let _ ← maybe (field "insecure-skip-tls-verify") bool?
  if areTexts field ["tls-server-name"] && areExtensions (field "extensions") then
    some {
      server := ← maybe (field "server") text?
      proxyUrl := ← maybe (field "proxy-url") text?
      authority := ← maybe (field "certificate-authority") text?
      authorityData := ← maybe (field "certificate-authority-data") text? }
  else none

/-- Whether the certificates to check the server against can be had, if there are to be any. -/
def hasAuthority (files : Files) (c : ClusterEntry) : Bool :=
  match c.authorityData, c.authority with
  | some data, _ =>
    let bytes := Text.utf8Bytes data.toList
    !bytes.any Base64.isSpace && (Base64.decode? bytes).isSome
  | none, some path => (files path).isSome
  | none, none => true

/-- Whether a client for the server can be set up. -/
def isUsable (files : Files) (c : ClusterEntry) : Bool :=
  c.server.any ServerAddress.isAddress && c.hasAuthority files &&
    c.proxyUrl.all fun p => p.isEmpty || ServerAddress.isAddress p

end ClusterEntry

def ContextEntry.ofJson? (j : Json) : Option ContextEntry := do
  let field ← fieldsOf? j
  if areExtensions (field "extensions") then
    some {
      cluster := ← required (field "cluster") text?
      user := ← required (field "user") text?
      space := ← maybe (field "namespace") text? }
  else none

/-- Whether a value is what tells who a user is. -/
def userOfJson? (j : Json) : Option Unit := do
  let field ← fieldsOf? j
  if areTexts field ["username", "password", "token", "tokenFile", "client-certificate",
      "client-certificate-data", "client-key", "client-key-data", "as"] then
    let _ ← maybe (field "as-groups") texts?
    some ()
  else none

namespace Kubeconfig

/-- An entry with its name, under the name of its kind. -/
def entryOfJson? {α : Type} (kind : String) (f : Json → Option α) (j : Json) :
    Option (String × Option α) := do
  let field ← fieldsOf? j
  some (← required (field "name") text?, ← maybe (field kind) f)

/-- Entries of a kind; none if they are left out or null. -/
def entries? {α : Type} (field : Option Json) (kind : String) (f : Json → Option α) :
    Option (List (String × Option α)) :=
  (maybe field (list? (entryOfJson? kind f))).map fun l => l.getD []

def ofJson? (j : Json) : Option Kubeconfig := do
  let field ← fieldsOf? j
  let _ ← maybe (field "preferences") fun p => if arePreferences p then some () else none
  if areTexts field ["kind", "apiVersion"] && areExtensions (field "extensions") then
    some {
      clusters := ← entries? (field "clusters") "cluster" ClusterEntry.ofJson?
      contexts := ← entries? (field "contexts") "context" ContextEntry.ofJson?
      users := ← entries? (field "users") "user" userOfJson?
      current := ← maybe (field "current-context") text? }
  else none

/-- The content of a file; an empty one says nothing. -/
def read? (content : List UInt8) : Option Kubeconfig :=
  match String.fromUTF8? ⟨content.toArray⟩ with
  | none => none
  | some text =>
    if (Text.trimBlanks text.toList).isEmpty then some {}
    else ((Json.read? text).filter namesOnce).bind ofJson?

/-- The first entry of a name. -/
def entryNamed? {α : Type} (name : String) (entries : List (String × Option α)) : Option α :=
  (entries.find? fun e => e.1 = name).bind (·.2)

/-- The context in use, if its cluster, its user and its server will do. -/
def context? (k : Kubeconfig) (files : Files) : Option ContextEntry := do
  let name ← k.current
  let context ← entryNamed? name k.contexts
  let cluster ← entryNamed? context.cluster k.clusters
  let _ ← entryNamed? context.user k.users
  if cluster.isUsable files then some context else none

end Kubeconfig

/-- A path as the file at another path means it: from the directory of that file, unless it starts
at the root. -/
def pathFrom (file path : String) : String :=
  if Text.startsWith path.toList ['/'] then path
  else .ofList ((file.toList.reverse.dropWhile (· ≠ '/')).reverse ++ path.toList)

/-- The files that the file at a path refers to. -/
def Kubeconfig.references (k : Kubeconfig) (path : String) : List String :=
  k.clusters.filterMap fun e => (e.2.bind (·.authority)).map (pathFrom path)

/-- The namespace of a client set up from the file at a path. -/
def connect (files : Files) (path : String) : Except ClusterError String :=
  match (files path).bind Kubeconfig.read? with
  | none => .error (.connection ("Failed to read kubeconfig file: " ++ path))
  | some k =>
    match k.context? fun p => files (pathFrom path p) with
    | none => .error (.connection ("Failed to create config from kubeconfig: " ++ path))
    | some context => .ok (context.space.getD "default")

end CachePartition
