import CachePartition.PodCpus.Basic
import CachePartition.PodCpus.Wire

/-! Pinned CPUs as the node's agent sends them. Of a text that comes twice the last counts, of pods,
containers and CPUs each one; all other fields are skipped. -/
namespace CachePartition

open Wire

/-- How deep groups may nest in a message that is in no other. -/
def wireDepth : Nat := 100

def writeText (number : Nat) (s : String) : Bytes :=
  if s.isEmpty then [] else writeBytes number (textBytes s)

namespace ContainerCpus

def write (c : ContainerCpus) : Bytes :=
  writeText 1 c.name ++
    if c.cpuIds.isEmpty then []
    else writeBytes 3 (c.cpuIds.flatMap fun id => writeVarint id.toUInt64.toNat)

def take? (c : ContainerCpus) (f : Field) : Option ContainerCpus :=
  match f.number with
  | 1 => f.text?.map fun name => { c with name }
  | 3 => f.int64s?.map fun ids => { c with cpuIds := c.cpuIds ++ ids }
  | _ => some c

def read? (depth : Nat) (s : Bytes) : Option ContainerCpus :=
  match readFields? depth s with
  | some fields => fields.foldlM take? {}
  | none => none

end ContainerCpus

/-- A message inside another. -/
def readNested? {α : Type} (read? : Bytes → Option α) : Field → Option α
  | .bytes _ payload => read? payload
  | _ => none

namespace PodCpus

def write (p : PodCpus) : Bytes :=
  writeText 1 p.name ++ writeText 2 p.space ++ p.containers.flatMap fun c => writeBytes 3 c.write

def take? (depth : Nat) (p : PodCpus) (f : Field) : Option PodCpus :=
  match f.number with
  | 1 => f.text?.map fun name => { p with name }
  | 2 => f.text?.map fun space => { p with space }
  | 3 => (readNested? (ContainerCpus.read? (depth - 1)) f).map fun c =>
      { p with containers := p.containers ++ [c] }
  | _ => some p

def readWithin? (depth : Nat) (s : Bytes) : Option PodCpus :=
  match readFields? depth s with
  | some fields => fields.foldlM (take? depth) {}
  | none => none

/-- A message that holds one pod. -/
def read? (s : Bytes) : Option PodCpus := readWithin? wireDepth s

def takeListed? (l : List PodCpus) (f : Field) : Option (List PodCpus) :=
  match f.number with
  | 1 => (readNested? (readWithin? (wireDepth - 1)) f).map fun p => l ++ [p]
  | _ => some l

/-- A message that lists pods. -/
def readListing? (s : Bytes) : Option (List PodCpus) :=
  match readFields? wireDepth s with
  | some fields => fields.foldlM takeListed? []
  | none => none

end PodCpus

end CachePartition
