import CachePartition.SortedMap
import CachePartition.Text.Blank
import CachePartition.Text.Numeral
import CachePartition.Text.Search

/-! Settings that a pod's annotations give the workloads of its containers. A key counts for a
container if it starts with the container's name and ends with the setting's suffix; of several keys
the greatest with an acceptable value counts. -/
namespace CachePartition

inductive Setting where
  | policy
  | mbaPercentage
  | mbaMbps
  | powerRatio
  | powerMonitoring
  deriving DecidableEq, Repr

namespace Setting

def all : List Setting := [policy, mbaPercentage, mbaMbps, powerRatio, powerMonitoring]

def suffix : Setting → String
  | policy => "_policy"
  | mbaPercentage => "_mba_percentage"
  | mbaMbps => "_mba_mbps"
  | powerRatio => "_pstate_ratio"
  | powerMonitoring => "_pstate_monitoring"

/-- The setting that a key for a container is about. -/
def ofKey? (container key : String) : Option Setting :=
  if Text.startsWith key.toList container.toList then
    all.find? fun s => Text.endsWith key.toList s.suffix.toList
  else none

end Setting

structure Overrides where
  policy : String := ""
  mbaPercentage : UInt32 := 0
  mbaMbps : UInt32 := 0
  powerRatio : String := ""
  powerMonitoring : String := ""
  deriving DecidableEq, Repr

/-- A text is acceptable unless it is empty. -/
def acceptText? (value : String) : Option String := if value.isEmpty then none else some value

/-- A number is acceptable if it has 32 bits. -/
def acceptNumber? (value : String) : Option UInt32 :=
  (Text.readDecimal? (1 <<< 32) (Text.trimBlanks value.toList)).map .ofNat

namespace Overrides

/-- Takes over a value unless it is not acceptable. -/
def set (o : Overrides) (value : String) : Setting → Overrides
  | .policy => { o with policy := (acceptText? value).getD o.policy }
  | .mbaPercentage => { o with mbaPercentage := (acceptNumber? value).getD o.mbaPercentage }
  | .mbaMbps => { o with mbaMbps := (acceptNumber? value).getD o.mbaMbps }
  | .powerRatio => { o with powerRatio := (acceptText? value).getD o.powerRatio }
  | .powerMonitoring => { o with powerMonitoring := (acceptText? value).getD o.powerMonitoring }

def take (container : String) (o : Overrides) (e : String × String) : Overrides :=
  (Setting.ofKey? container e.1).elim o (o.set e.2)

/-- The settings for a container, from the annotations in ascending order of their keys. -/
def ofAnnotations (annotations : TextMap String) (container : String) : Overrides :=
  annotations.entries.foldl (take container) {}

end Overrides

end CachePartition
