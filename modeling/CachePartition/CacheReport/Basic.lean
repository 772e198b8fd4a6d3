import CachePartition.SortedMap
import CachePartition.Text.Numeral
import CachePartition.Text.Quoted
import CachePartition.Text.Search
import CachePartition.Text.Blank

/-! What a daemon reports of its node's last-level caches, and the number that sums up the ways still
available in them. -/
namespace CachePartition

/-- One cache. -/
structure CacheDetails where
  numWays : UInt32 := 0
  numSets : UInt32 := 0
  numPartitions : UInt32 := 0
  lineSize : UInt32 := 0
  totalSize : UInt64 := 0
  waySize : UInt64 := 0
  numClasses : UInt32 := 0
  /-- The mask of the ways still available, in hexadecimal. -/
  availableWays : String := ""
  availableCpu : String := ""
  deriving DecidableEq, Repr

/-- The caches of a node by id, and what its hardware supports. -/
structure CacheReport where
  allocation : Bool := false
  monitoring : Bool := false
  codeData : Bool := false
  codeDataEnabled : Bool := false
  cacheAllocation : Bool := false
  cacheAllocationEnabled : Bool := false
  caches : TextMap CacheDetails := SortedMap.empty
  deriving DecidableEq, Repr

/-- Why the available ways have no total. -/
inductive WaysError where
  | invalid (cache value : String) (reason : Text.NumeralError)
  | overflow (cache : String)
  deriving DecidableEq, Repr

def WaysError.message : WaysError → String
  | .invalid cache value reason =>
    "cache " ++ cache ++ ": invalid available ways " ++ Text.quoted value ++ ": " ++ reason.message
  | .overflow cache => "available ways overflow at cache " ++ cache

/-- The text after one `0x` or `0X`. -/
def dropHexMark (s : List Char) : List Char :=
  ((Text.stripStart? ['0', 'x'] s).orElse fun _ => Text.stripStart? ['0', 'X'] s).getD s

/-- Reads a mask of available ways: a hexadecimal numeral between blanks, `0x` allowed before it. -/
def readWays (s : String) : Except Text.NumeralError Nat :=
  Text.readUnsigned 16 (1 <<< 64) (dropHexMark (Text.trimBlanks s.toList))

/-- Adds the ways of one cache to a total of 64 bits. -/
def addWays (total : Nat) (cache : String × CacheDetails) : Except WaysError Nat :=
  match readWays cache.2.availableWays with
  | .error reason => .error (.invalid cache.1 cache.2.availableWays reason)
  | .ok ways => if total + ways < 1 <<< 64 then .ok (total + ways) else .error (.overflow cache.1)

/-- The sum of the masks of all caches, taken in the order of their ids. -/
def CacheReport.totalWays (r : CacheReport) : Except WaysError Nat :=
  r.caches.entries.foldlM addWays 0

end CachePartition
