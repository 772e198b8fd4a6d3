import CachePartition.SortedMap

/-! Finite sets of texts, in ascending order. -/
namespace CachePartition

abbrev TextSet := TextMap Unit

namespace TextSet

def empty : TextSet := SortedMap.empty

def insert (s : TextSet) (t : String) : TextSet := SortedMap.insert s t ()

def erase (s : TextSet) (t : String) : TextSet := SortedMap.erase s t

def contains (s : TextSet) (t : String) : Bool := SortedMap.contains s t

def ofList (l : List String) : TextSet := l.foldl insert empty

/-- The members in ascending order. -/
def toList (s : TextSet) : List String := SortedMap.keys s

end TextSet

end CachePartition
