import CachePartition.Url.Percent

/-! Text as a form sends it: a blank as a plus sign, and byte by byte what is no letter, digit or one of
four marks. -/
namespace CachePartition.Url

def formPlain (c : Char) : Bool := c.isAlphanum || c ∈ ['*', '-', '.', '_']

def encodeForm (s : String) : String :=
  .ofList (s.toList.flatMap fun c => if c = ' ' then ['+'] else encodeChar (fun c => !formPlain c) c)

end CachePartition.Url
