/-! Blank characters, trimming, splitting and searching in text. -/
namespace Linkshelf

/-- The characters with the Unicode property White_Space. -/
def isBlank (c : Char) : Bool :=
  let n := c.toNat
  (9 ≤ n && n ≤ 13) || n == 0x20 || n == 0x85 || n == 0xA0 || n == 0x1680 ||
    (0x2000 ≤ n && n ≤ 0x200A) || n == 0x2028 || n == 0x2029 || n == 0x202F ||
    n == 0x205F || n == 0x3000

namespace Chars

def trim (cs : List Char) : List Char :=
  ((cs.dropWhile isBlank).reverse.dropWhile isBlank).reverse

/-- The pieces between separators: one more than there are separators. -/
def split (isSeparator : Char → Bool) : List Char → List (List Char)
  | [] => [[]]
  | c :: cs =>
    if isSeparator c then [] :: split isSeparator cs
    else (split isSeparator cs).modifyHead (c :: ·)

/-- The maximal runs without a blank. -/
def words (cs : List Char) : List (List Char) :=
  (split isBlank cs).filter (!·.isEmpty)

def join (sep : List Char) : List (List Char) → List Char
  | [] => []
  | [p] => p
  | p :: ps => p ++ sep ++ join sep ps

/-- Whether `needle` is a contiguous part of the text. -/
def occurs (needle : List Char) : List Char → Bool
  | [] => needle.isEmpty
  | c :: cs => needle.isPrefixOf (c :: cs) || occurs needle cs

end Chars

namespace Text

def trim (s : String) : String := .ofList (Chars.trim s.toList)

def split (separator : Char) (s : String) : List String :=
  (Chars.split (· == separator) s.toList).map .ofList

def join (sep : String) (parts : List String) : String :=
  .ofList (Chars.join sep.toList (parts.map String.toList))

def isBlankText (s : String) : Bool := s.toList.all isBlank

/-- The first `max` characters. -/
def clip (max : Nat) (s : String) : String := .ofList (s.toList.take max)

def occurs (needle s : String) : Bool := Chars.occurs needle.toList s.toList

def startsWith (start s : String) : Bool := start.toList.isPrefixOf s.toList

end Text
end Linkshelf
