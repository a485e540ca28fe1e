/-! Sortable marks: 26 digits of base 32, of which the first ten tell the time. -/
namespace Linkshelf.Ulid

/-- Digits and capital letters without those that look like others. -/
def digits : List Char := "0123456789ABCDEFGHJKMNPQRSTVWXYZ".toList

/-- The lowest `width` digits of a number, the last one first. -/
def reversed (n : Nat) : Nat → List Char
  | 0 => []
  | width + 1 => (digits[n % 32]?).getD '0' :: reversed (n / 32) width

/-- Milliseconds since 1970 before 80 bits that make the mark a new one. -/
def text (millis random : Nat) : String :=
  .ofList (reversed (millis * Nat.pow 2 80 + random % Nat.pow 2 80) 26).reverse

/-- The id of a new bookmark. -/
def bookmarkId (millis random : Nat) : String :=
  "e-" ++ .ofList ((text millis random).toList.map Char.toLower)

end Linkshelf.Ulid
