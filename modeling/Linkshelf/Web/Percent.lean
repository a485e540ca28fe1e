import Linkshelf.Text.Basic
import Linkshelf.Text.Hex
import Linkshelf.Text.Utf8

/-! Bytes written with a percent sign and two hex digits, and the fields of a query string. -/
namespace Linkshelf.Percent

def digit? (b : UInt8) : Option Nat := Hex.value? (Char.ofNat b.toNat)

/-- A percent sign without two hex digits stays as it is. -/
def decode : Bytes → Bytes
  | [] => []
  | b :: bs =>
    match bs with
    | high :: low :: rest =>
      match if b = 0x25 then digit? high else none, digit? low with
      | some h, some l => (h * 16 + l).toUInt8 :: decode rest
      | _, _ => b :: decode (high :: low :: rest)
    | bs => b :: decode bs

/-- The decoded text, if it is UTF-8. -/
def text? (s : List Char) : Option String :=
  Utf8.decode? (decode (Utf8.encode (.ofList s)))

def plusToSpace (c : Char) : Char := if c = '+' then ' ' else c

def fieldText (s : List Char) : String :=
  Utf8.decodeLossy (decode (Utf8.encode (.ofList (s.map plusToSpace))))

/-- Name and value are parted by the first equals sign. -/
def field (s : List Char) : String × String :=
  let (name, value) := s.span (· != '=')
  (fieldText name, fieldText value.tail)

/-- The fields between ampersands, without the empty ones. -/
def fields (query : List Char) : List (String × String) :=
  ((Chars.split (· == '&') query).filter (!·.isEmpty)).map field

end Linkshelf.Percent
