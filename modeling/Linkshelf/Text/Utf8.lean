/-! Bytes and characters: UTF-8 both ways, with what is not UTF-8 kept in place. -/
namespace Linkshelf

abbrev Bytes := List UInt8

/-- A character, or the bytes that start none. -/
inductive Glyph where
  | char (c : Char)
  | stray (width : Nat)
  deriving DecidableEq, Repr

namespace Utf8

def encodeChar (c : Char) : Bytes :=
  let n := c.toNat
  if n < 0x80 then [n.toUInt8]
  else if n < 0x800 then [(0xC0 + n / 64).toUInt8, (0x80 + n % 64).toUInt8]
  else if n < 0x10000 then
    [(0xE0 + n / 4096).toUInt8, (0x80 + n / 64 % 64).toUInt8, (0x80 + n % 64).toUInt8]
  else
    [(0xF0 + n / 262144).toUInt8, (0x80 + n / 4096 % 64).toUInt8,
      (0x80 + n / 64 % 64).toUInt8, (0x80 + n % 64).toUInt8]

def encode (s : String) : Bytes := s.toList.flatMap encodeChar

/-- A character of which `width` bytes are read and `missing` are not; `low` and `high` bound the
next byte. -/
structure Pending where
  code : Nat
  width : Nat
  missing : Nat
  low : Nat
  high : Nat

/-- The first byte of a character; the second one's bounds exclude overlong forms, surrogates and
what lies beyond the last code point. -/
def first (b : UInt8) : Except Glyph Pending :=
  let n := b.toNat
  if n < 0x80 then .error (.char (Char.ofNat n))
  else if n < 0xC2 then .error (.stray 1)
  else if n < 0xE0 then .ok ⟨n - 0xC0, 1, 1, 0x80, 0xBF⟩
  else if n = 0xE0 then .ok ⟨0, 1, 2, 0xA0, 0xBF⟩
  else if n = 0xED then .ok ⟨0xD, 1, 2, 0x80, 0x9F⟩
  else if n < 0xF0 then .ok ⟨n - 0xE0, 1, 2, 0x80, 0xBF⟩
  else if n = 0xF0 then .ok ⟨0, 1, 3, 0x90, 0xBF⟩
  else if n < 0xF4 then .ok ⟨n - 0xF0, 1, 3, 0x80, 0xBF⟩
  else if n = 0xF4 then .ok ⟨4, 1, 3, 0x80, 0x8F⟩
  else .error (.stray 1)

def Pending.accepts (p : Pending) (b : UInt8) : Bool := p.low ≤ b.toNat && b.toNat ≤ p.high

def Pending.next (p : Pending) (b : UInt8) : Except Glyph Pending :=
  let code := p.code * 64 + b.toNat % 64
  if p.missing = 1 then .error (.char (Char.ofNat code))
  else .ok ⟨code, p.width + 1, p.missing - 1, 0x80, 0xBF⟩

/-- A byte that does not go on with the pending character starts anew. -/
def glyphsFrom : Option Pending → Bytes → List Glyph
  | none, [] => []
  | some p, [] => [.stray p.width]
  | none, b :: bs =>
    match first b with
    | .error g => g :: glyphsFrom none bs
    | .ok p => glyphsFrom (some p) bs
  | some p, b :: bs =>
    if p.accepts b then
      match p.next b with
      | .error g => g :: glyphsFrom none bs
      | .ok p => glyphsFrom (some p) bs
    else
      .stray p.width ::
        match first b with
        | .error g => g :: glyphsFrom none bs
        | .ok p => glyphsFrom (some p) bs

def glyphs (bs : Bytes) : List Glyph := glyphsFrom none bs

end Utf8

namespace Glyph

def ofString (s : String) : List Glyph := s.toList.map char

/-- Bytes in the written form. -/
def width : Glyph → Nat
  | char c => (Utf8.encodeChar c).length
  | stray width => width

def size : List Glyph → Nat
  | [] => 0
  | g :: gs => g.width + size gs

def char? : Glyph → Option Char
  | char c => some c
  | stray _ => none

end Glyph

namespace Utf8

/-- The text, if all of it is UTF-8. -/
def decode? (bs : Bytes) : Option String :=
  ((glyphs bs).mapM Glyph.char?).map .ofList

/-- The text, with a replacement character for each stray part. -/
def decodeLossy (bs : Bytes) : String :=
  .ofList ((glyphs bs).map fun g => g.char?.getD '\ufffd')

end Utf8
end Linkshelf
