import Linkshelf.Text.Utf8

/-! Where and why a text is not JSON. -/
namespace Linkshelf.Json

inductive Cause where
  | endInList
  | endInObject
  | endInString
  | endInValue
  | expectedColon
  | expectedListEnd
  | expectedObjectEnd
  | expectedIdent
  | expectedValue
  | invalidEscape
  | invalidNumber
  | numberOutOfRange
  | invalidCodePoint
  | controlCharacter
  | keyNotString
  | loneSurrogate
  | endOfHexEscape
  | trailingComma
  | trailingCharacters
  | tooDeep
  deriving DecidableEq, Repr

def Cause.message : Cause → String
  | endInList => "EOF while parsing a list"
  | endInObject => "EOF while parsing an object"
  | endInString => "EOF while parsing a string"
  | endInValue => "EOF while parsing a value"
  | expectedColon => "expected `:`"
  | expectedListEnd => "expected `,` or `]`"
  | expectedObjectEnd => "expected `,` or `\x7d`"
  | expectedIdent => "expected ident"
  | expectedValue => "expected value"
  | invalidEscape => "invalid escape"
  | invalidNumber => "invalid number"
  | numberOutOfRange => "number out of range"
  | invalidCodePoint => "invalid unicode code point"
  | controlCharacter =>
    "control character (\\u0000-\\u001F) found while parsing a string"
  | keyNotString => "key must be a string"
  | loneSurrogate => "lone leading surrogate in hex escape"
  | endOfHexEscape => "unexpected end of hex escape"
  | trailingComma => "trailing comma"
  | trailingCharacters => "trailing characters"
  | tooDeep => "recursion limit exceeded"

/-- A cause, and how many bytes were still unread when it was found. -/
structure Fault where
  cause : Cause
  left : Nat
  deriving DecidableEq, Repr

namespace Fault

/-- Found when all of `rest` was still unread. -/
def here (cause : Cause) (rest : List Glyph) : Fault := ⟨cause, Glyph.size rest⟩

/-- Found at the next byte, which counts as read. -/
def ahead (cause : Cause) (rest : List Glyph) : Fault := ⟨cause, Glyph.size rest - 1⟩

/-- Line from 1, and bytes into the line, after the first `n` bytes of a text. -/
def place (line column : Nat) (n : Nat) : List Glyph → Nat × Nat
  | [] => (line, column)
  | g :: gs =>
    if n < g.width then (line, column + n)
    else if g = .char '\n' then place (line + 1) 0 (n - g.width) gs
    else place line (column + g.width) (n - g.width) gs

def message (whole : List Glyph) (f : Fault) : String :=
  let (line, column) := place 1 0 (Glyph.size whole - f.left) whole
  f.cause.message ++ " at line " ++ toString line ++ " column " ++ toString column

end Fault
end Linkshelf.Json
