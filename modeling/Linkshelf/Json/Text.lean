import Linkshelf.Json.Fault
import Linkshelf.Text.Hex

/-! Reading JSON strings. -/
namespace Linkshelf.Json

/-- What the next character of a string is part of. `lead` is the first half of a surrogate pair
that waits for its second. -/
inductive StringState where
  | plain
  | escape
  | hex (missing code : Nat) (valid : Bool) (lead : Option Nat)
  | secondSlash (lead : Nat)
  | secondMark (lead : Nat)
  deriving DecidableEq, Repr

def simpleEscape? : Char → Option Char
  | '"' => some '"'
  | '\\' => some '\\'
  | '/' => some '/'
  | 'b' => some '\x08'
  | 'f' => some '\x0c'
  | 'n' => some '\n'
  | 'r' => some '\r'
  | 't' => some '\t'
  | _ => none

/-- What four hex digits give: a character, the first half of a pair, or neither. -/
inductive HexCode where
  | char (c : Char)
  | lead (code : Nat)
  | lone

def HexCode.of (lead : Option Nat) (code : Nat) : HexCode :=
  match lead with
  | none =>
    if 0xDC00 ≤ code && code ≤ 0xDFFF then .lone
    else if 0xD800 ≤ code && code ≤ 0xDBFF then .lead code
    else .char (Char.ofNat code)
  | some first =>
    if 0xDC00 ≤ code && code ≤ 0xDFFF then
      .char (Char.ofNat ((first - 0xD800) * 0x400 + (code - 0xDC00) + 0x10000))
    else .lone

/-- The rest of a string after its opening quote. `done` holds the characters so far, the last
first, and is `none` once bytes were met that are not UTF-8. With `lax` any four hex digits and
any bytes will do. -/
def readStringFrom (lax : Bool) : StringState → Option (List Char) → List Glyph →
    Except Fault (String × List Glyph)
  | _, _, [] => .error (.here .endInString [])
  | .plain, done, g :: s =>
    match g with
    | .char '"' =>
      match done with
      | some cs => .ok (.ofList cs.reverse, s)
      | none => if lax then .ok ("", s) else .error (.here .invalidCodePoint s)
    | .char '\\' => readStringFrom lax .escape done s
    | .char c =>
      if c.toNat < 32 then .error (.here .controlCharacter s)
      else readStringFrom lax .plain (done.map (c :: ·)) s
    | .stray _ => readStringFrom lax .plain none s
  | .escape, done, g :: s =>
    match g with
    | .char 'u' => readStringFrom lax (.hex 4 0 true none) done s
    | .char c =>
      match simpleEscape? c with
      | some c => readStringFrom lax .plain (done.map (c :: ·)) s
      | none => .error (.ahead .invalidEscape (g :: s))
    | .stray _ => .error (.ahead .invalidEscape (g :: s))
  | .hex missing code valid lead, done, g :: s =>
    let value := g.char?.bind Hex.value?
    let code := code * 16 + value.getD 0
    let valid := valid && value.isSome
    if g.width < missing then readStringFrom lax (.hex (missing - g.width) code valid lead) done s
    else if !valid then .error ⟨.invalidEscape, Glyph.size (g :: s) - missing⟩
    else if lax then readStringFrom lax .plain done s
    else
      match HexCode.of lead code with
      | .char c => readStringFrom lax .plain (done.map (c :: ·)) s
      | .lead code => readStringFrom lax (.secondSlash code) done s
      | .lone => .error (.here .loneSurrogate s)
  | .secondSlash lead, done, g :: s =>
    if g = .char '\\' then readStringFrom lax (.secondMark lead) done s
    else .error (.ahead .endOfHexEscape (g :: s))
  | .secondMark lead, done, g :: s =>
    if g = .char 'u' then readStringFrom lax (.hex 4 0 true (some lead)) done s
    else .error (.ahead .endOfHexEscape (g :: s))

def readString (lax : Bool) (s : List Glyph) : Except Fault (String × List Glyph) :=
  readStringFrom lax .plain (some []) s

end Linkshelf.Json
