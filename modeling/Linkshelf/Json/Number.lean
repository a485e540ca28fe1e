import Linkshelf.Json.Basic
import Linkshelf.Json.Fault

/-! Reading JSON numbers, and which of them are too large for a double. -/
namespace Linkshelf.Json

/-- A natural number rounded to the 53 leading bits a double has, a tie to even. -/
def roundToDouble (n : Nat) : Nat :=
  let extra := n.log2 + 1 - 53
  let unit := Nat.pow 2 extra
  let kept := n / unit
  let lost := n % unit
  if unit < 2 * lost || (unit == 2 * lost && kept % 2 == 1) then (kept + 1) * unit
  else kept * unit

/-- Whether `significand * 10 ^ exponent`, taken as the product of two doubles, has no double. -/
def overflowsDouble (significand : Nat) (exponent : Int) : Bool :=
  significand != 0 &&
    (308 < exponent ||
      (0 ≤ exponent &&
        Nat.pow 2 1024 ≤
          roundToDouble (roundToDouble significand * roundToDouble (Nat.pow 10 exponent.toNat))))

/-- Digits taken into the significand as long as it stays below 2^64, and the others. -/
def absorb (significand : Nat) : List Char → Nat × List Char
  | [] => (significand, [])
  | d :: ds =>
    let more := significand * 10 + (d.toNat - '0'.toNat)
    if more < Nat.pow 2 64 then absorb more ds else (significand, d :: ds)

/-- The digits after the one that takes the exponent beyond 31 bits. -/
def beyondExponent (value : Nat) : List Char → Option (List Char)
  | [] => none
  | d :: ds =>
    let more := value * 10 + (d.toNat - '0'.toNat)
    if more < Nat.pow 2 31 then beyondExponent more ds else some ds

def digitsValue (ds : List Char) : Nat :=
  ds.foldl (fun n d => n * 10 + (d.toNat - '0'.toNat)) 0

def digit? : Glyph → Option Char
  | .char c => if c.isDigit then some c else none
  | .stray _ => none

def takeDigits : List Glyph → List Char × List Glyph
  | [] => ([], [])
  | g :: gs =>
    match digit? g with
    | some d => (d :: (takeDigits gs).1, (takeDigits gs).2)
    | none => ([], g :: gs)

/-- The digits before the point: one zero, or several digits of which the first is not zero. -/
def readWhole (s : List Glyph) : Except Fault (List Char × List Glyph) :=
  match takeDigits s with
  | ([], []) => .error (.here .endInValue [])
  | ([], s) => .error (.ahead .invalidNumber s)
  | ('0' :: _ :: _, _) => .error (.ahead .invalidNumber (s.drop 1))
  | (ds, rest) => .ok (ds, rest)

/-- The digits after a point, if there is one; a point needs a digit. -/
def readFraction (s : List Glyph) : Except Fault (Option (List Char) × List Glyph) :=
  match s with
  | .char '.' :: s =>
    match takeDigits s with
    | ([], []) => .error (.here .endInValue [])
    | ([], s) => .error (.ahead .invalidNumber s)
    | (ds, rest) => .ok (some ds, rest)
  | s => .ok (none, s)

/-- The sign and digits of an exponent; the mark needs a digit. -/
structure Exponent where
  mark : List Char
  negative : Bool
  digits : List Char

def readExponentDigits (mark : List Char) (negative : Bool) (s : List Glyph) :
    Except Fault (Option Exponent × List Glyph) :=
  match takeDigits s with
  | ([], []) => .error (.here .endInValue [])
  | ([], s) => .error (.ahead .invalidNumber s)
  | (ds, rest) => .ok (some ⟨mark, negative, ds⟩, rest)

def readExponent (s : List Glyph) : Except Fault (Option Exponent × List Glyph) :=
  match s with
  | .char 'e' :: .char '+' :: s => readExponentDigits ['e', '+'] false s
  | .char 'e' :: .char '-' :: s => readExponentDigits ['e', '-'] true s
  | .char 'e' :: s => readExponentDigits ['e'] false s
  | .char 'E' :: .char '+' :: s => readExponentDigits ['E', '+'] false s
  | .char 'E' :: .char '-' :: s => readExponentDigits ['E', '-'] true s
  | .char 'E' :: s => readExponentDigits ['E'] false s
  | s => .ok (none, s)

/-- Where a number that is read is found to be too large, if it is. -/
def rangeFault (whole : List Char) (fraction : Option (List Char)) (exponent : Option Exponent)
    (rest : List Glyph) : Option Fault :=
  let (significand, surplus) := absorb 0 whole
  let (significand, cut) := absorb significand (fraction.getD [])
  let scale : Int := surplus.length - ((fraction.getD []).length - cut.length : Nat)
  match exponent with
  | none =>
    if overflowsDouble significand scale then some (.here .numberOutOfRange rest) else none
  | some e =>
    match beyondExponent 0 e.digits with
    | some unread =>
      if significand != 0 && !e.negative then
        some (.here .numberOutOfRange (unread.map .char ++ rest))
      else none
    | none =>
      let power : Int := digitsValue e.digits
      if overflowsDouble significand (if e.negative then scale - power else scale + power) then
        some (.here .numberOutOfRange rest)
      else none

/-- A number whose sign, if any, is already read. With `lax` its size does not matter. -/
def readNumber (lax negative : Bool) (s : List Glyph) : Except Fault (Json × List Glyph) := do
  let (whole, s) ← readWhole s
  let (fraction, s) ← readFraction s
  let (exponent, s) ← readExponent s
  if fraction.isNone && exponent.isNone && !negative && digitsValue whole < Nat.pow 2 64 then
    return (natural (digitsValue whole), s)
  match if lax then none else rangeFault whole fraction exponent s with
  | some fault => throw fault
  | none =>
    let sign := if negative then ['-'] else []
    let tail := (fraction.map ('.' :: ·)).getD [] ++
      (exponent.map fun e => e.mark ++ e.digits).getD []
    return (decimal (.ofList (sign ++ whole ++ tail)), s)

end Linkshelf.Json
