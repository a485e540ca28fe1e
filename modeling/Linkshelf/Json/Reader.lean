import Linkshelf.Json.Number
import Linkshelf.Json.Text

/-! Reading JSON text: strict, without a byte order mark, and no deeper than 127 levels. -/
namespace Linkshelf.Json

def isGap : Glyph → Bool
  | .char ' ' | .char '\n' | .char '\t' | .char '\r' => true
  | _ => false

def skipGap (s : List Glyph) : List Glyph := s.dropWhile isGap

/-- The rest of a keyword. -/
def readKeyword : List Char → List Glyph → Except Fault (List Glyph)
  | [], s => .ok s
  | _ :: _, [] => .error (.here .endInValue [])
  | c :: cs, g :: s =>
    if g = .char c then readKeyword cs s else .error (.ahead .expectedIdent (g :: s))

def readColon (s : List Glyph) : Except Fault (List Glyph) :=
  match skipGap s with
  | .char ':' :: s => .ok s
  | [] => .error (.here .endInObject [])
  | s => .error (.ahead .expectedColon s)

/-- What follows in a list or an object: its end, or one more item with where it starts. -/
inductive Following where
  | close (rest : List Glyph)
  | item (rest : List Glyph)

/-- After an opening bracket (`isFirst`) or an item of a list. -/
def followingItem (isFirst : Bool) (s : List Glyph) : Except Fault Following :=
  match skipGap s with
  | [] => .error (.here .endInList [])
  | .char ']' :: s => .ok (.close s)
  | g :: s =>
    if isFirst then .ok (.item (g :: s))
    else if g = .char ',' then
      match skipGap s with
      | [] => .error (.here .endInValue [])
      | .char ']' :: s => .error (.ahead .trailingComma (.char ']' :: s))
      | s => .ok (.item s)
    else .error (.ahead .expectedListEnd (g :: s))

/-- After an opening brace (`isFirst`) or a member of an object; an item starts after the quote
of its key. -/
def followingMember (isFirst : Bool) (s : List Glyph) : Except Fault Following :=
  match skipGap s with
  | [] => .error (.here .endInObject [])
  | .char '\x7d' :: s => .ok (.close s)
  | g :: s =>
    if isFirst then
      if g = .char '"' then .ok (.item s) else .error (.ahead .keyNotString (g :: s))
    else if g = .char ',' then
      match skipGap s with
      | [] => .error (.here .endInValue [])
      | .char '"' :: s => .ok (.item s)
      | .char '\x7d' :: s => .error (.ahead .trailingComma (.char '\x7d' :: s))
      | s => .error (.ahead .keyNotString s)
    else .error (.ahead .expectedObjectEnd (g :: s))

mutual

/-- One value. `depth` is one more than the levels that may still open; with `lax` it does not
matter, nor do the sizes of numbers and the halves of surrogate pairs. -/
def readValue (lax : Bool) (depth : Nat) : Nat → List Glyph → Except Fault (Json × List Glyph)
  | 0, s => .error (.here .tooDeep s)
  | fuel + 1, s =>
    match skipGap s with
    | [] => .error (.here .endInValue [])
    | .char 'n' :: s => (readKeyword ['u', 'l', 'l'] s).map (null, ·)
    | .char 't' :: s => (readKeyword ['r', 'u', 'e'] s).map (bool true, ·)
    | .char 'f' :: s => (readKeyword ['a', 'l', 's', 'e'] s).map (bool false, ·)
    | .char '"' :: s => (readString lax s).map fun (text, s) => (string text, s)
    | .char '-' :: s => readNumber lax true s
    | .char '[' :: s =>
      if !lax && depth ≤ 1 then .error (.ahead .tooDeep (.char '[' :: s))
      else (readItems lax (depth - 1) true fuel s).map fun (items, s) => (array items, s)
    | .char '\x7b' :: s =>
      if !lax && depth ≤ 1 then .error (.ahead .tooDeep (.char '\x7b' :: s))
      else (readMembers lax (depth - 1) true fuel s).map fun (members, s) => (object members, s)
    | g :: s =>
      if (digit? g).isSome then readNumber lax false (g :: s)
      else .error (.ahead .expectedValue (g :: s))

def readItems (lax : Bool) (depth : Nat) (isFirst : Bool) :
    Nat → List Glyph → Except Fault (List Json × List Glyph)
  | 0, s => .error (.here .tooDeep s)
  | fuel + 1, s =>
    match followingItem isFirst s with
    | .error fault => .error fault
    | .ok (.close s) => .ok ([], s)
    | .ok (.item s) =>
      match readValue lax depth fuel s with
      | .error fault => .error fault
      | .ok (v, s) => (readItems lax depth false fuel s).map fun (vs, s) => (v :: vs, s)

def readMembers (lax : Bool) (depth : Nat) (isFirst : Bool) :
    Nat → List Glyph → Except Fault (List (String × Json) × List Glyph)
  | 0, s => .error (.here .tooDeep s)
  | fuel + 1, s =>
    match followingMember isFirst s with
    | .error fault => .error fault
    | .ok (.close s) => .ok ([], s)
    | .ok (.item s) =>
      match readString lax s with
      | .error fault => .error fault
      | .ok (key, s) =>
        match readColon s with
        | .error fault => .error fault
        | .ok s =>
          match readValue lax depth fuel s with
          | .error fault => .error fault
          | .ok (v, s) =>
            (readMembers lax depth false fuel s).map fun (ms, s) => ((key, v) :: ms, s)

end

def maxDepth : Nat := 128

/-- Each step of the reader takes a character or goes one level down. -/
def enough (s : List Glyph) : Nat := 2 * s.length + 2

/-- The value a text starts with, and the rest. -/
def readFirst (s : List Glyph) : Except Fault (Json × List Glyph) :=
  readValue false maxDepth (enough s) s

/-- The value a text is. -/
def read (s : List Glyph) : Except Fault Json :=
  match readFirst s with
  | .error fault => .error fault
  | .ok (v, rest) =>
    match skipGap rest with
    | [] => .ok v
    | rest => .error (.ahead .trailingCharacters rest)

def ofBytes (bytes : Bytes) : Except Fault Json := read (Utf8.glyphs bytes)

end Linkshelf.Json
