import Linkshelf.Text.Hex
import Linkshelf.Yaml.Basic

/-! Reading scalars: plain, in quotes of either kind, and as a block of lines. -/
namespace Linkshelf.Yaml

/-- The spacing and the line ends since the last visible character of a scalar. -/
inductive Gap where
  | spacing (blanks : List Char)
  | folded (first more : List Char)
  deriving DecidableEq, Repr

namespace Gap

def none : Gap := spacing []

def add (c : Char) : Gap → Gap
  | spacing blanks => if isBreak c then folded [c] [] else spacing (blanks ++ [c])
  | folded first more => if isBreak c then folded first (more ++ [c]) else folded first more

def isFolded : Gap → Bool
  | spacing _ => false
  | folded _ _ => true

/-- One line feed reads as a space, and of several the first does not count. -/
def text : Gap → List Char
  | spacing blanks => blanks
  | folded ['\n'] [] => [' ']
  | folded ['\n'] more => more
  | folded first more => first ++ more

end Gap

/-- Puts text before what is read from the rest. -/
def followed (text : List Char) (r : Option (List Char × List Char)) :
    Option (List Char × List Char) :=
  r.map fun (more, rest) => (text ++ more, rest)

/-- The rest of a text in single quotes, of which a doubled one stands for itself. -/
def readSingle : Gap → List Char → Option (List Char × List Char)
  | _, [] => none
  | gap, '\'' :: '\'' :: s => followed (gap.text ++ ['\'']) (readSingle .none s)
  | gap, c :: s =>
    if c = '\'' then some (gap.text, s)
    else if isBreak c && isEdge s then none
    else if isBreak c || isSpacing c then readSingle (gap.add c) s
    else followed (gap.text ++ [c]) (readSingle .none s)

def namedEscape? : Char → Option Char
  | '0' => some '\x00'
  | 'a' => some '\x07'
  | 'b' => some '\x08'
  | 't' | '\t' => some '\t'
  | 'n' => some '\n'
  | 'v' => some '\x0b'
  | 'f' => some '\x0c'
  | 'r' => some '\r'
  | 'e' => some '\x1b'
  | ' ' => some ' '
  | '"' => some '"'
  | '\'' => some '\''
  | '/' => some '/'
  | '\\' => some '\\'
  | 'N' => some '\x85'
  | '_' => some '\xa0'
  | 'L' => some lineSeparator
  | 'P' => some paragraphSeparator
  | _ => none

/-- How many hex digits follow. -/
def hexWidth? : Char → Option Nat
  | 'x' => some 2
  | 'u' => some 4
  | 'U' => some 8
  | _ => none

/-- What the next character in double quotes is part of. -/
inductive DoubleState where
  | plain
  | escape
  | hex (missing code : Nat)
  deriving DecidableEq, Repr

/-- The rest of a text in double quotes. A backslash at the end of a line joins the lines. -/
def readDouble : DoubleState → Gap → List Char → Option (List Char × List Char)
  | _, _, [] => none
  | .plain, gap, c :: s =>
    if c = '"' then some (gap.text, s)
    else if c = '\\' then followed gap.text (readDouble .escape .none s)
    else if isBreak c && isEdge s then none
    else if isBreak c || isSpacing c then readDouble .plain (gap.add c) s
    else followed (gap.text ++ [c]) (readDouble .plain .none s)
  | .escape, gap, c :: s =>
    if isBreak c then if isEdge s then none else readDouble .plain (.folded [] []) s
    else
      match namedEscape? c, hexWidth? c with
      | some e, _ => followed [e] (readDouble .plain .none s)
      | none, some width => readDouble (.hex width 0) gap s
      | none, none => none
  | .hex missing code, gap, c :: s =>
    match Hex.value? c with
    | none => none
    | some digit =>
      let code := code * 16 + digit
      if 1 < missing then readDouble (.hex (missing - 1) code) gap s
      else if code.isValidChar then followed [Char.ofNat code] (readDouble .plain .none s)
      else none

def isFlowSign (c : Char) : Bool := c = ',' || c = '[' || c = ']' || c = '\x7b' || c = '\x7d'

/-- Whether a colon ends a plain scalar or a key. -/
def isColon (c : Char) (s : List Char) : Bool := c = ':' && isApart s

/-- Inside brackets no plain scalar has a colon right before one of them. -/
def isTightColon (inFlow : Bool) (c : Char) : List Char → Bool
  | [] => false
  | d :: _ => inFlow && c = ':' && (isFlowSign d || d = '?')

/-- A plain scalar and the rest from its last visible character on. It goes over lines unless
`oneLine`, as long as they stand `min` columns in. `left` is the text from the gap on. -/
def readPlain (inFlow oneLine : Bool) (min : Nat) :
    Gap → Nat → List Char → List Char → Option (List Char × List Char)
  | _, _, left, [] => some ([], left)
  | gap, column, left, c :: s =>
    if isBreak c then
      if oneLine || isEdge s then some ([], left)
      else readPlain inFlow oneLine min (gap.add c) 0 left s
    else if gap.isFolded && column < min && (c = '\t' || (c != ' ' && !inFlow)) then
      some ([], left)
    else if isSpacing c then readPlain inFlow oneLine min (gap.add c) (column + 1) left s
    else if (c = '#' && gap != .none) || isColon c s || (inFlow && isFlowSign c) then
      some ([], left)
    else if isTightColon inFlow c s then none
    else followed (gap.text ++ [c]) (readPlain inFlow oneLine min .none (column + 1) s s)

def isIndicator (c : Char) : Bool :=
  isFlowSign c || c = '#' || c = '&' || c = '*' || c = '!' || c = '|' || c = '>' || c = '\'' ||
    c = '"' || c = '%' || c = '@' || c = (Char.ofNat 0x60)

/-- Whether a plain scalar can start here. -/
def startsPlain (inFlow : Bool) : List Char → Bool
  | [] => false
  | c :: s =>
    if isIndicator c || isSpacing c || isBreak c then false
    else if c = '-' then !isApart s
    else if c = '?' || c = ':' then !inFlow && !isApart s
    else true

/-- What is kept of the line ends after the last line of a block. -/
inductive Chomp where
  | strip
  | clip
  | keep
  deriving DecidableEq, Repr

/-- The lines of a text, each with its end. -/
def lines : List Char → List (List Char)
  | [] => []
  | c :: s =>
    if isBreak c then [c] :: lines s
    else
      match lines s with
      | [] => [[c]]
      | l :: ls => (c :: l) :: ls

/-- The line ends after the last line, and those of the empty lines after it. -/
def Chomp.text (last empty : List Char) : Chomp → List Char
  | strip => []
  | clip => last
  | keep => last ++ empty

/-- The lines of a block that stand `indent` columns in. `last` is the end of the line before,
`wasBlank` tells that it began with spacing, and `empty` has the ends of the empty lines since. -/
def readBlockLines (isLiteral : Bool) (chomp : Chomp) (indent : Nat)
    (last : List Char) (wasBlank : Bool) (empty : List Char) :
    List (List Char) → Option (List Char × List (List Char))
  | [] => some (chomp.text last empty, [])
  | l :: ls =>
    let margin := Nat.min indent (l.takeWhile (· = ' ')).length
    match l.drop margin with
    | [] => some (chomp.text last empty, [])
    | c :: body =>
      if isBreak c then readBlockLines isLiteral chomp indent last wasBlank (empty ++ [c]) ls
      else if margin < indent then
        if c = '\t' then none else some (chomp.text last empty, l :: ls)
      else
        let joint :=
          if !isLiteral && last = ['\n'] && !wasBlank && !isSpacing c then
            if empty.isEmpty then [' '] else empty
          else last ++ empty
        let (text, ending) := (c :: body).span (!isBreak ·)
        (readBlockLines isLiteral chomp indent ending (isSpacing c) [] ls).map fun (more, rest) =>
          (joint ++ text ++ more, rest)

/-- How far the first line of a block that is not empty stands in, at least `deepest`. -/
def findIndent (deepest : Nat) : List (List Char) → Option Nat
  | [] => some deepest
  | l :: ls =>
    let margin := (l.takeWhile (· = ' ')).length
    let deepest := Nat.max deepest margin
    match l.drop margin with
    | [] => some deepest
    | c :: _ =>
      if isBreak c then findIndent deepest ls
      else if c = '\t' then none
      else some deepest

def chompOf? : Char → Option Chomp
  | '-' => some .strip
  | '+' => some .keep
  | _ => none

def indentOf? (c : Char) : Option Nat :=
  if c.isDigit && c != '0' then some (c.toNat - '0'.toNat) else none

/-- What may stand between the sign of a block and the end of its line, in either order. -/
def readHints (s : List Char) : Chomp × Option Nat × List Char :=
  match s with
  | [] => (.clip, none, [])
  | c :: t =>
    match chompOf? c, indentOf? c with
    | some chomp, _ =>
      match t.head?.bind indentOf? with
      | some n => (chomp, some n, t.tail)
      | none => (chomp, none, t)
    | none, some n =>
      match t.head?.bind chompOf? with
      | some chomp => (chomp, some n, t.tail)
      | none => (.clip, some n, t)
    | none, none => (.clip, none, s)

/-- A block after its sign; it stands at least `min` columns in. The rest begins with the line end
before it. -/
def readBlock (isLiteral : Bool) (min : Nat) (s : List Char) : Option (List Char × List Char) :=
  let (chomp, hint, s) := readHints s
  let s := s.dropWhile isSpacing
  let s := if s.head? = some '#' then s.dropWhile (!isBreak ·) else s
  match s with
  | c :: _ =>
    if !isBreak c then none
    else
      let ls := lines s.tail
      let indent := match hint with
        | some n => some (min - 1 + n)
        | none => findIndent (Nat.max min 1) ls
      indent.bind fun indent =>
        (readBlockLines isLiteral chomp indent [] false [] ls).map fun (text, rest) =>
          (text, '\n' :: rest.flatten)
  | [] => some ([], [])

end Linkshelf.Yaml
