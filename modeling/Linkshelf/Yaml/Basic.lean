/-! YAML values and the characters of YAML text. -/
namespace Linkshelf

/-- Scalars are text; a plain one has no quotes and is no block. -/
inductive Yaml where
  | scalar (isPlain : Bool) (text : List Char)
  | list (items : List Yaml)
  | mapping (members : List (Yaml × Yaml))
  deriving Repr, Inhabited

namespace Yaml

/-- The value that stands where nothing is written. -/
def nothing : Yaml := scalar true []

def lineSeparator : Char := '\u2028'

def paragraphSeparator : Char := '\u2029'

/-- What ends a line; other line ends are read as a line feed. -/
def isBreak (c : Char) : Bool := c = '\n' || c = lineSeparator || c = paragraphSeparator

/-- A space or a tab. -/
def isSpacing (c : Char) : Bool := c = ' ' || c = '\t'

/-- May stand in text as it is. -/
def isPrintable (c : Char) : Bool :=
  let n := c.toNat
  n = 0x0A || (0x20 ≤ n && n ≤ 0x7E) || (0xA0 ≤ n && n ≤ 0xFFFD && n ≠ 0xFEFF) || 0x10000 ≤ n

/-- May stand in a text that is read. -/
def isAllowed (c : Char) : Bool := isPrintable c || c = '\t' || c = '\r' || c = '\x85'

/-- Whether what goes before has ended: at a blank, at a line end or at the end. -/
def isApart : List Char → Bool
  | [] => true
  | c :: _ => isSpacing c || isBreak c

/-- Carriage returns, with or without a line feed, and next-line characters become line feeds. -/
def unifyBreaks : List Char → List Char
  | [] => []
  | '\r' :: '\n' :: s => '\n' :: unifyBreaks s
  | c :: s => (if c = '\r' || c = '\x85' then '\n' else c) :: unifyBreaks s

/-- The text without a byte order mark and with one kind of line end, if all of it may be read. -/
def clean? (s : List Char) : Option (List Char) :=
  let s := match s with
    | '\ufeff' :: s => s
    | s => s
  if s.all isAllowed then some (unifyBreaks s) else none

/-- Three dashes or dots at the start of a line mark where a document starts or ends. -/
def isMark (c : Char) : List Char → Bool
  | a :: b :: d :: s => a = c && b = c && d = c && isApart s
  | _ => false

def isEdge (s : List Char) : Bool := isMark '-' s || isMark '.' s

end Yaml
end Linkshelf
