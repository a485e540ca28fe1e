import Linkshelf.Yaml.Scalar

/-! How a scalar is written as the value of a key: plain if that reads back as the same text, else
in quotes or as a block. -/
namespace Linkshelf.Yaml

inductive Style where
  | plain
  | single
  | double
  | literal
  deriving DecidableEq, Repr

/-- Words that would not read as text. -/
def reserved : List String :=
  ["true", "false", "null", "~", "nil", "nan", "y", "yes", "n", "no", "on", "off"]

/-- Could be taken for something other than text: nothing, a reserved word, or what starts like a
number. -/
def isAmbiguous : List Char → Bool
  | [] => true
  | c :: s =>
    c.isDigit || c = '-' || c = '.' || c = '+' ||
      reserved.contains (.ofList ((c :: s).map Char.toLower))

/-- Whether some character and the one after it are of two kinds. -/
def hasPair (p q : Char → Bool) : List Char → Bool
  | a :: b :: s => (p a && q b) || hasPair p q (b :: s)
  | _ => false

def isSpace (c : Char) : Bool := c = ' '

/-- Nothing in it has to be escaped. -/
def isQuotable (s : List Char) : Bool := s.all isPrintable && !hasPair isSpace isBreak s

/-- Whether a colon stands before a space or at the end. -/
def hasColon : List Char → Bool
  | [] => false
  | c :: s => isColon c s || hasColon s

/-- Reads as a plain scalar, and as the same text. -/
def isPlainText (s : List Char) : Bool :=
  startsPlain false s && s.head? != some ' ' && s.getLast? != some ' ' && !s.any isBreak &&
    !hasColon s && !hasPair isSpace (· = '#') s

def style (s : List Char) : Style :=
  if s.contains '\n' then
    if isQuotable s && s.getLast? != some ' ' then .literal else .double
  else if !isQuotable s then .double
  else if !isAmbiguous s && isPlainText s then .plain
  else if hasPair isBreak isSpace s then .double
  else .single

/-- Two spaces come before the first character of a line that is not the first. -/
def indentLines (atStart : Bool) : List Char → List Char
  | [] => []
  | c :: s =>
    if isBreak c then c :: indentLines true s
    else (if atStart then [' ', ' '] else []) ++ c :: indentLines false s

def endsInBreak (s : List Char) : Bool :=
  match s.getLast? with
  | some c => isBreak c
  | none => false

def singleQuoted (s : List Char) : List Char :=
  let doubled := s.flatMap fun c => if c = '\'' then ['\'', '\''] else [c]
  '\'' :: (indentLines false doubled ++ (if endsInBreak s then [' ', ' '] else []) ++ ['\''])

/-- A character named by its code in upper-case hex digits. -/
def hexEscape (mark : Char) (width code : Nat) : List Char :=
  let digits := (Nat.toDigits 16 code).map Char.toUpper
  '\\' :: mark :: (List.replicate (width - digits.length) '0' ++ digits)

def escapeName? : Char → Option Char
  | '\x00' => some '0'
  | '\x07' => some 'a'
  | '\x08' => some 'b'
  | '\t' => some 't'
  | '\n' => some 'n'
  | '\x0b' => some 'v'
  | '\x0c' => some 'f'
  | '\r' => some 'r'
  | '\x1b' => some 'e'
  | '"' => some '"'
  | '\\' => some '\\'
  | '\x85' => some 'N'
  | '\u2028' => some 'L'
  | '\u2029' => some 'P'
  | _ => none

def doubleQuotedChar (c : Char) : List Char :=
  match escapeName? c with
  | some name => ['\\', name]
  | none =>
    if isPrintable c then [c]
    else if c.toNat < 0x100 then hexEscape 'x' 2 c.toNat
    else if c.toNat < 0x10000 then hexEscape 'u' 4 c.toNat
    else hexEscape 'U' 8 c.toNat

def doubleQuoted (s : List Char) : List Char := '"' :: (s.flatMap doubleQuotedChar ++ ['"'])

/-- The indentation is named when the text does not start with a visible character. -/
def indentHint : List Char → List Char
  | [] => []
  | c :: _ => if c = ' ' || isBreak c then ['2'] else []

/-- The sign for the line ends that a block keeps: none, one or all. -/
def chompHint (s : List Char) : List Char :=
  if !endsInBreak s then ['-']
  else if s.length = 1 || endsInBreak s.dropLast then ['+']
  else []

/-- A block ends its line. -/
def literalBlock (s : List Char) : List Char :=
  '|' :: (indentHint s ++ chompHint s ++ '\n' :: indentLines true s ++
    (if endsInBreak s then [] else ['\n']))

/-- The text as the value of a key, to the end of the line. -/
def spelled (s : List Char) : List Char :=
  match style s with
  | .plain => s ++ ['\n']
  | .single => singleQuoted s ++ ['\n']
  | .double => doubleQuoted s ++ ['\n']
  | .literal => literalBlock s

/-- A line that gives a key its value. -/
def field (key : String) (value : String) : List Char :=
  key.toList ++ ':' :: ' ' :: spelled value.toList

/-- Fields, each in its own line or lines. -/
def fieldsText (fields : List (String × String)) : List Char :=
  fields.flatMap fun f => field f.1 f.2

end Linkshelf.Yaml
