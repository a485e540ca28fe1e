import Linkshelf.Text.Hex
import Linkshelf.Text.Utf8

/-! JSON values and how they are printed. -/
namespace Linkshelf

/-- A number below 2^64 without sign, point or exponent has its value; any other keeps its
spelling. Of members with one name the last counts. -/
inductive Json where
  | null
  | bool (b : Bool)
  | natural (n : Nat)
  | decimal (spelling : String)
  | string (s : String)
  | array (items : List Json)
  | object (members : List (String × Json))
  deriving Repr, Inhabited

namespace Json

def get? (key : String) (members : List (String × Json)) : Option Json :=
  (members.reverse.find? (·.1 == key)).map (·.2)

/-- The fields of a record: members by name, or items by the order of the names. -/
def record? (names : List String) : Json → Option (String → Option Json)
  | object members => some (get? · members)
  | array items => if items.length ≤ names.length then some ((names.zip items).lookup ·) else none
  | _ => none

def string? : Json → Option String
  | string s => some s
  | _ => none

def array? : Json → Option (List Json)
  | array items => some items
  | _ => none

def isObject : Json → Bool
  | object _ => true
  | _ => false

/-- Quotes, backslashes and controls are escaped, all else stands as it is. -/
def escapeChar (c : Char) : List Char :=
  if c = '"' then ['\\', '"']
  else if c = '\\' then ['\\', '\\']
  else if c = '\x08' then ['\\', 'b']
  else if c = '\x0c' then ['\\', 'f']
  else if c = '\n' then ['\\', 'n']
  else if c = '\r' then ['\\', 'r']
  else if c = '\t' then ['\\', 't']
  else if c.toNat < 32 then
    ['\\', 'u', '0', '0', Hex.digit (c.toNat / 16), Hex.digit (c.toNat % 16)]
  else [c]

def quote (s : String) : List Char := '"' :: (s.toList.flatMap escapeChar ++ ['"'])

mutual

/-- The value on one line without blanks. -/
def compact : Json → List Char
  | null => "null".toList
  | bool b => (if b then "true" else "false").toList
  | natural n => (toString n).toList
  | decimal spelling => spelling.toList
  | string s => quote s
  | array items => '[' :: (compactItems items ++ [']'])
  | object members => '\x7b' :: (compactMembers members ++ ['\x7d'])

def compactItems : List Json → List Char
  | [] => []
  | [v] => compact v
  | v :: vs => compact v ++ ',' :: compactItems vs

def compactMembers : List (String × Json) → List Char
  | [] => []
  | [(k, v)] => quote k ++ ':' :: compact v
  | (k, v) :: ms => quote k ++ ':' :: (compact v ++ ',' :: compactMembers ms)

end

def newline (depth : Nat) : List Char := '\n' :: List.replicate (2 * depth) ' '

mutual

/-- The value over several lines, each level two spaces further in. -/
def pretty (depth : Nat) : Json → List Char
  | null => "null".toList
  | bool b => (if b then "true" else "false").toList
  | natural n => (toString n).toList
  | decimal spelling => spelling.toList
  | string s => quote s
  | array [] => ['[', ']']
  | array (v :: vs) => '[' :: (prettyItems (depth + 1) (v :: vs) ++ newline depth ++ [']'])
  | object [] => ['\x7b', '\x7d']
  | object (m :: ms) =>
    '\x7b' :: (prettyMembers (depth + 1) (m :: ms) ++ newline depth ++ ['\x7d'])

def prettyItems (depth : Nat) : List Json → List Char
  | [] => []
  | [v] => newline depth ++ pretty depth v
  | v :: vs => newline depth ++ pretty depth v ++ ',' :: prettyItems depth vs

def prettyMembers (depth : Nat) : List (String × Json) → List Char
  | [] => []
  | [(k, v)] => newline depth ++ quote k ++ ':' :: ' ' :: pretty depth v
  | (k, v) :: ms =>
    newline depth ++ quote k ++ ':' :: ' ' :: (pretty depth v ++ ',' :: prettyMembers depth ms)

end

/-- The text on one line. -/
def line (v : Json) : String := .ofList v.compact

/-- The text as files hold it, without a final newline. -/
def page (v : Json) : String := .ofList (v.pretty 0)

end Json
end Linkshelf
