import Linkshelf.Text.Basic
import Linkshelf.Text.Lowercase
import Linkshelf.Text.Quoted

/-! Query tokens: how a query is scanned, where an AND is understood, how a token is shown. -/
namespace Linkshelf

inductive Token where
  | term (text : String)
  | and
  | or
  | not
  | lparen
  | rparen
  deriving DecidableEq, Repr

namespace Token

/-- A token after which an operand is complete. -/
def closes : Token → Bool
  | term _ | rparen => true
  | _ => false

/-- A token with which an operand starts. -/
def opens : Token → Bool
  | term _ | lparen | not => true
  | _ => false

/-- The keywords in any ASCII case; any other word is a term. -/
def ofWord (word : List Char) : Token :=
  let key := word.map Char.toLower
  if key = ['a', 'n', 'd'] then and
  else if key = ['o', 'r'] then or
  else if key = ['n', 'o', 't'] then not
  else term (Text.lower (.ofList word))

def ofPhrase (phrase : List Char) : Token := term (Text.lower (.ofList phrase))

def shown : Token → String
  | term text => Text.quoted text
  | and => "AND"
  | or => "OR"
  | not => "NOT"
  | lparen => "("
  | rparen => ")"

end Token

namespace Query

/-- What the scanner is inside of, with the characters read so far, the last first. -/
inductive Scan where
  | gap
  | word (read : List Char)
  | phrase (read : List Char)
  deriving DecidableEq, Repr

namespace Scan

/-- A quote starts a phrase only between words. -/
def stepGap (c : Char) : Scan × List Token :=
  if isBlank c then (gap, [])
  else if c = '(' then (gap, [.lparen])
  else if c = ')' then (gap, [.rparen])
  else if c = '"' then (phrase [], [])
  else (word [c], [])

def step : Scan → Char → Scan × List Token
  | gap, c => stepGap c
  | word read, c =>
    if isBlank c then (gap, [.ofWord read.reverse])
    else if c = '(' then (gap, [.ofWord read.reverse, .lparen])
    else if c = ')' then (gap, [.ofWord read.reverse, .rparen])
    else (word (c :: read), [])
  | phrase read, c =>
    if c = '"' then (gap, [.ofPhrase read.reverse]) else (phrase (c :: read), [])

/-- The end of the query ends a word, and a phrase that is still open. -/
def finish : Scan → List Token
  | gap => []
  | word read => [.ofWord read.reverse]
  | phrase read => [.ofPhrase read.reverse]

def run (s : Scan) : List Char → List Token
  | [] => s.finish
  | c :: cs => (s.step c).2 ++ run (s.step c).1 cs

/-- The scanner's state after the characters. -/
def after (s : Scan) : List Char → Scan
  | [] => s
  | c :: cs => after (s.step c).1 cs

end Scan

/-- An AND between an operand that ends and one that starts. -/
def insertAnds : List Token → List Token
  | a :: b :: ts =>
    if a.closes && b.opens then a :: .and :: insertAnds (b :: ts) else a :: insertAnds (b :: ts)
  | ts => ts

def tokenize (q : String) : List Token := insertAnds (Scan.gap.run q.toList)

end Query
end Linkshelf
