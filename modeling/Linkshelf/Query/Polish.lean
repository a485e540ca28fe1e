import Linkshelf.Query.Token

/-! Query tokens in polish order, operators after their operands, and their value on a text. -/
namespace Linkshelf.Query

/-- How tightly an operator binds; a parenthesis never yields. -/
def rank : Token → Nat
  | .not => 3
  | .and => 2
  | .or => 1
  | _ => 0

/-- Whether `waiting` is applied before `next` is read: NOT alone groups to the right. -/
def yields (next waiting : Token) : Bool :=
  rank next < rank waiting || (rank next == rank waiting && next != .not)

/-- `waiting` holds the operators and open parentheses still to be placed, the innermost first. An
unmatched closing parenthesis places all of them, an unmatched opening one is dropped. -/
def polishFrom (waiting : List Token) : List Token → List Token
  | [] => waiting.filter (· != .lparen)
  | .term text :: ts => .term text :: polishFrom waiting ts
  | .lparen :: ts => polishFrom (.lparen :: waiting) ts
  | .rparen :: ts =>
    waiting.takeWhile (· != .lparen) ++
      polishFrom ((waiting.dropWhile (· != .lparen)).drop 1) ts
  | op :: ts =>
    waiting.takeWhile (yields op) ++ polishFrom (op :: waiting.dropWhile (yields op)) ts

def polish (ts : List Token) : List Token := polishFrom [] ts

/-- The stack after one token, the last value first; `none` when an operand is missing. -/
def push (text : String) : Token → List Bool → Option (List Bool)
  | .term term, stack => some ((term.isEmpty || Text.occurs term text) :: stack)
  | .not, a :: stack => some ((!a) :: stack)
  | .and, b :: a :: stack => some ((a && b) :: stack)
  | .or, b :: a :: stack => some ((a || b) :: stack)
  | .lparen, stack | .rparen, stack => some stack
  | _, _ => none

def stackAfter (text : String) : List Bool → List Token → Option (List Bool)
  | stack, [] => some stack
  | stack, t :: ts => (push text t stack).bind (stackAfter text · ts)

/-- A missing operand and an empty list count as a match. -/
def value (ts : List Token) (text : String) : Bool :=
  match stackAfter text [] ts with
  | some (a :: _) => a
  | _ => true

end Linkshelf.Query
