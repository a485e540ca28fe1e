import Linkshelf.Text.Hex

/-! Socket addresses: a numeric address of either family and a port. -/
namespace Linkshelf

inductive SocketAddress where
  | v4 (octets : List Nat) (port : Nat)
  | v6 (groups : List Nat) (scope port : Nat)
  deriving DecidableEq, Repr

namespace SocketAddress

def digit? (base : Nat) (c : Char) : Option Nat :=
  (Hex.value? c).filter (· < base)

/-- A number of at least one digit; all digits that stand there belong to it. -/
def readNumber (base : Nat) (fits : List Char → Bool) (limit : Nat) (s : List Char) :
    Option (Nat × List Char) :=
  let digits := s.takeWhile fun c => (digit? base c).isSome
  let n := (digits.filterMap (digit? base)).foldl (fun n d => n * base + d) 0
  if digits.isEmpty || !fits digits || limit ≤ n then none else some (n, s.drop digits.length)

/-- At most three digits, and no zero before others. -/
def isOctetText (digits : List Char) : Bool :=
  digits.length = 1 || (digits.length ≤ 3 && digits.head? != some '0')

def readOctet : List Char → Option (Nat × List Char) := readNumber 10 isOctetText 0x100

def readGroup : List Char → Option (Nat × List Char) := readNumber 16 (·.length ≤ 4) 0x10000

def skip (c : Char) : List Char → Option (List Char)
  | d :: s => if d = c then some s else none
  | [] => none

/-- A separator stands before each part but the first. -/
def skipBetween (c : Char) (isFirst : Bool) (s : List Char) : Option (List Char) :=
  if isFirst then some s else skip c s

def readOctets (isFirst : Bool) : Nat → List Char → Option (List Nat × List Char)
  | 0, s => some ([], s)
  | n + 1, s => do
    let (octet, s) ← readOctet (← skipBetween '.' isFirst s)
    let (octets, s) ← readOctets false n s
    return (octet :: octets, s)

/-- Two groups written as four octets. -/
def readPair (s : List Char) : Option (List Nat × List Char) :=
  match readOctets true 4 s with
  | some ([a, b, c, d], s) => some ([a * 256 + b, c * 256 + d], s)
  | _ => none

/-- At most `room` groups, as many as there are, and whether they end in octets. -/
def readGroups (isFirst : Bool) : Nat → List Char → List Nat × Bool × List Char
  | 0, s => ([], false, s)
  | room + 1, s =>
    match if 0 < room then (skipBetween ':' isFirst s).bind readPair else none with
    | some (pair, s) => (pair, true, s)
    | none =>
      match (skipBetween ':' isFirst s).bind readGroup with
      | none => ([], false, s)
      | some (group, s) =>
        let (groups, octets, s) := readGroups false room s
        (group :: groups, octets, s)

/-- Eight groups, of which a double colon leaves out at least one; octets come last. -/
def readV6 (s : List Char) : Option (List Nat × List Char) :=
  let (front, octets, s) := readGroups true 8 s
  if front.length = 8 then some (front, s)
  else if octets then none
  else do
    let s ← skip ':' (← skip ':' s)
    let (back, _, s) := readGroups true (7 - front.length) s
    return (front ++ List.replicate (8 - front.length - back.length) 0 ++ back, s)

def readPort (s : List Char) : Option (Nat × List Char) := do
  readNumber 10 (fun _ => true) 0x10000 (← skip ':' s)

def readScope (s : List Char) : Option (Nat × List Char) := do
  readNumber 10 (fun _ => true) 0x100000000 (← skip '%' s)

def readFour (s : List Char) : Option (SocketAddress × List Char) := do
  let (octets, s) ← readOctets true 4 s
  let (port, s) ← readPort s
  return (.v4 octets port, s)

def readSix (s : List Char) : Option (SocketAddress × List Char) := do
  let (groups, s) ← readV6 (← skip '[' s)
  let (scope, s) := (readScope s).getD (0, s)
  let (port, s) ← readPort (← skip ']' s)
  return (.v6 groups scope port, s)

/-- The address a text is, with nothing before or after it. -/
def ofString? (s : String) : Option SocketAddress :=
  match readFour s.toList <|> readSix s.toList with
  | some (address, []) => some address
  | _ => none

end SocketAddress
end Linkshelf
