import Linkshelf.Yaml.Scalar

/-! Reading a YAML document: block and flow collections of scalars. Anchors and tags are skipped;
aliases, directives and keys marked by a question mark are refused. -/
namespace Linkshelf.Yaml

/-- Where the next token is; `isFresh` if it is the first on its line. -/
structure Spot where
  isFresh : Bool
  column : Nat
  rest : List Char

/-- Skips blanks, comments and line ends. No tab may stand before the first token of a line. -/
def nextSpot (isFresh inComment : Bool) (column : Nat) : List Char → Option Spot
  | [] => some ⟨isFresh, column, []⟩
  | c :: s =>
    if isBreak c then nextSpot true false 0 s
    else if inComment || c = ' ' then nextSpot isFresh inComment (column + 1) s
    else if c = '\t' then if isFresh then none else nextSpot isFresh false (column + 1) s
    else if c = '#' then nextSpot isFresh true (column + 1) s
    else some ⟨isFresh, column, c :: s⟩

/-- Skips blanks, comments and line ends between brackets; a document's edge ends the text. -/
def skipFlow (inComment : Bool) : List Char → List Char
  | [] => []
  | c :: s =>
    if isBreak c then if isEdge s then [] else skipFlow false s
    else if inComment || isSpacing c then skipFlow inComment s
    else if c = '#' then skipFlow true s
    else c :: s

/-- Whether `rest` goes on in the line that `s` starts in. -/
def isSameLine (s rest : List Char) : Bool :=
  s.length - rest.length ≤ (s.takeWhile (!isBreak ·)).length

/-- The text after a colon in the same line. -/
def afterColon? (inFlow : Bool) (s rest : List Char) : Option (List Char) :=
  match rest.dropWhile isSpacing with
  | ':' :: t => if isSameLine s rest && (inFlow || isApart t) then some t else none
  | _ => none

/-- Skips an anchor and a tag. -/
def skipProperties (inFlow : Bool) : Nat → List Char → List Char
  | 0, s => s
  | n + 1, s =>
    if s.head? = some '&' || s.head? = some '!' then
      let s := s.dropWhile fun c => !(isSpacing c || isBreak c || (inFlow && isFlowSign c))
      skipProperties inFlow n (s.dropWhile isSpacing)
    else s

mutual

/-- A scalar or a collection in brackets. -/
def readFlow (inFlow oneLine : Bool) (min : Nat) : Nat → List Char → Option (Yaml × List Char)
  | 0, _ => none
  | fuel + 1, s =>
    match skipProperties inFlow 2 s with
    | [] => some (nothing, [])
    | '[' :: t => (readFlowItems min fuel t).map fun (items, rest) => (list items, rest)
    | '\x7b' :: t => (readFlowMembers min fuel t).map fun (members, rest) => (mapping members, rest)
    | '\'' :: t => (readSingle .none t).map fun (text, rest) => (scalar false text, rest)
    | '"' :: t => (readDouble .plain .none t).map fun (text, rest) => (scalar false text, rest)
    | t =>
      if startsPlain inFlow t then
        (readPlain inFlow oneLine min .none 0 t t).map fun (text, rest) => (scalar true text, rest)
      else if s.length = t.length then none
      else some (nothing, t)

/-- The value after a colon between brackets, or nothing. -/
def readFlowValue (min : Nat) : Nat → List Char → Option (Yaml × List Char)
  | 0, _ => none
  | fuel + 1, s =>
    match skipFlow false s with
    | ',' :: t => some (nothing, ',' :: t)
    | ']' :: t => some (nothing, ']' :: t)
    | '\x7d' :: t => some (nothing, '\x7d' :: t)
    | t => readFlow true false min fuel t

def readFlowItems (min : Nat) : Nat → List Char → Option (List Yaml × List Char)
  | 0, _ => none
  | fuel + 1, s =>
    match skipFlow false s with
    | ']' :: rest => some ([], rest)
    | t => do
      let (item, rest) ← readFlow true false min fuel t
      let (item, rest) ← match afterColon? true t rest with
        | some u => (readFlowValue min fuel u).map fun (v, rest) => (mapping [(item, v)], rest)
        | none => some (item, rest)
      match skipFlow false rest with
      | ',' :: rest => (readFlowItems min fuel rest).map fun (items, rest) => (item :: items, rest)
      | ']' :: rest => some ([item], rest)
      | _ => none

def readFlowMembers (min : Nat) : Nat → List Char → Option (List (Yaml × Yaml) × List Char)
  | 0, _ => none
  | fuel + 1, s =>
    match skipFlow false s with
    | '\x7d' :: rest => some ([], rest)
    | t => do
      let (key, rest) ←
        if t.head? = some ':' then some (nothing, t) else readFlow true false min fuel t
      let (value, rest) ← match afterColon? true t rest with
        | some u => readFlowValue min fuel u
        | none => some (nothing, rest)
      match skipFlow false rest with
      | ',' :: rest =>
        (readFlowMembers min fuel rest).map fun (ms, rest) => ((key, value) :: ms, rest)
      | '\x7d' :: rest => some ([(key, value)], rest)
      | _ => none

end

/-- Each step of the reader takes a character, or is one of three at the same place. -/
def enough (s : List Char) : Nat := 4 * s.length + 8

/-- A key with the text after its colon. -/
def readKey? (s : List Char) : Option (Yaml × List Char) :=
  if s.head? = some ':' then (afterColon? false s s).map (nothing, ·)
  else
    match readFlow false true 0 (enough s) s with
    | some (key, rest) => (afterColon? false s rest).map (key, ·)
    | none => none

/-- Whether an entry of a block list starts here. -/
def isEntry : List Char → Bool
  | '-' :: s => isApart s
  | _ => false

mutual

/-- The node that starts at `column`. On the line of its key it is no block collection. -/
def readNode (inLine : Bool) (min column fuel : Nat) (s : List Char) : Option (Yaml × List Char) :=
  match fuel with
  | 0 => none
  | fuel + 1 =>
    if isEntry s then
      if inLine then none
      else (readEntries column fuel s).map fun (items, rest) => (list items, rest)
    else
      match s with
      | '|' :: t => (readBlock true min t).map fun (text, rest) => (scalar false text, rest)
      | '>' :: t => (readBlock false min t).map fun (text, rest) => (scalar false text, rest)
      | _ =>
        if (readKey? s).isSome then
          if inLine then none
          else (readMembers column fuel s).map fun (members, rest) => (mapping members, rest)
        else readFlow false false min (enough s) s
termination_by structural fuel

/-- The value of a key that stands at `column`. A block list may stand as far left as the key. -/
def readValue (column fuel : Nat) (s : List Char) : Option (Yaml × List Char) :=
  match fuel with
  | 0 => none
  | fuel + 1 => do
    let spot ← nextSpot false false 0 s
    if spot.rest.isEmpty then some (nothing, s)
    else if !spot.isFresh then readNode true (column + 1) 0 fuel spot.rest
    else if column < spot.column then readNode false (column + 1) spot.column fuel spot.rest
    else if column = spot.column && isEntry spot.rest then
      (readEntries column fuel spot.rest).map fun (items, rest) => (list items, rest)
    else some (nothing, s)
termination_by structural fuel

/-- A block mapping from a key on. -/
def readMembers (column fuel : Nat) (s : List Char) : Option (List (Yaml × Yaml) × List Char) :=
  match fuel with
  | 0 => none
  | fuel + 1 => do
    let (key, rest) ← readKey? s
    let (value, rest) ← readValue column fuel rest
    let spot ← nextSpot false false 0 rest
    if spot.rest.isEmpty || (spot.isFresh && spot.column < column) ||
        (spot.isFresh && spot.column = 0 && isEdge spot.rest) then
      some ([(key, value)], rest)
    else if spot.isFresh && spot.column = column then
      (readMembers column fuel spot.rest).map fun (ms, rest) => ((key, value) :: ms, rest)
    else none
termination_by structural fuel

/-- A block list from an entry on. -/
def readEntries (column fuel : Nat) (s : List Char) : Option (List Yaml × List Char) :=
  match fuel with
  | 0 => none
  | fuel + 1 => do
    let spot ← nextSpot true false (column + 1) s.tail
    let (item, rest) ←
      if !spot.rest.isEmpty && column < spot.column then
        readNode false (column + 1) spot.column fuel spot.rest
      else some (nothing, s.tail)
    let spot ← nextSpot false false 0 rest
    if spot.rest.isEmpty || (spot.isFresh && spot.column < column) then some ([item], rest)
    else if spot.isFresh && spot.column = column then
      if isEntry spot.rest then
        (readEntries column fuel spot.rest).map fun (items, rest) => (item :: items, rest)
      else some ([item], rest)
    else none
termination_by structural fuel

end

/-- The node after the dashes that start a document. -/
def readMarked (s : List Char) : Option (Yaml × List Char) := do
  let spot ← nextSpot false false 0 s
  if spot.rest.isEmpty || (spot.isFresh && spot.column = 0 && isEdge spot.rest) then
    some (nothing, s)
  else readNode (!spot.isFresh) 0 spot.column (enough s) spot.rest

/-- Whether a document ends here and no other follows. -/
def isOver (s : List Char) : Bool :=
  match nextSpot false false 0 s with
  | none => false
  | some spot =>
    spot.rest.isEmpty ||
      (spot.isFresh && spot.column = 0 && isMark '.' spot.rest &&
        match nextSpot false false 0 (spot.rest.drop 3) with
        | none => false
        | some spot => spot.rest.isEmpty)

/-- The one document of a text, which is nothing if all of it is blanks and comments. -/
def read? (s : List Char) : Option Yaml := do
  let s ← clean? s
  let spot ← nextSpot true false 0 s
  if spot.rest.isEmpty then some nothing
  else
    let (value, rest) ←
      if spot.column = 0 && isMark '-' spot.rest then readMarked (spot.rest.drop 3)
      else readNode false 0 spot.column (enough s) spot.rest
    if isOver rest then some value else none

end Linkshelf.Yaml
