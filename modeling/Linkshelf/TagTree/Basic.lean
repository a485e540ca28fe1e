import Linkshelf.TagPath

/-! The tree of tags: every tag path with the ids of the bookmarks at it or below it. Ids and
siblings are kept sorted and without repetition, so equal content is an equal tree. -/
namespace Linkshelf

/-- Nodes side by side, by ascending name, each with the nodes below it. -/
inductive Forest where
  | empty
  | node (name path : String) (ids : List String) (below beside : Forest)
  deriving DecidableEq, Repr

/-- One node with the nodes below it. -/
structure TagTree where
  name : String
  path : String
  ids : List String
  children : Forest
  deriving DecidableEq, Repr

def insertId (id : String) : List String → List String
  | [] => [id]
  | i :: ids =>
    if id = i then i :: ids else if id < i then id :: i :: ids else i :: insertId id ids

namespace Forest

/-- Below the place of every bookmark a path is its own name. -/
def childPath (parent segment : String) : String :=
  if parent = TagPath.all then segment else parent ++ "/" ++ segment

/-- The path of nodes that a tag alone makes. -/
def chain (parent id : String) : List String → Forest
  | [] => empty
  | s :: segments =>
    node s (childPath parent s) [id] (chain (childPath parent s) id segments) empty

/-- The forest with an id put at every node along the segments. -/
def plant (parent id : String) : List String → Forest → Forest
  | [], f => f
  | s :: segments, empty => chain parent id (s :: segments)
  | s :: segments, node name path ids below beside =>
    if s = name then node name path (insertId id ids) (plant path id segments below) beside
    else if s < name then
      node s (childPath parent s) [id] (chain (childPath parent s) id segments)
        (node name path ids below beside)
    else node name path ids below (plant parent id (s :: segments) beside)

def get? (segment : String) : Forest → Option TagTree
  | empty => none
  | node name path ids below beside =>
    if segment = name then some ⟨name, path, ids, below⟩ else get? segment beside

end Forest

namespace TagTree

def count (t : TagTree) : Nat := t.ids.length

def start : TagTree :=
  ⟨"All", TagPath.all, [], .node TagPath.untagged TagPath.untagged [] .empty .empty⟩

def plant (t : TagTree) (id : String) (segments : List String) : TagTree :=
  { t with children := t.children.plant t.path id segments }

/-- A bookmark without an id has no place. -/
def insert (t : TagTree) (b : Bookmark) : TagTree :=
  if !b.hasId then t
  else
    let t := { t with ids := insertId b.id t.ids }
    if b.isUntagged then t.plant b.id [TagPath.untagged]
    else b.tags.foldl (fun t tag => t.plant b.id (TagPath.segments tag)) t

def build (bookmarks : List Bookmark) : TagTree := bookmarks.foldl insert start

def child? (t : TagTree) (segment : String) : Option TagTree := t.children.get? segment

def walk? (t : TagTree) : List String → Option TagTree
  | [] => some t
  | s :: segments => (t.child? s).bind (walk? · segments)

def find? (t : TagTree) (path : String) : Option TagTree :=
  if path = TagPath.all then some t
  else if path = TagPath.untagged then t.child? TagPath.untagged
  else t.walk? (TagPath.segments path)

/-- One line of the tree as it is shown. -/
structure Line where
  depth : Nat
  name : String
  path : String
  ids : List String
  deriving DecidableEq, Repr

namespace Line

def count (l : Line) : Nat := l.ids.length

/-- The most bookmarks first, then by name. -/
def precedes (a b : Line) : Bool :=
  b.count < a.count || (b.count == a.count && a.name ≤ b.name)

def shown (l : Line) : String :=
  let label := if l.path = TagPath.all then "All" else l.name
  .ofList (List.replicate (2 * l.depth) ' ') ++ label ++ " (" ++ toString l.count ++ ")\n"

end Line

/-- Blocks of lines in the order of their first lines, one below the other. -/
def stack (blocks : List (Line × List Line)) : List Line :=
  (blocks.mergeSort fun a b => a.1.precedes b.1).flatMap fun (l, below) => l :: below

/-- Each node of a forest with the lines below it. -/
def blocks (depth : Nat) : Forest → List (Line × List Line)
  | .empty => []
  | .node name path ids below beside =>
    (⟨depth, name, path, ids⟩, stack (blocks (depth + 1) below)) :: blocks depth beside

/-- The lines of the tree, each node before those below it. -/
def lines (t : TagTree) : List Line :=
  ⟨0, t.name, t.path, t.ids⟩ :: stack (blocks 1 t.children)

def render (t : TagTree) : String := String.join (t.lines.map Line.shown)

end TagTree
end Linkshelf
