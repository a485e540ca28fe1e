import Linkshelf.Json.Basic
import Linkshelf.TagTree.Basic

/-! The tree of tags as JSON, with counts in place of ids and children by name. -/
namespace Linkshelf

def Forest.members : Forest → List (String × Json)
  | .empty => []
  | .node name path ids below beside =>
    (name, .object [("name", .string name), ("path", .string path),
      ("count", .natural ids.length), ("children", .object (members below))]) :: members beside

def TagTree.view (t : TagTree) : Json :=
  .object [("name", .string t.name), ("path", .string t.path), ("count", .natural t.count),
    ("children", .object t.children.members)]

end Linkshelf
