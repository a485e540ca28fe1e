import Linkshelf.Bookmark.Draft
import Linkshelf.Json.Basic

/-! Bookmarks and drafts as JSON records. -/
namespace Linkshelf

def stringList? (v : Json) : Option (List String) := v.array?.bind (·.mapM Json.string?)

namespace TagList

def toJson : TagList → Json
  | list tags => .array (tags.map .string)
  | csv text => .string text

def ofJson? : Json → Option TagList
  | .string text => some (csv text)
  | v => (stringList? v).map list

end TagList

namespace Bookmark

def fieldNames : List String :=
  ["id", "createdAt", "updatedAt", "title", "url", "iconUrl", "description", "tags"]

def toJson (b : Bookmark) : Json :=
  .object [("id", .string b.id), ("createdAt", .string b.createdAt),
    ("updatedAt", .string b.updatedAt), ("title", .string b.title), ("url", .string b.url),
    ("iconUrl", .string b.iconUrl), ("description", .string b.description),
    ("tags", .array (b.tags.map .string))]

/-- A missing text is empty. -/
def textField : Option Json → Option String
  | none => some ""
  | some v => v.string?

/-- Missing tags and `null` are no tags. -/
def tagsField : Option Json → Option (List String)
  | none | some .null => some []
  | some v => stringList? v

def ofJson? (v : Json) : Option Bookmark := do
  let field ← v.record? fieldNames
  return {
    id := ← textField (field "id")
    createdAt := ← textField (field "createdAt")
    updatedAt := ← textField (field "updatedAt")
    title := ← textField (field "title")
    url := ← textField (field "url")
    iconUrl := ← textField (field "iconUrl")
    description := ← textField (field "description")
    tags := ← tagsField (field "tags") }

end Bookmark

namespace Draft

def fieldNames : List String :=
  ["id", "title", "url", "iconUrl", "description", "tags", "createdAt", "updatedAt"]

def member (name : String) (value : Option Json) : List (String × Json) :=
  (value.map (name, ·)).toList

/-- Absent fields are left out. -/
def toJson (d : Draft) : Json :=
  .object (member "id" (d.id.map .string) ++ member "title" (d.title.map .string) ++
    member "url" (d.url.map .string) ++ member "iconUrl" (d.iconUrl.map .string) ++
    member "description" (d.description.map .string) ++
    member "tags" (d.tags.map TagList.toJson) ++
    member "createdAt" (d.createdAt.map .string) ++ member "updatedAt" (d.updatedAt.map .string))

/-- `null` leaves the field absent. -/
def keptField : Option Json → Option (Option String)
  | none | some .null => some none
  | some v => v.string?.map some

/-- `null` clears the field. -/
def clearedField : Option Json → Option (Option String)
  | none => some none
  | some .null => some (some "")
  | some v => v.string?.map some

def tagsField : Option Json → Option (Option TagList)
  | none => some none
  | some .null => some (some (.list []))
  | some v => (TagList.ofJson? v).map some

def ofJson? (v : Json) : Option Draft := do
  let field ← v.record? fieldNames
  return {
    id := ← keptField (field "id")
    title := ← clearedField (field "title")
    url := ← clearedField (field "url")
    iconUrl := ← clearedField (field "iconUrl")
    description := ← clearedField (field "description")
    tags := ← tagsField (field "tags")
    createdAt := ← keptField (field "createdAt")
    updatedAt := ← keptField (field "updatedAt") }

end Draft
end Linkshelf
