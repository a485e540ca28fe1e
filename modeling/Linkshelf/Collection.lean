import Linkshelf.Bookmark.Record
import Linkshelf.Json.Reader

/-! The collection as a file holds it: a version, the time of writing and the bookmarks. -/
namespace Linkshelf

structure Collection where
  version : Nat
  exportedAt : String
  bookmarks : List Bookmark
  deriving DecidableEq, Repr

namespace Collection

/-- The version written for a collection that names none. -/
def currentVersion : Nat := 1

def empty (now : String) : Collection := ⟨currentVersion, now, []⟩

def toJson (c : Collection) : Json :=
  .object [("version", .natural c.version), ("exportedAt", .string c.exportedAt),
    ("entries", .array (c.bookmarks.map Bookmark.toJson))]

def version? : Json → Option Nat
  | .natural n => if n < 0x100000000 then some n else none
  | _ => none

/-- Reads whatever it can: a collection, a bare list of bookmarks, or nothing. What is no bookmark
is skipped, and a version or time that is none is replaced. -/
def ofJson (now : String) : Json → Collection
  | .array items => ⟨currentVersion, now, items.filterMap Bookmark.ofJson?⟩
  | .object members =>
    let field := (Json.get? · members)
    { version := ((field "version").bind version?).getD currentVersion
      exportedAt := ((field "exportedAt").bind Json.string?).getD now
      bookmarks := (((field "entries").bind Json.array?).getD []).filterMap Bookmark.ofJson? }
  | _ => empty now

/-- Reads a record in which every field that is there has its proper form. -/
def ofRecord? (now : String) (v : Json) : Option Collection := do
  let field ← v.record? ["version", "exportedAt", "entries"]
  return {
    version := ← match field "version" with
      | none => some currentVersion
      | some v => version? v
    exportedAt := ← match field "exportedAt" with
      | none => some now
      | some v => v.string?
    bookmarks := ← match field "entries" with
      | none => some []
      | some v => v.array?.bind (·.mapM Bookmark.ofJson?) }

/-- The file's content. -/
def bytes (c : Collection) : Bytes := Utf8.encode c.toJson.page

def ofBytes (now : String) (bytes : Bytes) : Except Json.Fault Collection :=
  (Json.ofBytes bytes).map (ofJson now)

end Collection
end Linkshelf
