import Linkshelf.Bookmark.Basic

/-! Places in the tree of tags, and the bookmarks found there. -/
namespace Linkshelf.TagPath

/-- The place of every bookmark. -/
def all : String := "__ALL__"

/-- The place of the bookmarks without tags. -/
def untagged : String := "Untagged"

/-- The parts between slashes, without outer blanks and without the empty ones. -/
def segments (path : String) : List String :=
  ((Chars.split (· == '/') path.toList).map Chars.trim).filter (!·.isEmpty) |>.map .ofList

/-- A tag is at a path when it equals the path or goes on below it. -/
def holds (path tag : String) : Bool :=
  let tag := Text.trim tag
  tag == path || Text.startsWith (path ++ "/") tag

def holdsBookmark (path : String) (b : Bookmark) : Bool :=
  b.hasId &&
    (if path = all then true
     else if path = untagged then b.isUntagged
     else b.tags.any (holds path))

/-- The bookmarks at a path, in their order. -/
def filter (path : String) (bookmarks : List Bookmark) : List Bookmark :=
  bookmarks.filter (holdsBookmark path)

end Linkshelf.TagPath
