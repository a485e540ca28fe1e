import Linkshelf.Text.Basic
import Linkshelf.Text.Lowercase

/-! A bookmark and the text that queries run against. -/
namespace Linkshelf

structure Bookmark where
  id : String := ""
  createdAt : String := ""
  updatedAt : String := ""
  title : String := ""
  url : String := ""
  iconUrl : String := ""
  description : String := ""
  tags : List String := []
  deriving DecidableEq, Repr, Inhabited

namespace Bookmark

def searchText (b : Bookmark) : String :=
  Text.lower (Text.join " " [b.title, b.url, b.description, Text.join " " b.tags])

def hasId (b : Bookmark) : Bool := !b.id.isEmpty

/-- No tag is more than blanks. -/
def isUntagged (b : Bookmark) : Bool := b.tags.all Text.isBlankText

end Bookmark
end Linkshelf
