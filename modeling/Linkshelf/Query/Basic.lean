import Linkshelf.Bookmark.Basic
import Linkshelf.Query.Polish

/-! Boolean queries over bookmarks. -/
namespace Linkshelf

/-- A query ready to run: its tokens in polish order. -/
structure Query where
  tokens : List Token
  deriving DecidableEq, Repr

namespace Query

/-- A blank query has no token. -/
def parse (q : String) : Query := ⟨polish (tokenize (Text.trim q))⟩

def isMatchAll (q : Query) : Bool := q.tokens.isEmpty

/-- The text counts as it is: it is not lower-cased here. -/
def matchesText (q : Query) (text : String) : Bool := value q.tokens text

def matchesBookmark (q : Query) (b : Bookmark) : Bool :=
  q.isMatchAll || q.matchesText b.searchText

def evaluate (q text : String) : Bool := (parse q).matchesText text

/-- The bookmarks that the query matches, in their order. -/
def filter (q : String) (bookmarks : List Bookmark) : List Bookmark :=
  bookmarks.filter (parse q).matchesBookmark

end Query
end Linkshelf
