import Linkshelf.Bookmark.Basic
import Linkshelf.Bookmark.Tags

/-! Drafts: what a client sends to create, change or import a bookmark, and how it is checked. -/
namespace Linkshelf

/-- An absent field keeps what is stored; a present empty one clears it. -/
structure Draft where
  id : Option String := none
  title : Option String := none
  url : Option String := none
  iconUrl : Option String := none
  description : Option String := none
  tags : Option TagList := none
  createdAt : Option String := none
  updatedAt : Option String := none
  deriving DecidableEq, Repr

/-- The fields of a draft that passed its check. -/
structure CheckedFields where
  title : String
  url : String
  iconUrl : String
  description : String
  tags : List String
  deriving DecidableEq, Repr

inductive DraftError where
  | urlRequired
  | urlScheme
  deriving DecidableEq, Repr

def DraftError.message : DraftError → String
  | urlRequired => "url is required"
  | urlScheme => "url must start with http:// or https://"

def CheckedFields.toBookmark (f : CheckedFields) (id createdAt updatedAt : String) : Bookmark :=
  { id, createdAt, updatedAt, title := f.title, url := f.url, iconUrl := f.iconUrl,
    description := f.description, tags := f.tags }

namespace Draft

def maxUrl : Nat := 2048
def maxTitle : Nat := 120
def maxDescription : Nat := 600
def maxId : Nat := 80
def maxTimestamp : Nat := 64

/-- At most `max` characters, without outer blanks. -/
def tidy (max : Nat) (s : String) : String := Text.trim (Text.clip max s)

def hasWebScheme (url : String) : Bool :=
  Text.startsWith "http://" url || Text.startsWith "https://" url

/-- A bookmark without a title of its own is titled by its url. -/
def check (webOnly : Bool) (d : Draft) : Except DraftError CheckedFields :=
  let url := tidy maxUrl (d.url.getD "")
  if url.isEmpty then .error .urlRequired
  else if webOnly && !hasWebScheme url then .error .urlScheme
  else
    let title := tidy maxTitle (d.title.getD url)
    .ok {
      title := if title.isEmpty then url else title
      url
      iconUrl := tidy maxUrl (d.iconUrl.getD "")
      description := tidy maxDescription (d.description.getD "")
      tags := (d.tags.map normalizeTags).getD [] }

/-- The id a client asks for, if it is not blank. -/
def cleanId (d : Draft) : Option String :=
  let id := tidy maxId (d.id.getD "")
  if id.isEmpty then none else some id

/-- The draft's own fields over those of a stored bookmark, whose id and times stay. -/
def onto (d : Draft) (b : Bookmark) : Draft where
  id := some b.id
  title := some (d.title.getD b.title)
  url := some (d.url.getD b.url)
  iconUrl := some (d.iconUrl.getD b.iconUrl)
  description := some (d.description.getD b.description)
  tags := some (d.tags.getD (.list b.tags))
  createdAt := some b.createdAt
  updatedAt := some b.updatedAt

end Draft
end Linkshelf
