import Linkshelf.Text.Basic

/-! Tags as clients send them, and the form in which they are kept. -/
namespace Linkshelf

/-- Either a list or one text with commas. -/
inductive TagList where
  | list (tags : List String)
  | csv (text : String)
  deriving DecidableEq, Repr

namespace TagList

def items : TagList → List String
  | list tags => tags
  | csv text => Text.split ',' text

end TagList

/-- Each part between slashes loses its outer blanks and keeps one space for an inner run; empty
parts are dropped. -/
def normalizeTag (tag : String) : String :=
  .ofList (Chars.join ['/'] (((Chars.split (· == '/') tag.toList).map fun part =>
    Chars.join [' '] (Chars.words part)).filter (!·.isEmpty)))

def normalizeTags (tags : TagList) : List String :=
  (tags.items.map normalizeTag).filter (!·.isEmpty)

end Linkshelf
