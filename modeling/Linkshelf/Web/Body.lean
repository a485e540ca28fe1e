import Linkshelf.Bookmark.Record
import Linkshelf.Json.Reader

/-! Drafts read from the body of a request as it comes in: the first thing wrong decides, and what
follows the draft is not looked at. -/
namespace Linkshelf.Web

/-- A body is not JSON, or it is no draft. -/
inductive BodyError where
  | notJson
  | mismatch
  deriving DecidableEq, Repr

namespace Body
open Json

def whole : Except Fault α → Except BodyError α
  | .ok a => .ok a
  | .error _ => .error .notJson

/-- The levels that may open inside a draft. -/
def innerDepth : Nat := maxDepth - 1

def readAny (s : List Glyph) : Except BodyError (Json × List Glyph) :=
  whole (readValue false innerDepth (enough s) s)

/-- A text or `null`. A list or an object is refused as soon as it opens. -/
def readText (s : List Glyph) : Except BodyError (Option String × List Glyph) :=
  match (skipGap s).head? with
  | some (.char '[') | some (.char '\x7b') => .error .mismatch
  | _ =>
    match readAny s with
    | .error e => .error e
    | .ok (.string text, s) => .ok (some text, s)
    | .ok (.null, s) => .ok (none, s)
    | .ok _ => .error .mismatch

def readTags (s : List Glyph) : Except BodyError (Option TagList × List Glyph) :=
  match readAny s with
  | .error e => .error e
  | .ok (v, s) =>
    match Draft.tagsField (some v) with
    | some tags => .ok (tags, s)
    | none => .error .mismatch

/-- The value of a field, put into the draft. -/
def readField (d : Draft) (name : String) (s : List Glyph) :
    Except BodyError (Draft × List Glyph) :=
  if name = "tags" then (readTags s).map fun (tags, s) => ({ d with tags }, s)
  else
    (readText s).map fun (text, s) =>
      let cleared := some (text.getD "")
      match name with
      | "id" => ({ d with id := text }, s)
      | "title" => ({ d with title := cleared }, s)
      | "url" => ({ d with url := cleared }, s)
      | "iconUrl" => ({ d with iconUrl := cleared }, s)
      | "description" => ({ d with description := cleared }, s)
      | "createdAt" => ({ d with createdAt := text }, s)
      | _ => ({ d with updatedAt := text }, s)

/-- The items of a list are the fields in their order. -/
def readItems (d : Draft) (isFirst : Bool) :
    List String → List Glyph → Except BodyError Draft
  | names, s =>
    match followingItem isFirst s with
    | .error _ => .error .notJson
    | .ok (.close _) => .ok d
    | .ok (.item s) =>
      match names with
      | [] => .error .notJson
      | name :: names =>
        match readField d name s with
        | .error e => .error e
        | .ok (d, s) => readItems d false names s

/-- The value of a member. No field is given twice, and what is no field is passed over. -/
def readMember (d : Draft) (seen : List String) (name : String) (s : List Glyph) :
    Except BodyError (Draft × List String × List Glyph) :=
  if Draft.fieldNames.contains name then
    if seen.contains name then .error .mismatch
    else
      match readColon s with
      | .error _ => .error .notJson
      | .ok s => (readField d name s).map fun (d, s) => (d, name :: seen, s)
  else
    match (readColon s).bind fun s => readValue true innerDepth (enough s) s with
    | .error _ => .error .notJson
    | .ok (_, s) => .ok (d, seen, s)

def readMembers (d : Draft) (seen : List String) (isFirst : Bool) :
    Nat → List Glyph → Except BodyError Draft
  | 0, _ => .error .notJson
  | fuel + 1, s =>
    match followingMember isFirst s with
    | .error _ => .error .notJson
    | .ok (.close _) => .ok d
    | .ok (.item s) =>
      match readString false s with
      | .error _ => .error .notJson
      | .ok (name, s) =>
        match readMember d seen name s with
        | .error e => .error e
        | .ok (d, seen, s) => readMembers d seen false fuel s

/-- The draft a body starts with. -/
def draft (body : Bytes) : Except BodyError Draft :=
  let s := Utf8.glyphs body
  match skipGap s with
  | .char '[' :: s => readItems {} true Draft.fieldNames s
  | .char '\x7b' :: s => readMembers {} [] true (enough s) s
  | s =>
    match readAny s with
    | .error e => .error e
    | .ok _ => .error .mismatch

/-- The value a body starts with. -/
def value (body : Bytes) : Except BodyError Json :=
  (whole (readFirst (Utf8.glyphs body))).map (·.1)

end Body
end Linkshelf.Web
