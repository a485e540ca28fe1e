import Linkshelf.Json.Basic
import Linkshelf.Web.MediaType

/-! Requests and responses. -/
namespace Linkshelf.Web

inductive Method where
  | get
  | head
  | post
  | put
  | delete
  | options
  | other (name : String)
  deriving DecidableEq, Repr

def Method.ofString : String → Method
  | "GET" => get
  | "HEAD" => head
  | "POST" => post
  | "PUT" => put
  | "DELETE" => delete
  | "OPTIONS" => options
  | name => other name

def Method.name : Method → String
  | get => "GET"
  | head => "HEAD"
  | post => "POST"
  | put => "PUT"
  | delete => "DELETE"
  | options => "OPTIONS"
  | other name => name

/-- What a request is about: a path and the query after a question mark, both as they are sent. -/
structure Target where
  path : List Char
  query : Option (List Char)
  deriving DecidableEq, Repr

/-- A fragment is not part of the target. -/
def Target.ofString (s : String) : Target :=
  let s := s.toList.takeWhile (· != '#')
  let (path, query) := s.span (· != '?')
  ⟨path, query.head?.map fun _ => query.tail⟩

structure Request where
  method : Method
  target : Target
  mediaType : Option String
  body : Bytes
  deriving DecidableEq, Repr

/-- What a response carries. A text is the reason why a request was not understood. -/
inductive Content where
  | nothing
  | json (v : Json)
  | text (s : String)
  | file (mediaType : String) (bytes : Bytes)
  deriving Repr

/-- A bodiless response has the headers of its content alone. -/
structure Response where
  status : Nat
  content : Content := .nothing
  isBodiless : Bool := false
  allow : Option String := none
  location : Option String := none
  deriving Repr

namespace Response

def mediaType? (r : Response) : Option String :=
  match r.content with
  | .nothing => none
  | .json _ => some MediaType.json
  | .text _ => some MediaType.plainText
  | .file mediaType _ => some mediaType

def body (r : Response) : Bytes :=
  if r.isBodiless then []
  else
    match r.content with
    | .nothing => []
    | .json v => Utf8.encode v.line
    | .text s => Utf8.encode s
    | .file _ bytes => bytes

def isSuccess (r : Response) : Bool := 200 ≤ r.status && r.status < 300

/-- The headers of every response. -/
def commonHeaders : List (String × String) :=
  [("access-control-allow-origin", "*"), ("access-control-allow-headers", "Content-Type"),
    ("access-control-allow-methods", "GET,POST,PUT,DELETE,OPTIONS"), ("cache-control", "no-store")]

end Response
end Linkshelf.Web
