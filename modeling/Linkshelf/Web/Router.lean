import Linkshelf.Shelf
import Linkshelf.TagTree.View
import Linkshelf.Web.Body
import Linkshelf.Web.Files

/-! What is served where: the shelf under `/api`, and the files of a folder elsewhere. -/
namespace Linkshelf.Web

/-- A path that is served. The id of a bookmark is as it was sent. -/
inductive Route where
  | health
  | bookmarks
  | bookmark (id : List Char)
  | exported
  | imported
  | tagTree
  | search
  deriving DecidableEq, Repr

namespace Route

def ofPath? (path : List Char) : Option Route :=
  match (Chars.split (· == '/') path).map String.ofList with
  | ["", "api", "health"] => some health
  | ["", "api", "entries"] => some bookmarks
  | ["", "api", "entries", id] => if id.isEmpty then none else some (bookmark id.toList)
  | ["", "api", "export"] => some exported
  | ["", "api", "import"] => some imported
  | ["", "api", "tags", "tree"] => some tagTree
  | ["", "api", "search"] => some search
  | _ => none

def methods : Route → List Method
  | health | exported | tagTree | search => [.get, .head]
  | bookmarks => [.get, .head, .post, .options]
  | bookmark _ => [.get, .head, .put, .delete, .options]
  | imported => [.post, .options]

end Route

/-- A response with the shelf and the disk after it. -/
structure Reply where
  response : Response
  shelf : Shelf
  disk : Disk

def errorContent (message : String) : Content := .json (.object [("error", .string message)])

def ok (v : Json) : Response := { status := 200, content := .json v }

def refusal (status : Nat) (reason : String) : Response := { status, content := .text reason }

def statusOf : ShelfError → Nat
  | .notFound => 404
  | .alreadyExists _ => 409
  | .invalid _ => 400
  | .disk _ | .json _ => 500

def failure (e : ShelfError) : Response :=
  { status := statusOf e, content := errorContent e.message }

def badId : Response := refusal 400 "Invalid URL"

def badQuery : Response := refusal 400 "Failed to deserialize query string"

def badType : Response := refusal 415 "Expected request with \x60Content-Type"

def tooLong : Response := refusal 413 "Failed to buffer the request body"

def badBody : BodyError → Response
  | .notJson => refusal 400 "Failed to parse the request body as JSON"
  | .mismatch => refusal 422 "Failed to deserialize the JSON body into the target type"

def noList : Response := { status := 400, content := errorContent "entries must be a list" }

/-- As many bytes of a body are read. -/
def maxBody : Nat := 2097152

/-- What a body of JSON gives, if the request says that it is one and it is not too long. -/
def withBody (r : Request) (read : Bytes → Except BodyError α) (refuse : Response → β)
    (use : α → β) : β :=
  if (r.mediaType.map MediaType.isJson).getD false then
    if r.body.length ≤ maxBody then
      match read r.body with
      | .ok a => use a
      | .error e => refuse (badBody e)
    else refuse tooLong
  else refuse badType

/-- The one value of a field, if it is given at most once. -/
def single (fields : List (String × String)) (name default : String) : Option String :=
  match fields.filter (·.1 = name) with
  | [] => some default
  | [(_, value)] => some value
  | _ => none

def search (s : Shelf) (query : Option (List Char)) : Response :=
  let fields := Percent.fields (query.getD [])
  match single fields "q" "", single fields "path" TagPath.all with
  | some q, some path => ok (s.search q path).toJson
  | _, _ => badQuery

/-- The list of an import. -/
def items? : Json → Option (List Json)
  | .object members => (Json.get? "entries" members).bind Json.array?
  | _ => none

namespace Reply

/-- A response that leaves all as it is. -/
def still (s : Shelf) (d : Disk) (response : Response) : Reply := ⟨response, s, d⟩

/-- The response to a change. -/
def ofOutcome (o : Outcome α) (response : α → Response) : Reply :=
  match o.result with
  | .ok a => ⟨response a, o.shelf, o.disk⟩
  | .error e => ⟨failure e, o.shelf, o.disk⟩

end Reply

def get (u : Supply) (s : Shelf) (query : Option (List Char)) : Route → Response
  | .health => ok (.object [("ok", .bool true), ("time", .string u.now)])
  | .bookmarks => ok (.array (s.list.map Bookmark.toJson))
  | .bookmark id =>
    match Percent.text? id with
    | none => badId
    | some id =>
      match s.get id with
      | .ok b => ok b.toJson
      | .error e => failure e
  | .exported => ok s.collection.toJson
  | .tagTree => ok s.tagTree.view
  | .search => search s query
  | .imported => { status := 404 }

def createBookmark (u : Supply) (s : Shelf) (d : Disk) (r : Request) : Reply :=
  withBody r Body.draft (.still s d) fun draft =>
    .ofOutcome (s.create u d draft) fun b => { status := 201, content := .json b.toJson }

def updateBookmark (u : Supply) (s : Shelf) (d : Disk) (r : Request) (id : String) : Reply :=
  withBody r Body.draft (.still s d) fun draft =>
    .ofOutcome (s.update u d id draft) fun b => ok b.toJson

def deleteBookmark (u : Supply) (s : Shelf) (d : Disk) (id : String) : Reply :=
  .ofOutcome (s.delete u d id) fun b =>
    ok (.object [("deleted", .bool true), ("entry", b.toJson)])

def importAll (u : Supply) (s : Shelf) (d : Disk) (r : Request) : Reply :=
  withBody r Body.value (.still s d) fun v =>
    match items? v with
    | none => .still s d noList
    | some items =>
      .ofOutcome (s.replaceAll u d items) fun n => ok (.object [("imported", .natural n)])

def withId (s : Shelf) (d : Disk) (id : List Char) (use : String → Reply) : Reply :=
  match Percent.text? id with
  | some id => use id
  | none => .still s d badId

/-- A request whose method the route has. -/
def respond (u : Supply) (s : Shelf) (d : Disk) (r : Request) (route : Route) : Reply :=
  match r.method, route with
  | .options, _ => .still s d { status := 204 }
  | .post, .bookmarks => createBookmark u s d r
  | .put, .bookmark id => withId s d id (updateBookmark u s d r)
  | .delete, .bookmark id => withId s d id (deleteBookmark u s d)
  | .post, .imported => importAll u s d r
  | _, route => .still s d (get u s r.target.query route)

/-- The methods of a route as a response names them. -/
def allowed (route : Route) : String := Text.join "," (route.methods.map Method.name)

def route (u : Supply) (s : Shelf) (d : Disk) (folder : Option Place) (r : Request) : Reply :=
  match Route.ofPath? r.target.path with
  | some route =>
    if route.methods.contains r.method then respond u s d r route
    else .still s d { status := 405, allow := some (allowed route) }
  | none =>
    match folder with
    | some folder => .still s d (Files.answer d folder r.method r.target)
    | none => .still s d { status := 404 }

/-- The reply to a request. One for the headers alone gets no body. -/
def handle (u : Supply) (s : Shelf) (d : Disk) (folder : Option Place) (r : Request) : Reply :=
  let reply := route u s d folder r
  if r.method = .head then { reply with response := { reply.response with isBodiless := true } }
  else reply

end Linkshelf.Web
