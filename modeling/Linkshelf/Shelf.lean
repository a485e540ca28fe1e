import Linkshelf.Collection
import Linkshelf.Disk.Replace
import Linkshelf.Query.Basic
import Linkshelf.TagTree.Basic

/-! The shelf: a collection in memory and the file it is kept in. Each change is written before it
counts. -/
namespace Linkshelf

structure Shelf where
  place : Place
  ident : String
  collection : Collection
  deriving DecidableEq, Repr

inductive ShelfError where
  | notFound
  | alreadyExists (id : String)
  | invalid (error : DraftError)
  | disk (error : DiskError)
  | json (fault : Json.Fault)
  deriving DecidableEq, Repr

def ShelfError.message : ShelfError → String
  | notFound => "not found"
  | alreadyExists id => "entry with id " ++ id ++ " already exists"
  | invalid e => e.message
  | disk e => "io error: " ++ e.shown
  | json f => "json error: " ++ f.cause.message

/-- What one change takes from outside: the time, a mark for its temporary file and new ids. -/
structure Supply where
  now : String
  mark : String
  newId : Nat → String

/-- The answer to a change, with the shelf and the disk after it. -/
structure Outcome (α : Type) where
  result : Except ShelfError α
  shelf : Shelf
  disk : Disk

/-- What a search found. -/
structure Findings where
  q : String
  path : String
  bookmarks : List Bookmark
  deriving DecidableEq, Repr

namespace Findings

def count (f : Findings) : Nat := f.bookmarks.length

def toJson (f : Findings) : Json :=
  .object [("q", .string f.q), ("path", .string f.path), ("count", .natural f.count),
    ("entries", .array (f.bookmarks.map Bookmark.toJson))]

end Findings

namespace Shelf

/-- Without a file the shelf is empty. -/
def load (now : String) (place : Place) (ident : String) (d : Disk) : Except ShelfError Shelf :=
  if d.has place ident then
    match d.read place ident with
    | .error e => .error (.disk e)
    | .ok bytes =>
      match Collection.ofBytes now bytes with
      | .error f => .error (.json f)
      | .ok c => .ok ⟨place, ident, c⟩
  else .ok ⟨place, ident, .empty now⟩

def list (s : Shelf) : List Bookmark := s.collection.bookmarks

def total (s : Shelf) : Nat := s.list.length

def get (s : Shelf) (id : String) : Except ShelfError Bookmark :=
  match s.list.find? (·.id == id) with
  | some b => .ok b
  | none => .error .notFound

def fail (s : Shelf) (d : Disk) (e : ShelfError) : Outcome α := ⟨.error e, s, d⟩

/-- The next collection counts once its file is written. -/
def commit (u : Supply) (s : Shelf) (d : Disk) (next : Collection) (answer : α) : Outcome α :=
  let next := { next with exportedAt := u.now }
  match d.replace u.mark s.place s.ident next.bytes with
  | (.ok (), d) => ⟨.ok answer, { s with collection := next }, d⟩
  | (.error e, d) => s.fail d (.disk e)

/-- The collection with other bookmarks. -/
def keeping (s : Shelf) (bookmarks : List Bookmark) : Collection :=
  { s.collection with bookmarks }

/-- A new bookmark comes first. -/
def create (u : Supply) (s : Shelf) (d : Disk) (draft : Draft) : Outcome Bookmark :=
  match draft.check true with
  | .error e => s.fail d (.invalid e)
  | .ok fields =>
    let id := draft.cleanId.getD (u.newId 0)
    if s.list.any (·.id == id) then s.fail d (.alreadyExists id)
    else
      let b := fields.toBookmark id u.now u.now
      s.commit u d (s.keeping (b :: s.list)) b

/-- The draft goes over the stored bookmark, which keeps its id and its first time. -/
def update (u : Supply) (s : Shelf) (d : Disk) (id : String) (draft : Draft) : Outcome Bookmark :=
  match s.list.findIdx? (·.id == id), s.list.find? (·.id == id) with
  | some i, some old =>
    match (draft.onto old).check true with
    | .error e => s.fail d (.invalid e)
    | .ok fields =>
      let b := fields.toBookmark old.id old.createdAt u.now
      s.commit u d (s.keeping (s.list.set i b)) b
  | _, _ => s.fail d .notFound

def delete (u : Supply) (s : Shelf) (d : Disk) (id : String) : Outcome Bookmark :=
  match s.list.find? (·.id == id) with
  | some old => s.commit u d (s.keeping (s.list.eraseP (·.id == id))) old
  | none => s.fail d .notFound

/-- An imported draft with the `k`-th new id at hand. -/
def imported (u : Supply) (k : Nat) (draft : Draft) (fields : CheckedFields) : Bookmark :=
  let stamp (time : Option String) := (time.map (Text.clip Draft.maxTimestamp)).getD u.now
  fields.toBookmark (draft.cleanId.getD (u.newId k)) (stamp draft.createdAt) (stamp draft.updatedAt)

/-- The bookmarks of an import: what is no record, no draft or has no url is dropped. -/
def importedFrom (u : Supply) (k : Nat) : List Json → List Bookmark
  | [] => []
  | v :: vs =>
    match if v.isObject then Draft.ofJson? v else none with
    | none => importedFrom u k vs
    | some draft =>
      match draft.check false with
      | .error _ => importedFrom u k vs
      | .ok fields =>
        imported u k draft fields ::
          importedFrom u (if draft.cleanId.isSome then k else k + 1) vs

/-- Puts the imported bookmarks in place of all others and tells how many they are. -/
def replaceAll (u : Supply) (s : Shelf) (d : Disk) (items : List Json) : Outcome Nat :=
  let bookmarks := importedFrom u 0 items
  s.commit u d ⟨Collection.currentVersion, u.now, bookmarks⟩ bookmarks.length

def tagTree (s : Shelf) : TagTree := .build s.list

/-- By place first, then by query. -/
def search (s : Shelf) (q path : String) : Findings :=
  ⟨q, path, Query.filter q (TagPath.filter path s.list)⟩

end Shelf
end Linkshelf
