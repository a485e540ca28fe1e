import Linkshelf.Text.Basic
import Linkshelf.Text.Utf8

/-! Files and folders as a value: finding, reading and writing by path. -/
namespace Linkshelf

/-- The names on the way from the root. -/
abbrev Place := List String

inductive Node where
  | file (content : Bytes)
  | folder
  deriving DecidableEq, Repr

inductive DiskError where
  | notFound
  | alreadyExists
  | notADirectory
  | isADirectory
  | nameTooLong
  | busy
  | nulInName
  deriving DecidableEq, Repr

namespace DiskError

def kind : DiskError → String
  | notFound => "NotFound"
  | alreadyExists => "AlreadyExists"
  | notADirectory => "NotADirectory"
  | isADirectory => "IsADirectory"
  | nameTooLong => "InvalidFilename"
  | busy => "ResourceBusy"
  | nulInName => "InvalidInput"

/-- The system's own number and words for an error; a name it never gets to see has none. -/
def system? : DiskError → Option (Nat × String)
  | notFound => some (2, "No such file or directory")
  | alreadyExists => some (17, "File exists")
  | notADirectory => some (20, "Not a directory")
  | isADirectory => some (21, "Is a directory")
  | nameTooLong => some (36, "File name too long")
  | busy => some (16, "Device or resource busy")
  | nulInName => none

def nulMessage : String := "file name contained an unexpected NUL byte"

/-- With all that is known of it. -/
def shown (e : DiskError) : String :=
  match e.system? with
  | some (code, text) =>
    "Os \x7b code: " ++ toString code ++ ", kind: " ++ e.kind ++ ", message: \"" ++ text ++
      "\" \x7d"
  | none => "Error \x7b kind: " ++ e.kind ++ ", message: \"" ++ nulMessage ++ "\" \x7d"

def message (e : DiskError) : String :=
  match e.system? with
  | some (code, text) => text ++ " (os error " ++ toString code ++ ")"
  | none => nulMessage

end DiskError

/-- What is at each place; the root is a folder and is not listed. -/
structure Disk where
  nodes : List (Place × Node)
  deriving DecidableEq, Repr

namespace Disk

def empty : Disk := ⟨[]⟩

def node? (d : Disk) (p : Place) : Option Node :=
  if p = [] then some .folder else d.nodes.lookup p

def erase (d : Disk) (p : Place) : Disk := ⟨d.nodes.filter (·.1 != p)⟩

def insert (d : Disk) (p : Place) (n : Node) : Disk := ⟨(p, n) :: (d.erase p).nodes⟩

def maxName : Nat := 255

/-- One name further. Only a folder can be left, and it has to be there. -/
def step (d : Disk) (p : Place) (name : String) : Except DiskError Place :=
  match d.node? p with
  | none => .error .notFound
  | some (.file _) => .error .notADirectory
  | some .folder =>
    if name = "" || name = "." then .ok p
    else if name = ".." then .ok p.dropLast
    else if maxName < name.utf8ByteSize then .error .nameTooLong
    else .ok (p ++ [name])

def follow (d : Disk) : Place → List String → Except DiskError Place
  | p, [] => .ok p
  | p, name :: names =>
    match d.step p name with
    | .error e => .error e
    | .ok p => d.follow p names

/-- The place that a path names, seen from a folder; nothing has to be there. -/
def locate (d : Disk) (base : Place) (path : String) : Except DiskError Place :=
  if path.toList.contains '\x00' then .error .nulInName
  else d.follow (if Text.startsWith "/" path then [] else base) (Text.split '/' path)

def find (d : Disk) (base : Place) (path : String) : Except DiskError Node :=
  match d.locate base path with
  | .error e => .error e
  | .ok p =>
    match d.node? p with
    | none => .error .notFound
    | some n => .ok n

def has (d : Disk) (base : Place) (path : String) : Bool :=
  match d.find base path with
  | .error _ => false
  | .ok _ => true

def isFolder (d : Disk) (base : Place) (path : String) : Bool :=
  match d.find base path with
  | .ok .folder => true
  | _ => false

def read (d : Disk) (base : Place) (path : String) : Except DiskError Bytes :=
  match d.find base path with
  | .error e => .error e
  | .ok .folder => .error .isADirectory
  | .ok (.file content) => .ok content

/-- Writes over a file, or makes one in a folder that is there. -/
def write (d : Disk) (base : Place) (path : String) (content : Bytes) : Except DiskError Disk :=
  match d.locate base path with
  | .error e => .error e
  | .ok p =>
    match d.node? p with
    | some .folder => .error .isADirectory
    | _ => .ok (d.insert p (.file content))

/-- Makes the folders on a way, as far as they are not there. -/
def makeFoldersFrom (d : Disk) (done : Place) : List String → Except DiskError Disk
  | [] => .ok d
  | name :: names =>
    let p := done ++ [name]
    match d.node? p with
    | some .folder => d.makeFoldersFrom p names
    | some (.file _) => .error (if names.isEmpty then .alreadyExists else .notADirectory)
    | none => (d.insert p .folder).makeFoldersFrom p names

def makeFolder (d : Disk) (p : Place) : Except DiskError Disk := d.makeFoldersFrom [] p

end Disk
end Linkshelf
