import Linkshelf.Command.Basic
import Linkshelf.Settings.Basic
import Linkshelf.Shelf
import Linkshelf.TagTree.View

/-! One run of the program: settings are loaded, then the command is carried out on the shelf. -/
namespace Linkshelf

/-- How a run ends. A run that serves goes on. -/
inductive Ending where
  | done (output : String)
  | failed (message : String)
  | refused (error : UsageError)
  | serving (address : SocketAddress) (settings : Settings) (shelf : Shelf)
  deriving DecidableEq, Repr

namespace Ending

def exitCode : Ending → Nat
  | done _ | serving .. | refused .help | refused .version => 0
  | failed _ => 1
  | refused _ => 2

def versionText : String := "tagmark 0.1.0\n"

def helpText : String :=
  "Usage: tagmark <COMMAND>\n\nCommands:\n" ++
    String.join (Command.forms.map fun (name, _) => "  " ++ name ++ "\n") ++ "  help\n"

def output : Ending → String
  | done output => output
  | refused .help => helpText
  | refused .version => versionText
  | _ => ""

def error? : Ending → Option String
  | failed message => some message
  | _ => none

end Ending

/-- What a run takes from outside: the folder of the shelf, the folder it is started in, what a
change takes, how settings are written, and what comes of listening at an address. -/
structure Surroundings where
  base : Place
  working : Place
  supply : Supply
  format : Settings.Format
  listen : String → Except String SocketAddress

namespace Surroundings

/-- Goes on with the shelf if it can be opened. -/
def withShelf (w : Surroundings) (s : Settings) (d : Disk) (use : Shelf → Ending × Disk) :
    Ending × Disk :=
  match Shelf.load w.supply.now w.base s.dataFile d with
  | .ok shelf => use shelf
  | .error _ => (.failed ("cannot load " ++ s.dataFile), d)

/-- The items of an import file: a bare list, or the list in a collection. -/
def importItems (file : String) (content : Bytes) : Except String (List Json) :=
  match Json.ofBytes content with
  | .error fault => .error (fault.message (Utf8.glyphs content))
  | .ok (.array items) => .ok items
  | .ok (.object members) =>
    match Json.get? "entries" members with
    | some (.array items) => .ok items
    | _ => .error (file ++ ": entries must be a list")
  | .ok _ => .error (file ++ ": expected an export document or an array of entries")

/-- With nobody to ask, an import that is not confirmed fails. -/
def unconfirmed : String := "An error occurred: The input device is not a TTY"

def byTitle (bookmarks : List Bookmark) : List Bookmark :=
  bookmarks.mergeSort fun a b => a.title ≤ b.title

def search (s : Settings) (shelf : Shelf) (query : List String) (path : Option String)
    (countOnly : Bool) : String :=
  let findings := shelf.search (Text.join " " query) (path.getD s.defaultPath)
  if countOnly then toString findings.count ++ " entries found\n"
  else (Json.array ((byTitle findings.bookmarks).map Bookmark.toJson)).page ++ "\n"

def tree (shelf : Shelf) (asJson : Bool) : String :=
  if asJson then shelf.tagTree.view.page ++ "\n" else shelf.tagTree.render

/-- Puts the items in place of all that is on the shelf. -/
def replaceAll (w : Surroundings) (d : Disk) (shelf : Shelf) (items : List Json) : Ending × Disk :=
  let outcome := shelf.replaceAll w.supply d items
  match outcome.result with
  | .ok n => (.done (toString n ++ " entries imported\n"), outcome.disk)
  | .error e => (.failed e.message, outcome.disk)

/-- The import file is read before the shelf is opened. -/
def runImport (w : Surroundings) (s : Settings) (d : Disk) (file : String) (isConfirmed : Bool) :
    Ending × Disk :=
  match d.read w.working file with
  | .error _ => (.failed ("cannot read " ++ file), d)
  | .ok content =>
    match importItems file content with
    | .error message => (.failed message, d)
    | .ok items =>
      w.withShelf s d fun shelf =>
        if isConfirmed then w.replaceAll d shelf items else (.failed unconfirmed, d)

/-- The collection as text, or as a file without a final line end. -/
def runExport (w : Surroundings) (d : Disk) (shelf : Shelf) (output : Option String) :
    Ending × Disk :=
  match output with
  | none => (.done (shelf.collection.toJson.page ++ "\n"), d)
  | some path =>
    match d.write w.working path shelf.collection.bytes with
    | .ok d => (.done "", d)
    | .error _ => (.failed ("cannot write " ++ path), d)

def serve (w : Surroundings) (s : Settings) (shelf : Shelf) : Ending :=
  match w.listen s.listenAddress with
  | .ok address => .serving address s shelf
  | .error message => .failed message

def carryOut (w : Surroundings) (s : Settings) (d : Disk) : Command → Ending × Disk
  | .search query path countOnly =>
    w.withShelf s d fun shelf => (.done (search s shelf query path countOnly), d)
  | .tree asJson => w.withShelf s d fun shelf => (.done (tree shelf asJson), d)
  | .importFile file isConfirmed => w.runImport s d file isConfirmed
  | .exportTo output => w.withShelf s d fun shelf => w.runExport d shelf output
  | .serve address =>
    w.withShelf s d fun shelf =>
      (w.serve { s with listenAddress := address.getD s.listenAddress } shelf, d)

/-- A run with the arguments after the program's name. -/
def run (w : Surroundings) (d : Disk) (arguments : List String) : Ending × Disk :=
  match Command.ofArguments arguments with
  | .error e => (.refused e, d)
  | .ok command =>
    match Settings.load w.format w.supply.mark w.base d with
    | (.error e, d) => (.failed e.message, d)
    | (.ok s, d) => w.carryOut s d command

end Surroundings
end Linkshelf
