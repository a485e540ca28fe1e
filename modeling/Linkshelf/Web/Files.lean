import Linkshelf.Disk.Basic
import Linkshelf.Web.Message
import Linkshelf.Web.Percent

/-! Files of one folder, served by their path. -/
namespace Linkshelf.Web.Files

def notAllowed : Response := { status := 405, allow := some "GET,HEAD" }

def notFound : Response := { status := 404 }

/-- The names on the way to a file. No path leads out of the folder. -/
def names? (path : List Char) : Option (List String) := do
  let text ← Percent.text? (path.dropWhile (· = '/'))
  if Text.startsWith "/" text then none
  else
    let names := (Text.split '/' text).filter fun name => name != "" && name != "."
    if names.contains ".." then none else some names

/-- A folder is named with a slash at the end. -/
def slashed (t : Target) : String :=
  .ofList (t.path ++ ['/'] ++ (t.query.map ('?' :: ·)).getD [])

def file (d : Disk) (folder : Place) (names : List String) : Response :=
  match d.read folder (Text.join "/" names) with
  | .ok bytes =>
    { status := 200, content := .file (MediaType.ofFileName (names.getLast?.getD "")) bytes }
  | .error .notFound | .error .notADirectory => notFound
  | .error _ => { status := 500 }

/-- A folder answers with its index. -/
def answer (d : Disk) (folder : Place) (method : Method) (t : Target) : Response :=
  if method ≠ .get && method ≠ .head then notAllowed
  else
    match names? t.path with
    | none => notFound
    | some names =>
      if d.isFolder folder (Text.join "/" names) then
        if t.path.getLast? = some '/' then file d folder (names ++ ["index.html"])
        else { status := 307, location := some (slashed t) }
      else file d folder names

end Linkshelf.Web.Files
