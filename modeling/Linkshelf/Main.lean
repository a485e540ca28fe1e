import Linkshelf.Program
import Linkshelf.Settings.Yaml
import Linkshelf.Text.Timestamp
import Linkshelf.Text.Ulid
import Std.Time.DateTime.Timestamp

/-! The program itself: it looks at the files that a run may need, runs, and writes what the run has
changed. -/
namespace Linkshelf.Outside

/-- The time of the run and what makes its marks new ones. -/
def supply : IO Supply := do
  let millis := (← Std.Time.Timestamp.now).toMillisecondsSinceUnixEpoch.val.toNat
  let random := (← IO.getRandomBytes 10).toList.foldl (fun n b => n * 256 + b.toNat) 0
  return ⟨Timestamp.ofMillis millis, Ulid.text millis random,
    fun k => Ulid.bookmarkId millis (random + 1 + k)⟩

def names (path : String) : Place := (Text.split '/' path).filter (!·.isEmpty)

def working : IO Place := return names (← IO.currentDir).toString

/-- The folder of the shelf. -/
def base? : IO (Option Place) := do
  match ← IO.getEnv "TAGMARK_BASE_PATH" with
  | some path =>
    if Text.startsWith "/" path then return some (names path)
    else return some ((← working) ++ names path)
  | none => return (← IO.getEnv "HOME").map fun home => names home ++ [".local", "share", "tagmark"]

/-- Takes over what stands at a place. -/
def look (d : Disk) (p : Place) : IO Disk := do
  let path := (← IO.currentDir) / Settings.pathText p
  if ← path.isDir then return d.insert p .folder
  else if ← path.pathExists then return d.insert p (.file (← IO.FS.readBinFile path).toList)
  else return d

/-- Takes over what stands on the way that a path leads, seen from a folder. -/
def lookAlong (d : Disk) (base : Place) (path : String) : IO Disk := do
  let mut d := d
  let mut p : Place := []
  let way := if Text.startsWith "/" path then [] else base
  for name in way ++ Text.split '/' path do
    if name = ".." then p := p.dropLast
    else if name ≠ "" && name ≠ "." then
      p := p ++ [name]
      d ← look d p
  return d

/-- The file in the working folder that a command names. -/
def namedFile? : Command → Option String
  | .importFile file _ => some file
  | .exportTo output => output
  | _ => none

/-- The part of the disk that a run may look at. -/
def lookAround (w : Surroundings) (command : Command) : IO Disk := do
  let d ← lookAlong .empty w.base Settings.fileName
  let d ← match (Settings.load w.format w.supply.mark w.base d).1 with
    | .ok s => lookAlong d w.base s.dataFile
    | .error _ => pure d
  match namedFile? command with
  | some file => lookAlong d w.working file
  | none => return d

/-- Makes a folder, or puts a file in the place of an older one in one step. -/
def put (p : Place) : Node → IO Unit
  | .folder => IO.FS.createDirAll (Settings.pathText p)
  | .file content => do
    let path := Settings.pathText p
    IO.FS.writeBinFile (path ++ ".part") ⟨content.toArray⟩
    IO.FS.rename (path ++ ".part") path

/-- Writes what is new on the disk, folders before what is in them. -/
def putChanges (before after : Disk) : IO Unit := do
  for (p, node) in after.nodes.mergeSort fun a b => a.1.length ≤ b.1.length do
    if before.node? p ≠ some node then put p node

/-- Nothing listens here. -/
def listen (_ : String) : Except String SocketAddress := .error "serving is not supported"

/-- Prints how a run ended and gives its exit code. -/
def tell (ending : Ending) : IO UInt32 := do
  IO.print ending.output
  if let some message := ending.error? then IO.eprintln ("Error: " ++ message)
  match ending with
  | .refused e =>
    if ending.exitCode ≠ 0 then IO.eprintln (e.message ++ "\n\n" ++ Ending.helpText)
    return ending.exitCode.toUInt32
  | _ => return ending.exitCode.toUInt32

def run (arguments : List String) : IO UInt32 := do
  match Command.ofArguments arguments with
  | .error e => tell (.refused e)
  | .ok command =>
    match ← base? with
    | none => tell (.failed "could not determine home directory")
    | some base =>
      let w : Surroundings := ⟨base, ← working, ← supply, Settings.yaml, listen⟩
      let before ← lookAround w command
      let (ending, after) := w.run before arguments
      putChanges before after
      tell ending

end Linkshelf.Outside

def main (arguments : List String) : IO UInt32 := do
  try Linkshelf.Outside.run arguments
  catch e => do
    IO.eprintln s!"Error: {e}"
    return 1
