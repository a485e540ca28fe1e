import Linkshelf.Disk.Basic

/-! Replacing a file in one step: the new content goes to a file beside it that is then renamed. -/
namespace Linkshelf.Disk

def temporaryName (mark ident : String) : String := mark ++ "-" ++ ident ++ ".tmp"

/-- A file that is named by nothing, or by a dot, cannot be the goal of a renaming. -/
def goal (d : Disk) (base : Place) (ident : String) : Except DiskError Place :=
  match (Text.split '/' ident).getLast? with
  | some "." | some ".." => .error .busy
  | some "" => .error .notADirectory
  | _ =>
    match d.locate base ident with
    | .error e => .error e
    | .ok p =>
      match d.node? p with
      | some .folder => .error .isADirectory
      | _ => .ok p

/-- The mark makes the name of the temporary file a new one. When the renaming fails, that file
stays. -/
def replace (d : Disk) (mark : String) (base : Place) (ident : String) (content : Bytes) :
    Except DiskError Unit × Disk :=
  let temporary := temporaryName mark ident
  match d.locate base temporary with
  | .error e => (.error e, d)
  | .ok source =>
    match d.write base temporary content with
    | .error e => (.error e, d)
    | .ok written =>
      match written.goal base ident with
      | .error e => (.error e, written)
      | .ok p => (.ok (), (written.erase source).insert p (.file content))

end Linkshelf.Disk
