import Linkshelf.Disk.Replace
import Linkshelf.Settings.Address
import Linkshelf.TagPath

/-! The settings of a shelf and the file in its folder that holds them. -/
namespace Linkshelf

structure Settings where
  listenAddress : String
  dataFile : String
  staticFolder : Option String
  defaultPath : String
  deriving DecidableEq, Repr

inductive SettingsError where
  | noFolder (path : String)
  | disk (error : DiskError)
  | notText
  | malformed
  | badAddress (given : String)
  deriving DecidableEq, Repr

def SettingsError.message : SettingsError → String
  | noFolder path => "cannot create " ++ path
  | disk e => e.message
  | notText => "config file is not valid utf8"
  | malformed => "config is malformed"
  | badAddress given => "listen_addr must be an ip:port socket address, got '" ++ given ++ "'"

namespace Settings

def fileName : String := "config.yaml"

def default : Settings := ⟨"0.0.0.0:8787", "data.json", none, TagPath.all⟩

/-- The settings by name, as they stand in the file. -/
def fields (s : Settings) : List (String × String) :=
  [("listen_addr", s.listenAddress), ("data_file", s.dataFile)] ++
    (s.staticFolder.map ("static_dir", ·)).toList ++ [("default_path", s.defaultPath)]

/-- What a file says of each setting. -/
structure Given where
  listenAddress : Option String := none
  dataFile : Option String := none
  staticFolder : Option String := none
  defaultPath : Option String := none

/-- A setting that the file does not give has its default. -/
def Given.settings (g : Given) : Settings where
  listenAddress := g.listenAddress.getD default.listenAddress
  dataFile := g.dataFile.getD default.dataFile
  staticFolder := g.staticFolder
  defaultPath := g.defaultPath.getD default.defaultPath

/-- The notation of the file, which is taken from outside: how named texts are written as one text,
and what a text says of the settings. -/
structure Format where
  write : List (String × String) → String
  read? : String → Option Given

/-- Settings that are written are read again as the same settings. -/
def Format.IsFaithful (f : Format) : Prop :=
  ∀ s : Settings, (f.read? (f.write s.fields)).map Given.settings = some s

/-- The file's content. -/
def bytes (f : Format) (s : Settings) : Bytes := Utf8.encode (f.write s.fields)

def orDefault (default given : String) : String := if Text.isBlankText given then default else given

/-- Blank settings get their defaults. -/
def filled (s : Settings) : Settings :=
  { s with
    listenAddress := orDefault default.listenAddress s.listenAddress
    dataFile := orDefault default.dataFile s.dataFile
    defaultPath := orDefault default.defaultPath s.defaultPath }

def hasAddress (s : Settings) : Bool := (SocketAddress.ofString? s.listenAddress).isSome

/-- The settings that a file's content gives. -/
def ofBytes (f : Format) (content : Bytes) : Except SettingsError Settings :=
  match Utf8.decode? content with
  | none => .error .notText
  | some text =>
    match f.read? text with
    | none => .error .malformed
    | some given =>
      let s := given.settings.filled
      if s.hasAddress then .ok s else .error (.badAddress s.listenAddress)

def pathText (p : Place) : String := "/" ++ Text.join "/" p

def save (f : Format) (mark : String) (base : Place) (d : Disk) (s : Settings) :
    Except SettingsError Unit × Disk :=
  match d.makeFolder base with
  | .error e => (.error (.disk e), d)
  | .ok d =>
    match d.replace mark base fileName (s.bytes f) with
    | (.ok (), d) => (.ok (), d)
    | (.error e, d) => (.error (.disk e), d)

/-- The content of the file, which is written with the defaults when it is missing. -/
def contentOrDefault (f : Format) (mark : String) (base : Place) (d : Disk) :
    Except SettingsError Bytes × Disk :=
  let (result, d) :=
    if d.has base fileName then (.ok (), d) else d.replace mark base fileName (default.bytes f)
  match result with
  | .error e => (.error (.disk e), d)
  | .ok () =>
    match d.read base fileName with
    | .error e => (.error (.disk e), d)
    | .ok content => (.ok content, d)

/-- Loads the settings and writes them back when the file said less or said it differently. -/
def load (f : Format) (mark : String) (base : Place) (d : Disk) :
    Except SettingsError Settings × Disk :=
  match d.makeFolder base with
  | .error _ => (.error (.noFolder (pathText base)), d)
  | .ok d =>
    match contentOrDefault f mark base d with
    | (.error e, d) => (.error e, d)
    | (.ok content, d) =>
      match ofBytes f content with
      | .error e => (.error e, d)
      | .ok s =>
        if content = s.bytes f then (.ok s, d)
        else
          match s.save f mark base d with
          | (.error e, d) => (.error e, d)
          | (.ok (), d) => (.ok s, d)

end Settings
end Linkshelf
