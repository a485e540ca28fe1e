import Linkshelf.Settings.Basic
import Linkshelf.Yaml.Reader
import Linkshelf.Yaml.Spelling

/-! A format for settings: a YAML mapping from the name of each setting to its text. -/
namespace Linkshelf.Settings

/-- Scalars are taken as they are written. -/
def text? : Yaml → Option String
  | .scalar _ text => some (.ofList text)
  | _ => none

/-- A plain scalar that stands for nothing. -/
def isNull : Yaml → Bool
  | .scalar true text => text.isEmpty || ["~", "null", "Null", "NULL"].contains (.ofList text)
  | _ => false

/-- The members by name. Every key has to be a scalar. -/
def named? (members : List (Yaml × Yaml)) : Option (List (String × Yaml)) :=
  members.mapM fun (key, value) => (text? key).map (·, value)

/-- A setting is given at most once. -/
def pick (members : List (String × Yaml)) (key : String) (read : Yaml → Option α) :
    Option (Option α) :=
  match members.filter (·.1 = key) with
  | [] => some none
  | [(_, value)] => (read value).map some
  | _ => none

def optionalText? (v : Yaml) : Option (Option String) :=
  if isNull v then some none else (text? v).map some

/-- What a document says of the settings. Nothing at all says nothing. -/
def ofYaml? : Yaml → Option Given
  | .scalar true [] => some {}
  | .mapping members => do
    let members ← named? members
    return {
      listenAddress := ← pick members "listen_addr" text?
      dataFile := ← pick members "data_file" text?
      staticFolder := (← pick members "static_dir" optionalText?).join
      defaultPath := ← pick members "default_path" text? }
  | _ => none

/-- Settings in YAML. A text with aliases, directives or keys with a question mark is not read. -/
def yaml : Format where
  write fields := .ofList (Yaml.fieldsText fields)
  read? text := (Yaml.read? text.toList).bind ofYaml?

end Linkshelf.Settings
