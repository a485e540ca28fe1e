import Linkshelf.Command.Form

/-! The commands and how they are read from a command line. -/
namespace Linkshelf

inductive Command where
  | search (query : List String) (path : Option String) (countOnly : Bool)
  | tree (asJson : Bool)
  | importFile (file : String) (isConfirmed : Bool)
  | exportTo (output : Option String)
  | serve (address : Option String)
  deriving DecidableEq, Repr

namespace Command

def pathOption : OptionSpec := ⟨some 'p', "path", true⟩

def countOption : OptionSpec := ⟨some 'c', "count", false⟩

def jsonOption : OptionSpec := ⟨none, "json", false⟩

def yesOption : OptionSpec := ⟨some 'y', "yes", false⟩

def outputOption : OptionSpec := ⟨some 'o', "output", true⟩

def addressOption : OptionSpec := ⟨some 'a', "addr", true⟩

/-- The form of each command, and what it makes of what is given. -/
def forms : List (String × Form × (Given → Except UsageError Command)) :=
  [("serve", ⟨[addressOption], 0, false⟩, fun g => .ok (.serve (g.value? addressOption))),
    ("search", ⟨[pathOption, countOption], 0, true⟩, fun g =>
      .ok (.search g.words (g.value? pathOption) (g.has countOption))),
    ("tree", ⟨[jsonOption], 0, false⟩, fun g => .ok (.tree (g.has jsonOption))),
    ("import", ⟨[yesOption], 1, false⟩, fun g =>
      match g.words with
      | [file] => .ok (.importFile file (g.has yesOption))
      | _ => .error .missingWord),
    ("export", ⟨[outputOption], 0, false⟩, fun g => .ok (.exportTo (g.value? outputOption)))]

def helpName : String := "help"

def isName (s : String) : Bool := s = helpName || (forms.lookup s).isSome

/-- Before a command there is only help and the version. -/
def topLevel (argument : Argument) : UsageError :=
  match argument with
  | .long "help" none => .help
  | .long "version" none => .version
  | .long "help" (some _) | .long "version" (some _) => .unwantedValue
  | .cluster ('h' :: _) => .help
  | .cluster ('V' :: _) => .version
  | .long _ _ | .cluster _ => .unknownArgument
  | .dashes | .word => .unknownCommand

/-- Help is given on one command at most. -/
def helpOn : List String → UsageError
  | [] => .help
  | [s] => if isName s then .help else .unknownCommand
  | _ => .unknownCommand

/-- The command of a command line without the program's name. -/
def ofArguments : List String → Except UsageError Command
  | [] => .error .nothingGiven
  | s :: ss =>
    match forms.lookup s with
    | some (form, make) => (form.read ss).bind make
    | none =>
      if s = helpName then .error (helpOn ss)
      else if Argument.ofString s = .dashes then
        match ss with
        | [] => .error .nothingGiven
        | t :: _ => .error (if isName t then .unknownArgument else .unknownCommand)
      else .error (topLevel (.ofString s))

end Command
end Linkshelf
