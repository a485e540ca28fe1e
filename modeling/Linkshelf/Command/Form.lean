/-! The form of a command line: options, some with a value, and plain words. -/
namespace Linkshelf

/-- Why a command line is not carried out. Asking for help or the version is one reason. -/
inductive UsageError where
  | help
  | version
  | nothingGiven
  | unknownCommand
  | unknownArgument
  | missingValue
  | unwantedValue
  | repeated
  | missingWord
  deriving DecidableEq, Repr

def UsageError.message : UsageError → String
  | help => "help was asked for"
  | version => "the version was asked for"
  | nothingGiven => "no command is given"
  | unknownCommand => "there is no such command"
  | unknownArgument => "an argument is not expected"
  | missingValue => "an option has no value"
  | unwantedValue => "an option takes no value"
  | repeated => "an option is given twice"
  | missingWord => "an argument is missing"

structure OptionSpec where
  short : Option Char
  long : String
  takesValue : Bool
  deriving DecidableEq, Repr

/-- The options of a command, besides help, and how many words it takes. From the first word of an
open form on, all arguments are words. -/
structure Form where
  options : List OptionSpec
  words : Nat
  isOpen : Bool
  deriving DecidableEq, Repr

/-- The option that every form has. -/
def OptionSpec.help : OptionSpec := ⟨some 'h', "help", false⟩

namespace Form

def all (f : Form) : List OptionSpec := OptionSpec.help :: f.options

def short? (f : Form) (c : Char) : Option OptionSpec := f.all.find? (·.short == some c)

def long? (f : Form) (name : String) : Option OptionSpec := f.all.find? (·.long == name)

end Form

/-- What has been read: options with their values, words, and an option that is not settled yet,
with its value as soon as there is one. -/
structure Given where
  options : List (OptionSpec × Option String)
  words : List String
  pending : Option (OptionSpec × Option String)
  deriving DecidableEq, Repr

namespace Given

def empty : Given := ⟨[], [], none⟩

/-- An option is given at most once. -/
def add (g : Given) (o : OptionSpec) (value : Option String) : Except UsageError Given :=
  if g.options.any (·.1 == o) then .error .repeated
  else .ok { g with options := g.options ++ [(o, value)] }

/-- Settles the pending option. -/
def settle (g : Given) : Except UsageError Given :=
  match g.pending with
  | none => .ok g
  | some (_, none) => .error .missingValue
  | some (o, value) => { g with pending := none }.add o value

/-- An option that takes no value. -/
def flag (g : Given) (o : OptionSpec) : Except UsageError Given :=
  match g.settle with
  | .error e => .error e
  | .ok g => if o = .help then .error .help else g.add o none

/-- An option with its value in the same argument, or in the next one. -/
def valued (g : Given) (o : OptionSpec) (value : Option String) : Except UsageError Given :=
  match g.settle with
  | .error e => .error e
  | .ok g =>
    match value with
    | some _ => g.add o value
    | none => .ok { g with pending := some (o, none) }

/-- The option that waits for the next argument. -/
def waiting? (g : Given) : Option OptionSpec :=
  match g.pending with
  | some (o, none) => some o
  | _ => none

def has (g : Given) (o : OptionSpec) : Bool := g.options.any (·.1 == o)

def value? (g : Given) (o : OptionSpec) : Option String := (g.options.lookup o).join

end Given

/-- The kinds of argument: a double dash, a long option with what follows an equals sign, short
options in one, or a word. -/
inductive Argument where
  | dashes
  | long (name : String) (value : Option String)
  | cluster (letters : List Char)
  | word
  deriving DecidableEq, Repr

def Argument.ofString (s : String) : Argument :=
  match s.toList with
  | ['-', '-'] => dashes
  | '-' :: '-' :: cs =>
    let (name, value) := cs.span (· != '=')
    long (.ofList name) (value.head?.map fun _ => .ofList value.tail)
  | ['-'] => word
  | '-' :: cs => cluster cs
  | _ => word

namespace Form

/-- Short options in one argument: the first that takes a value has the rest as its value, less an
equals sign in front. -/
def readCluster (f : Form) (g : Given) : List Char → Except UsageError Given
  | [] => .ok g
  | c :: cs =>
    match f.short? c with
    | none => .error .unknownArgument
    | some o =>
      if o.takesValue then
        match cs with
        | [] => g.valued o none
        | '=' :: value => g.valued o (some (.ofList value))
        | value => g.valued o (some (.ofList value))
      else
        match g.flag o with
        | .error e => .error e
        | .ok g => f.readCluster g cs

def readLong (g : Given) (o : OptionSpec) (value : Option String) : Except UsageError Given :=
  if o.takesValue then g.valued o value
  else if value.isSome then .error .unwantedValue
  else g.flag o

def addWord (f : Form) (g : Given) (w : String) : Except UsageError Given :=
  if g.words.length < f.words then g.settle.map fun g => { g with words := g.words ++ [w] }
  else .error .unknownArgument

/-- Arguments that are all words. -/
def readWords (f : Form) (g : Given) : List String → Except UsageError Given
  | [] => g.settle
  | w :: ws =>
    if f.isOpen then g.settle.map fun g => { g with words := w :: ws }
    else
      match f.addWord g w with
      | .error e => .error e
      | .ok g => f.readWords g ws

/-- In an open form an option that is not known is a word. -/
def isWord (f : Form) : Argument → Bool
  | .dashes => false
  | .long name _ => f.isOpen && (f.long? name).isNone
  | .cluster cs => f.isOpen && cs.any fun c => (f.short? c).isNone
  | .word => true

def readFrom (f : Form) (g : Given) : List String → Except UsageError Given
  | [] => g.settle
  | s :: ss =>
    let argument := Argument.ofString s
    if f.isWord argument then
      match g.waiting? with
      | some o => f.readFrom { g with pending := some (o, some s) } ss
      | none =>
        if f.isOpen then f.readWords g (s :: ss)
        else
          match f.addWord g s with
          | .error e => .error e
          | .ok g => f.readFrom g ss
    else
      match argument with
      | .dashes => f.readWords g ss
      | .long name value =>
        match f.long? name with
        | none => .error .unknownArgument
        | some o =>
          match readLong g o value with
          | .error e => .error e
          | .ok g => f.readFrom g ss
      | .cluster letters =>
        match f.readCluster g letters with
        | .error e => .error e
        | .ok g => f.readFrom g ss
      | .word => .error .unknownArgument

def read (f : Form) (arguments : List String) : Except UsageError Given :=
  f.readFrom .empty arguments

end Form
end Linkshelf
