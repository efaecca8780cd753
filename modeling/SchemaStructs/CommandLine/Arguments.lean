/-! # Command-line arguments

Long options are `--name value` or `--name=value`, short ones `-n value` or `-nvalue`, and short
flags may share a dash. An option that is given again takes its last value, unless it collects
values. -/

namespace SchemaStructs.CommandLine

/-- What an option does with the words after it. -/
inductive OptionShape where
  | flag
  | value
deriving DecidableEq, Repr

/-- The options of a command: names with their dashes, and what each option is called inside. -/
structure OptionSpec where
  names : List String
  key : String
  shape : OptionShape
deriving DecidableEq, Repr

/-- Options in the order in which they were given, and the other words. -/
structure Arguments where
  options : List (String × Option String) := []
  words : List String := []
deriving DecidableEq, Repr

/-- The command line cannot be understood. -/
structure UsageError where
deriving DecidableEq, Repr

def helpSpec : OptionSpec := ⟨["--help"], "help", .flag⟩

namespace Arguments

def give (args : Arguments) (key : String) (value : Option String) : Arguments :=
  { args with options := args.options ++ [(key, value)] }

def has (args : Arguments) (key : String) : Bool := args.options.any (·.1 == key)

/-- The values of an option, in the order in which they were given. -/
def values (args : Arguments) (key : String) : List String :=
  args.options.filterMap fun o => if o.1 == key then o.2 else none

def last? (args : Arguments) (key : String) : Option String := (args.values key).getLast?

/-- The truth value that the last of two opposite flags tells. -/
def switch? (args : Arguments) (on off : String) : Option Bool :=
  ((args.options.filter fun o => o.1 == on || o.1 == off).getLast?).map (·.1 == on)

end Arguments

def findSpec? (specs : List OptionSpec) (name : String) : Option OptionSpec :=
  specs.find? (·.names.contains name)

/-- The name of a long option and its value, if an equals sign gives one. -/
def splitLong (word : List Char) : String × Option String :=
  match word.span (· != '=') with
  | (name, _ :: value) => (.ofList name, some (.ofList value))
  | (name, []) => (.ofList name, none)

/-- A word after its dash, read as short options. The result is the arguments and whether the last
option still needs a value. -/
def readShort (specs : List OptionSpec) (args : Arguments) :
    List Char → Except UsageError (Arguments × Option String)
  | [] => .ok (args, none)
  | c :: rest =>
    match findSpec? specs (.ofList ['-', c]) with
    | none => .error ⟨⟩
    | some spec =>
      match spec.shape, rest with
      | .flag, _ => readShort specs (args.give spec.key none) rest
      | .value, [] => .ok (args, some spec.key)
      | .value, value => .ok (args.give spec.key (some (.ofList value)), none)

/-- One word that starts with a dash. The result is the arguments and the option that takes the next
word, if any. -/
def readOption (specs : List OptionSpec) (args : Arguments) (word : List Char) :
    Except UsageError (Arguments × Option String) :=
  let (name, value) := splitLong word
  let long := specs.find? fun s => s.names.contains name && 2 < name.length
  match long, word with
  | some spec, _ =>
    match spec.shape, value with
    | .flag, none => .ok (args.give spec.key none, none)
    | .flag, some _ => .error ⟨⟩
    | .value, some value => .ok (args.give spec.key (some value), none)
    | .value, none => .ok (args, some spec.key)
  | none, '-' :: '-' :: _ => .error ⟨⟩
  | none, _ => readShort specs args word.tail

def isOptionWord (word : List Char) : Bool := word.head? == some '-' && 1 < word.length

/-- Reads words up to the end. Two dashes end the options. If `interspersed` is false the first
other word ends them, too. -/
def readWords (specs : List OptionSpec) (interspersed : Bool) (args : Arguments) :
    List String → Except UsageError Arguments
  | [] => .ok args
  | word :: rest =>
    if word == "--" then .ok { args with words := args.words ++ rest }
    else if isOptionWord word.toList then
      match readOption specs args word.toList, rest with
      | .error e, _ => .error e
      | .ok (args, none), rest => readWords specs interspersed args rest
      | .ok (args, some key), value :: rest =>
        readWords specs interspersed (args.give key (some value)) rest
      | .ok (_, some _), [] => .error ⟨⟩
    else if interspersed then
      readWords specs interspersed { args with words := args.words ++ [word] } rest
    else .ok { args with words := args.words ++ word :: rest }

end SchemaStructs.CommandLine
