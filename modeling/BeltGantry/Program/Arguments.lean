import BeltGantry.Program.Outcome
namespace BeltGantry

/-!
# Command line

The words of a command line are read one by one into a draft of an invocation.
A word is the value that an option before it waits for, or a long option behind
two hyphens, or a cluster of one-letter options behind one.  The value of an
option may also be attached to it.  A target may start with a hyphen, the path
of a machine file may not.  Every option but `--move` is given at most once.
Reading stops at the first fault, and at a request for help or for the version.
-/

namespace Program

/-- The options of the program. -/
inductive Setting where
  | config
  | home
  | move
  | verbose
  | json
  | help
  | version
  deriving DecidableEq, Repr

namespace Setting

def all : List Setting := [config, home, move, verbose, json, help, version]

/-- Name behind two hyphens. -/
def name : Setting → String
  | config => "config"
  | home => "home"
  | move => "move"
  | verbose => "verbose"
  | json => "json"
  | help => "help"
  | version => "version"

/-- Letter behind one hyphen. -/
def letter? : Setting → Option Char
  | config => some 'c'
  | home => none
  | move => some 'm'
  | verbose => some 'v'
  | json => none
  | help => some 'h'
  | version => some 'V'

/-- How messages show the option, with its value if it takes one. -/
def shown : Setting → String
  | config => "--config <CONFIG>"
  | move => "--move <X,Y,Z>"
  | setting => "--" ++ setting.name

def takesValue (setting : Setting) : Bool := setting = config || setting = move

def ofName? (name : String) : Option Setting := all.find? (·.name = name)

def ofLetter? (letter : Char) : Option Setting := all.find? (·.letter? = some letter)

theorem ofName?_name (setting : Setting) : ofName? setting.name = some setting := by
  cases setting <;> decide

end Setting

/-- Why a command line is refused. -/
inductive ArgumentFault where
  | unexpected (word : String)
  | valueMissing (setting : Setting)
  | valueUnwanted (setting : Setting) (value : String)
  | repeated (setting : Setting)
  deriving DecidableEq, Repr

def ArgumentFault.message : ArgumentFault → String
  | unexpected word => "error: unexpected argument '" ++ word ++ "' found"
  | valueMissing setting =>
    "error: a value is required for '" ++ setting.shown ++ "' but none was supplied"
  | valueUnwanted setting value =>
    "error: unexpected value '" ++ value ++ "' for '" ++ setting.shown ++
      "' found; no more were expected"
  | repeated setting =>
    "error: the argument '" ++ setting.shown ++ "' cannot be used multiple times"

/-- Why the reading of a command line ends early. -/
inductive Halt where
  | fault (fault : ArgumentFault)
  | help
  | version
  deriving DecidableEq, Repr

/-- A command line read so far. -/
structure Draft where
  config : Option String := none
  home : Bool := false
  verbose : Bool := false
  json : Bool := false
  targets : List String := []
  /-- The option whose value comes next. -/
  awaited : Option Setting := none
  /-- No option may follow any more. -/
  closed : Bool := false

namespace Draft

/-- Path of the machine file when none is given. -/
def defaultConfig : String := "/etc/corexy/machine.toml"

/-- The draft with an option that takes no value. -/
def raise (draft : Draft) : Setting → Except Halt Draft
  | .home =>
    if draft.home then .error (.fault (.repeated .home)) else .ok { draft with home := true }
  | .verbose =>
    if draft.verbose then .error (.fault (.repeated .verbose))
    else .ok { draft with verbose := true }
  | .json =>
    if draft.json then .error (.fault (.repeated .json)) else .ok { draft with json := true }
  | .help => .error .help
  | .version => .error .version
  | setting => .error (.fault (.valueMissing setting))

/-- The draft with an option and its value. -/
def supply (draft : Draft) (setting : Setting) (value : String) : Except Halt Draft :=
  match setting with
  | .config =>
    if draft.config.isSome then .error (.fault (.repeated .config))
    else .ok { draft with config := some value }
  | .move => .ok { draft with targets := draft.targets ++ [value] }
  | setting => .error (.fault (.valueUnwanted setting value))

/-- The draft with an option that comes with an attached value or without. -/
def apply (draft : Draft) (setting : Setting) : Option String → Except Halt Draft
  | some value => draft.supply setting value
  | none =>
    if setting.takesValue then .ok { draft with awaited := some setting } else draft.raise setting

/-- Read a long option without its hyphens. -/
def readLong (draft : Draft) (body : List Char) : Except Halt Draft :=
  let name := String.ofList (body.takeWhile (· ≠ '='))
  let value := match body.dropWhile (· ≠ '=') with
    | [] => none
    | _ :: value => some (String.ofList value)
  match Setting.ofName? name with
  | none => .error (.fault (.unexpected ("--" ++ name)))
  | some setting => draft.apply setting value

/-- Read a cluster of one-letter options without the hyphen.  What follows an
option that takes a value is its value, with or without an equals sign. -/
def readShort (draft : Draft) : List Char → Except Halt Draft
  | [] => .ok draft
  | letter :: rest =>
    match Setting.ofLetter? letter with
    | none => .error (.fault (.unexpected ("-" ++ letter.toString)))
    | some setting =>
      if setting.takesValue then
        match rest with
        | [] => draft.apply setting none
        | '=' :: value => draft.apply setting (some (String.ofList value))
        | value => draft.apply setting (some (String.ofList value))
      else
        match draft.raise setting with
        | .error halt => .error halt
        | .ok raised => raised.readShort rest

/-- Read a word that no option waits for. -/
def readOption (draft : Draft) (word : String) : Except Halt Draft :=
  if draft.closed then .error (.fault (.unexpected word))
  else match word.toList with
    | ['-', '-'] => .ok { draft with closed := true }
    | '-' :: '-' :: body => draft.readLong body
    | '-' :: letter :: rest => draft.readShort (letter :: rest)
    | _ => .error (.fault (.unexpected word))

/-- Whether a word may be the value of an option that waits for one. -/
def acceptsValue (setting : Setting) (word : String) : Bool :=
  match word.toList with
  | '-' :: _ :: _ => setting = .move
  | _ => true

/-- Read the next word. -/
def read (draft : Draft) (word : String) : Except Halt Draft :=
  match draft.awaited with
  | none => draft.readOption word
  | some setting =>
    if acceptsValue setting word then { draft with awaited := none }.supply setting word
    else .error (.fault (.valueMissing setting))

/-- The invocation of a command line that was read to its end. -/
def finish (draft : Draft) : Except Halt Invocation :=
  match draft.awaited with
  | some setting => .error (.fault (.valueMissing setting))
  | none => .ok {
      config := draft.config.getD defaultConfig
      home := draft.home
      verbose := draft.verbose
      json := draft.json
      targets := draft.targets }

end Draft

/-- Read the words of a command line. -/
def readArguments (words : List String) : Except Halt Invocation :=
  match words.foldlM Draft.read {} with
  | .error halt => .error halt
  | .ok draft => draft.finish

def versionText : String := "corexy_abc " ++ version

def usageText : String := "Usage: corexy_abc [OPTIONS]"

def helpText : String := String.intercalate "\n" [
  "CoreXY kinematics for a configurable axis triplet",
  "",
  usageText,
  "",
  "Options:",
  "  -c, --config <CONFIG>  Path to the machine configuration file [default: " ++
    Draft.defaultConfig ++ "]",
  "      --home             Home every configured axis before checking moves",
  "  -m, --move <X,Y,Z>     Target position \"X,Y,Z\" in triplet coordinates (can be repeated)",
  "  -v, --verbose          Enable verbose logging",
  "      --json             Output logs in JSON format",
  "  -h, --help             Print help",
  "  -V, --version          Print version"]

end Program

end BeltGantry
