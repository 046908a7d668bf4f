/-!
The options of the command line. Each takes one value, behind an equals sign or as the next
argument, and comes at most once.
-/

namespace Gamepad

structure Options where
  config? : Option String := none
  logLevel? : Option String := none
  script? : Option String := none
deriving DecidableEq, Repr

inductive OptionName
  | config
  | logLevel
  | script
deriving DecidableEq, Repr

namespace OptionName

def all : List OptionName := [config, logLevel, script]

def text : OptionName → String
  | config => "config"
  | logLevel => "log-level"
  | script => "script"

def ofText? (text : String) : Option OptionName := all.find? fun option => option.text = text

end OptionName

inductive UsageError
  | unexpectedArgument (text : String)
  | missingValue (option : String)
  | unneededValue (option : String)
  | emptyValue (option : String)
  | repeatedOption (option : String)
deriving DecidableEq, Repr

def UsageError.message : UsageError → String
  | unexpectedArgument text => s!"unexpected argument '{text}' found"
  | missingValue option => s!"a value is required for '--{option}' but none was supplied"
  | unneededValue option => s!"unexpected value for '--{option}' found; no more were expected"
  | emptyValue option => s!"a value is required for '--{option}' but none was supplied"
  | repeatedOption option => s!"the argument '--{option}' cannot be used multiple times"

inductive Request
  | run (options : Options)
  | help
deriving DecidableEq, Repr

namespace Options

def helpText : List String :=
  ["Drive USB gamepad sessions from a console script and print the keys they produce.",
   "",
   "Usage: padkeys [OPTIONS]",
   "",
   "Options:",
   "      --config <PATH>      Configuration file (defaults to <config dir>/padkeys/config.toml)",
   "      --log-level <LEVEL>  Log level, overrides the configured one",
   "      --script <PATH>      Console script to run instead of reading stdin",
   "  -h, --help               Print help"]

def get? (options : Options) : OptionName → Option String
  | .config => options.config?
  | .logLevel => options.logLevel?
  | .script => options.script?

def set (options : Options) (value : String) : OptionName → Options
  | .config => { options with config? := some value }
  | .logLevel => { options with logLevel? := some value }
  | .script => { options with script? := some value }

def give (options : Options) (option : OptionName) (value : String) : Except UsageError Options :=
  if value = "" ∧ option ≠ .logLevel then .error (.emptyValue option.text)
  else if (options.get? option).isSome then .error (.repeatedOption option.text)
  else .ok (options.set value option)

def isValue (argument : String) : Bool :=
  argument = "-" || argument.toList.head? ≠ some '-'

def splitLong? (argument : String) : Option (String × Option String) :=
  match argument.toList with
  | '-' :: '-' :: rest =>
    match rest.span (· ≠ '=') with
    | (name, _ :: value) => some (.ofList name, some (.ofList value))
    | (name, []) => some (.ofList name, none)
  | _ => none

/-- Reads arguments from left to right; the first that asks for help or is wrong decides. Two
dashes alone end the options, and nothing may follow them. -/
def parseFrom (options : Options) : List String → Except UsageError Request
  | [] => .ok (.run options)
  | ["--"] => .ok (.run options)
  | "--" :: text :: _ => .error (.unexpectedArgument text)
  | argument :: rest =>
    match splitLong? argument with
    | some ("help", none) => .ok .help
    | some ("help", some _) => .error (.unneededValue "help")
    | some (name, attached) =>
      match OptionName.ofText? name, attached, rest with
      | none, _, _ => .error (.unexpectedArgument argument)
      | some option, some value, rest => do parseFrom (← options.give option value) rest
      | some option, none, [] => .error (.missingValue option.text)
      | some option, none, value :: rest =>
        if isValue value then do parseFrom (← options.give option value) rest
        else .error (.missingValue option.text)
    | none =>
      if "-h".toList.isPrefixOf argument.toList then .ok .help
      else .error (.unexpectedArgument argument)

def parse (arguments : List String) : Except UsageError Request := parseFrom {} arguments

end Options

end Gamepad
