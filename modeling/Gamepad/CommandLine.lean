import Gamepad.CommandLine.Options
import Gamepad.Configuration.Storage
import Gamepad.Console

/-!
The program around the console: it reads a configuration, runs the lines of a script or of its
input, and prints what they answer.
-/

namespace Gamepad.CommandLine

inductive Failure
  | configuration (error : ConfigurationError)
  | script (text : String) (error : FileError)
  | input (error : FileError)
deriving DecidableEq, Repr

def Failure.message : Failure → String
  | configuration error => error.message
  | script text error => s!"Failed to open script {text}: {error.message}"
  | input error => s!"Failed to read console input: {error.message}"

structure Outcome where
  exitCode : UInt32
  output : List String
  complaint : Option String := none
deriving DecidableEq, Repr

/-- The console of a run, before its first line. Without a place for a configuration, the defaults
apply. -/
def prepare (files : Files) (configPath? : Option Path) (options : Options) :
    Except ConfigurationError Console := do
  let configuration ←
    match configPath? with
    | some path => Configuration.loadOrDefault files path
    | none => pure Configuration.defaults
  let _ ← LogLevel.parse (options.logLevel?.getD configuration.level)
  let keyMap ← configuration.keyMap
  return .create (.create configuration.registrySettings keyMap)

def respond (console : Console) (line : String) : List String × Console :=
  let (answer, console) := console.execute line
  match answer with
  | .ok lines => (lines, console)
  | .error error => ([s!"error: {error.message}"], console)

def splitLines : List UInt8 → List (List UInt8)
  | [] => []
  | byte :: rest =>
    if byte = 10 then [byte] :: splitLines rest
    else
      match splitLines rest with
      | line :: lines => (byte :: line) :: lines
      | [] => [[byte]]

/-- The text of a line without its line feed and a carriage return before that. -/
def lineText? (line : List UInt8) : Option String := do
  let text ← String.fromUTF8? ⟨line.toArray⟩
  match text.toList.reverse with
  | '\n' :: '\r' :: rest => return .ofList rest.reverse
  | '\n' :: rest => return .ofList rest.reverse
  | _ => return text

def runLines (console : Console) : List (List UInt8) → List String × Bool
  | [] => ([], true)
  | line :: rest =>
    match lineText? line with
    | none => ([], false)
    | some text =>
      let (answers, console) := respond console text
      let (output, finished) := runLines console rest
      (answers ++ output, finished)

def runInput (console : Console) (input : ByteArray) : Outcome :=
  match runLines console (splitLines input.data.toList) with
  | (output, true) =>
    { exitCode := 0
      output }
  | (output, false) =>
    { exitCode := 1
      output
      complaint := some (Failure.input .invalidText).message }

def fail (failure : Failure) : Outcome where
  exitCode := 1
  output := []
  complaint := some failure.message

def configPath? (files : Files) (defaultPath : Path) (options : Options) : Option Path :=
  match options.config? with
  | some text => (files.locate text).toOption
  | none => some defaultPath

def runOptions (files : Files) (defaultPath : Path) (input : ByteArray) (options : Options) :
    Outcome :=
  match prepare files (configPath? files defaultPath options) options with
  | .error error => fail (.configuration error)
  | .ok console =>
    match options.script? with
    | none => runInput console input
    | some text =>
      match (files.locate text).bind files.read with
      | .ok content => runInput console content
      | .error .isDirectory => fail (.input .isDirectory)
      | .error error => fail (.script text error)

def run (files : Files) (defaultPath : Path) (input : ByteArray) (arguments : List String) :
    Outcome :=
  match Options.parse arguments with
  | .error error =>
    { exitCode := 2
      output := []
      complaint := some error.message }
  | .ok .help =>
    { exitCode := 0
      output := Options.helpText }
  | .ok (.run options) => runOptions files defaultPath input options

end Gamepad.CommandLine
