import Gamepad.CommandLine

/-!
The program as it runs: it reads the files that the command line names, answers each line of its
input as soon as the line is there, and reports failures on the error output.
-/

namespace Gamepad.Main

/-- A file under its whole name; what cannot be read as a file stands as a directory. -/
def readFile (name : String) : IO Files := do
  match ← (IO.FS.readBinFile name).toBaseIO with
  | .ok content => return Files.put {} [name] (.file content)
  | .error (.noFileOrDirectory ..) => return {}
  | .error _ => return Files.put {} [name] .directory

def defaultPath? : IO (Option String) := do
  let config? := (← IO.getEnv "XDG_CONFIG_HOME").filter fun name => name.toList.head? = some '/'
  let home? := (← IO.getEnv "HOME").filter fun name => name ≠ ""
  let directory? := config? <|> home?.map fun name => name ++ "/.config"
  return directory?.map fun name => name ++ "/padkeys/config.toml"

def complain (message : String) : IO UInt32 := do
  IO.eprintln s!"Error: {message}"
  return 1

partial def converse (input : IO.FS.Stream) (console : Console) : IO UInt32 := do
  let line ← input.getLine.toBaseIO
  match line with
  | .error _ => complain (CommandLine.Failure.input .invalidText).message
  | .ok "" => return 0
  | .ok line =>
    match CommandLine.lineText? line.toUTF8.data.toList with
    | none => complain (CommandLine.Failure.input .invalidText).message
    | some text =>
      let (answers, console) := CommandLine.respond console text
      answers.forM fun answer => IO.println answer
      converse input console

def start (options : Options) : IO UInt32 := do
  let configPath? ← options.config?.elim defaultPath? (pure ∘ some)
  let files ← configPath?.elim (pure {}) readFile
  match CommandLine.prepare files (configPath?.map fun name => [name]) options with
  | .error error => complain error.message
  | .ok console =>
    match options.script? with
    | none => converse (← IO.getStdin) console
    | some script => do
      let opened ← (IO.FS.Handle.mk script .read).toBaseIO
      match opened with
      | .ok handle => converse (IO.FS.Stream.ofHandle handle) console
      | .error _ => complain (CommandLine.Failure.script script .notFound).message

end Gamepad.Main

def main (arguments : List String) : IO UInt32 := do
  match Gamepad.Options.parse arguments with
  | .error error =>
    IO.eprintln s!"error: {error.message}"
    return 2
  | .ok .help =>
    Gamepad.Options.helpText.forM fun line => IO.println line
    return 0
  | .ok (.run options) => Gamepad.Main.start options
