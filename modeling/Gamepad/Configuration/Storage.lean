import Gamepad.Configuration.Format

/-!
Keeping a configuration in a file, as text that a library for TOML writes and reads.
-/

namespace Gamepad.Configuration

section

variable (library : Toml.Library)

def loadWith (files : Files) (path : Path) : Except ConfigurationError Configuration := do
  let text ← (files.readText path).mapError (.read path)
  let some configuration := (library.read text).bind ofTable? | throw (.parse path)
  configuration.validate
  return configuration

/-- Writes a configuration, valid or not, and creates the directories above the file. Nothing but
these directories changes when it fails. -/
def saveWith (configuration : Configuration) (files : Files) (path : Path) :
    Except ConfigurationError Unit × Files :=
  match files.createDirectories path.dropLast with
  | .error error => (.error (.createDirectory error), files)
  | .ok files =>
    match library.write configuration.draft with
    | none => (.error .serialize, files)
    | some text =>
      match files.write path text.toUTF8 with
      | .error error => (.error (.write error), files)
      | .ok files => (.ok (), files)

end

def load (files : Files) (path : Path) : Except ConfigurationError Configuration :=
  loadWith Toml.library files path

def loadOrDefault (files : Files) (path : Path) : Except ConfigurationError Configuration :=
  if files.contains path then load files path else .ok defaults

def save (configuration : Configuration) (files : Files) (path : Path) :
    Except ConfigurationError Unit × Files :=
  saveWith Toml.library configuration files path

end Gamepad.Configuration
