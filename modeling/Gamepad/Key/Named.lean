import Gamepad.Key.Code
import Gamepad.Text.Case

/-!
Keys that have a name. The arrows, the editing keys and the function keys carry their scan codes;
the others are characters that a command line cannot hold as one word.
-/

namespace Gamepad.KeyCode

def named : List (String × KeyCode) :=
  [("up", extended 0x48),
   ("down", extended 0x50),
   ("left", extended 0x4b),
   ("right", extended 0x4d),
   ("home", extended 0x47),
   ("end", extended 0x4f),
   ("pageup", extended 0x49),
   ("pagedown", extended 0x51),
   ("insert", extended 0x52),
   ("delete", extended 0x53),
   ("f1", extended 0x3b),
   ("f2", extended 0x3c),
   ("f3", extended 0x3d),
   ("f4", extended 0x3e),
   ("f5", extended 0x3f),
   ("f6", extended 0x40),
   ("f7", extended 0x41),
   ("f8", extended 0x42),
   ("f9", extended 0x43),
   ("f10", extended 0x44),
   ("f11", extended 0x57),
   ("f12", extended 0x58),
   ("enter", ofChar '\n'),
   ("tab", ofChar '\t'),
   ("backspace", ofChar '\x08'),
   ("escape", ofChar '\x1b'),
   ("space", ofChar ' ')]

def shortNames : List (String × String) :=
  [("esc", "escape"), ("del", "delete"), ("pgup", "pageup"), ("pgdn", "pagedown")]

/-- The key with this name or short form, whatever the case of its ASCII letters. -/
def ofName? (text : String) : Option KeyCode :=
  let name := Text.lower text
  named.lookup ((shortNames.lookup name).getD name)

end Gamepad.KeyCode
