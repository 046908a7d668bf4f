/-!
Small letters for capital ones, within ASCII alone: every other character stays.
-/

namespace Gamepad.Text

def lower (text : String) : String := String.ofList (text.toList.map Char.toLower)

end Gamepad.Text
