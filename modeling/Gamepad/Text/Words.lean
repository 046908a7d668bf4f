/-!
Blank characters and the words between them. Blank means the Unicode property White_Space, so the
next-line control and the ideographic space separate words while the zero-width space does not.
-/

namespace Gamepad.Text

def isBlank (c : Char) : Bool :=
  ('\t' ≤ c && c ≤ '\r') || c == ' ' || c == '\u0085' || c == '\u00a0' || c == '\u1680' ||
    ('\u2000' ≤ c && c ≤ '\u200a') || c == '\u2028' || c == '\u2029' || c == '\u202f' ||
    c == '\u205f' || c == '\u3000'

/-- The maximal runs of characters that are not blank, in order. -/
def words (text : String) : List String :=
  ((text.toList.splitOnP isBlank).filter (· ≠ [])).map String.ofList

end Gamepad.Text
