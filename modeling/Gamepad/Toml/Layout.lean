/-!
What stands between the values of a TOML document: spaces, comments and line breaks. A comment
runs to the end of its line and holds no control but the tab.
-/

namespace Gamepad.Toml

def isSpace (c : Char) : Bool := c = ' ' || c = '\t'

def isCommentChar (c : Char) : Bool := c = '\t' || (' ' ≤ c && c ≤ '~') || '\u0080' ≤ c

def skipSpaces (text : List Char) : List Char := text.dropWhile isSpace

def skipComment : List Char → List Char
  | '#' :: rest => rest.dropWhile isCommentChar
  | text => text

def lineBreak? : List Char → Option (List Char)
  | '\n' :: rest => some rest
  | '\r' :: '\n' :: rest => some rest
  | _ => none

/-- Takes the rest of a line on which nothing but a comment is left. -/
def endLine? (text : List Char) : Option (List Char) :=
  match skipComment (skipSpaces text) with
  | [] => some []
  | text => lineBreak? text

/-- Skips spaces, line breaks and comments; `comment` says that a comment is open. -/
def skipFiller : (comment : Bool) → List Char → List Char
  | _, [] => []
  | _, '\n' :: rest => skipFiller false rest
  | _, '\r' :: '\n' :: rest => skipFiller false rest
  | false, c :: rest =>
    if isSpace c then skipFiller false rest
    else if c = '#' then skipFiller true rest
    else c :: rest
  | true, c :: rest => if isCommentChar c then skipFiller true rest else c :: rest

end Gamepad.Toml
