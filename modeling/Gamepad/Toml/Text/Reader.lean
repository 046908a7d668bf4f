import Gamepad.Text.Numeral
import Gamepad.Toml.Layout

/-!
Reading the texts of a TOML document. A text in double quotes has escapes, one in single quotes
has none, and three quotes on each side let a text run over several lines.
-/

namespace Gamepad.Toml

def push (c : Char) (read : Option (List Char × List Char)) : Option (List Char × List Char) :=
  read.map fun (body, rest) => (c :: body, rest)

def isBasicChar (c : Char) : Bool := isCommentChar c && c ≠ '"' && c ≠ '\\'

def isLiteralChar (c : Char) : Bool := isCommentChar c && c ≠ '\''

def shortEscape? (c : Char) : Option Char :=
  [('b', '\x08'), ('t', '\t'), ('n', '\n'), ('f', '\x0c'), ('r', '\r'), ('"', '"'),
    ('\\', '\\')].lookup c

def charOfDigits? (digits : List Char) : Option Char := do
  let point ← Text.readDigits 16 0 digits
  if valid : point.isValidChar then some (.ofNatAux point valid) else none

def pushPoint (digits : List Char) (read : Option (List Char × List Char)) :
    Option (List Char × List Char) :=
  match charOfDigits? digits with
  | some c => push c read
  | none => none

def readBasic : List Char → Option (List Char × List Char)
  | '\\' :: 'u' :: c₁ :: c₂ :: c₃ :: c₄ :: rest => pushPoint [c₁, c₂, c₃, c₄] (readBasic rest)
  | '\\' :: 'U' :: c₁ :: c₂ :: c₃ :: c₄ :: c₅ :: c₆ :: c₇ :: c₈ :: rest =>
    pushPoint [c₁, c₂, c₃, c₄, c₅, c₆, c₇, c₈] (readBasic rest)
  | '\\' :: letter :: rest =>
    match shortEscape? letter with
    | some c => push c (readBasic rest)
    | none => none
  | '"' :: rest => some ([], rest)
  | c :: rest => if isBasicChar c then push c (readBasic rest) else none
  | [] => none

/-- Behind three closing quotes, up to two more quotes still belong to the text. -/
def closeQuotes (quote : Char) (text : List Char) : List Char × List Char :=
  let extra := (text.takeWhile (· = quote)).take 2
  (extra, text.drop extra.length)

def endsLine (text : List Char) : Bool := (lineBreak? (skipSpaces text)).isSome

/-- A text in three double quotes, from behind the quotes. Behind a backslash at the end of a
line, spaces and line breaks are skipped, which `skipping` says. -/
def readMultilineBasic : (skipping : Bool) → List Char → Option (List Char × List Char)
  | true, '\n' :: rest => readMultilineBasic true rest
  | true, '\r' :: '\n' :: rest => readMultilineBasic true rest
  | false, '\n' :: rest => push '\n' (readMultilineBasic false rest)
  | false, '\r' :: '\n' :: rest => push '\n' (readMultilineBasic false rest)
  | _, '"' :: '"' :: '"' :: rest => some (closeQuotes '"' rest)
  | _, '"' :: rest => push '"' (readMultilineBasic false rest)
  | _, '\\' :: 'u' :: c₁ :: c₂ :: c₃ :: c₄ :: rest =>
    pushPoint [c₁, c₂, c₃, c₄] (readMultilineBasic false rest)
  | _, '\\' :: 'U' :: c₁ :: c₂ :: c₃ :: c₄ :: c₅ :: c₆ :: c₇ :: c₈ :: rest =>
    pushPoint [c₁, c₂, c₃, c₄, c₅, c₆, c₇, c₈] (readMultilineBasic false rest)
  | _, '\\' :: letter :: rest =>
    match shortEscape? letter with
    | some c => push c (readMultilineBasic false rest)
    | none => if endsLine (letter :: rest) then readMultilineBasic true (letter :: rest) else none
  | skipping, c :: rest =>
    if skipping && isSpace c then readMultilineBasic true rest
    else if isBasicChar c then push c (readMultilineBasic false rest)
    else none
  | _, [] => none

def readLiteral (text : List Char) : Option (List Char × List Char) :=
  match text.dropWhile isLiteralChar with
  | '\'' :: rest => some (text.takeWhile isLiteralChar, rest)
  | _ => none

def readMultilineLiteral : List Char → Option (List Char × List Char)
  | '\n' :: rest => push '\n' (readMultilineLiteral rest)
  | '\r' :: '\n' :: rest => push '\n' (readMultilineLiteral rest)
  | '\'' :: '\'' :: '\'' :: rest => some (closeQuotes '\'' rest)
  | c :: rest =>
    if c = '\'' || isLiteralChar c then push c (readMultilineLiteral rest) else none
  | [] => none

/-- A line break right behind three opening quotes does not belong to the text. -/
def skipFirstBreak (text : List Char) : List Char := (lineBreak? text).getD text

def readText : List Char → Option (List Char × List Char)
  | '"' :: '"' :: '"' :: rest => readMultilineBasic false (skipFirstBreak rest)
  | '"' :: rest => readBasic rest
  | '\'' :: '\'' :: '\'' :: rest => readMultilineLiteral (skipFirstBreak rest)
  | '\'' :: rest => readLiteral rest
  | _ => none

end Gamepad.Toml
