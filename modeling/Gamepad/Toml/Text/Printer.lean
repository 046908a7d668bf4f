import Gamepad.Text.Numeral

/-!
Writing texts into a TOML document. The quotes are chosen so that escapes are rare: double quotes
where nothing needs an escape, else single quotes, else three of either, and escapes only where no
quotes avoid them.
-/

namespace Gamepad.Toml

inductive TextStyle
  | basic
  | literal
  | multilineBasic
  | multilineLiteral
deriving DecidableEq, Repr

def needsEscape (c : Char) : Bool := (c < ' ' && c ≠ '\t' && c ≠ '\n') || c = '\x7f'

/-- The most quotes in a row; `current` of them stand right before the text. -/
def longestRun (quote : Char) : (current : Nat) → List Char → Nat
  | current, [] => current
  | current, c :: rest =>
    if c = quote then longestRun quote (current + 1) rest
    else max current (longestRun quote 0 rest)

def TextStyle.choose (text : List Char) : TextStyle :=
  let escapes := text.any needsEscape
  let lines := text.contains '\n'
  let backslash := text.contains '\\'
  if !escapes && !backslash && !text.contains '"' && !lines then basic
  else if !escapes && !text.contains '\'' && !lines then literal
  else if !escapes && !backslash && longestRun '"' 0 text ≤ 2 then multilineBasic
  else if !escapes && longestRun '\'' 0 text ≤ 2 then multilineLiteral
  else if lines then multilineBasic
  else basic

def escapeBasic (c : Char) : List Char :=
  if c = '"' ∨ c = '\\' then ['\\', c]
  else if c = '\x08' then ['\\', 'b']
  else if c = '\t' then ['\\', 't']
  else if c = '\n' then ['\\', 'n']
  else if c = '\x0c' then ['\\', 'f']
  else if c = '\r' then ['\\', 'r']
  else if needsEscape c then '\\' :: 'u' :: (Text.hexDigits 4 c.toNat).map Char.toUpper
  else [c]

/-- Writes a text between three double quotes: line breaks stay, and of three quotes in a row the
third has an escape. `quotes` of them stand right before the text. -/
def escapeMultiline : (quotes : Nat) → List Char → List Char
  | _, [] => []
  | quotes, c :: rest =>
    if c = '"' then
      if quotes = 2 then '\\' :: '"' :: escapeMultiline 0 rest
      else '"' :: escapeMultiline (quotes + 1) rest
    else if c = '\n' then '\n' :: escapeMultiline 0 rest
    else escapeBasic c ++ escapeMultiline 0 rest

/-- A text of several lines starts on a line of its own. -/
def firstBreak (text : List Char) : List Char := if text.contains '\n' then ['\n'] else []

def TextStyle.write (text : List Char) : TextStyle → List Char
  | basic => ['"'] ++ text.flatMap escapeBasic ++ ['"']
  | literal => ['\''] ++ text ++ ['\'']
  | multilineBasic =>
    let quotes := List.replicate 3 '"'
    quotes ++ firstBreak text ++ escapeMultiline 0 text ++ quotes
  | multilineLiteral =>
    let quotes := List.replicate 3 '\''
    quotes ++ firstBreak text ++ text ++ quotes

def writeText (text : String) : List Char :=
  (TextStyle.choose text.toList).write text.toList

end Gamepad.Toml
