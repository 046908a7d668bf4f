/-!
Dates and times of a TOML document: a day, a time of day, or a day with a time and perhaps an
offset from universal time. Only days that exist are taken; the sixtieth second is a leap second.
-/

namespace Gamepad.Toml

def digitOf? (c : Char) : Option Nat := if c.isDigit then some (c.toNat - '0'.toNat) else none

def twoDigits? (limit : Nat) : List Char → Option (Nat × List Char)
  | c :: d :: rest => do
    let number := 10 * (← digitOf? c) + (← digitOf? d)
    if number ≤ limit then some (number, rest) else none
  | _ => none

def expect? (c : Char) : List Char → Option (List Char)
  | d :: rest => if d = c then some rest else none
  | [] => none

def isLeapYear (year : Nat) : Bool := (year % 4 = 0 && year % 100 ≠ 0) || year % 400 = 0

def daysInMonth (year month : Nat) : Nat :=
  if month = 2 then (if isLeapYear year then 29 else 28)
  else if month ∈ [4, 6, 9, 11] then 30
  else 31

def day? (text : List Char) : Option (List Char) := do
  let (century, text) ← twoDigits? 99 text
  let (year, text) ← twoDigits? 99 text
  let (month, text) ← twoDigits? 12 (← expect? '-' text)
  let (day, text) ← twoDigits? 31 (← expect? '-' text)
  if month = 0 ∨ day = 0 ∨ daysInMonth (100 * century + year) month < day then none
  else some text

def hourAndMinute? (text : List Char) : Option (List Char) := do
  let (_, text) ← twoDigits? 23 text
  let (_, text) ← twoDigits? 59 (← expect? ':' text)
  return text

def timeOfDay? (text : List Char) : Option (List Char) := do
  let text ← hourAndMinute? text
  let (_, text) ← twoDigits? 60 (← expect? ':' text)
  match text with
  | '.' :: digit :: rest =>
    if digit.isDigit then some (rest.dropWhile Char.isDigit) else some text
  | _ => some text

def offset? : List Char → Option (List Char)
  | c :: text =>
    if c = 'Z' || c = 'z' then some text
    else if c = '+' || c = '-' then hourAndMinute? text
    else none
  | [] => none

def timeOfDate? : List Char → Option (List Char)
  | c :: text =>
    if c = 'T' || c = 't' || c = ' ' then do
      let text ← timeOfDay? text
      return (offset? text).getD text
    else none
  | [] => none

def moment? (text : List Char) : Option (List Char) :=
  match day? text with
  | some rest => some ((timeOfDate? rest).getD rest)
  | none => timeOfDay? text

end Gamepad.Toml
