import Gamepad.Text.Numeral

/-!
Numbers of a TOML document. Single underscores may stand between digits, and a decimal number has
no leading zero. Integers fit 64 bits; a float is refused when it is too large for a double.
-/

namespace Gamepad.Toml

/-- Splits off digits, between which single underscores may stand and are left out. -/
def spanDigits (isDigit : Char → Bool) : List Char → List Char × List Char
  | [] => ([], [])
  | '_' :: d :: rest =>
    if isDigit d then spanDigits isDigit (d :: rest) else ([], '_' :: d :: rest)
  | c :: rest =>
    if isDigit c then
      let (digits, rest) := spanDigits isDigit rest
      (c :: digits, rest)
    else ([], c :: rest)

def isDigitOf (base : Nat) (c : Char) : Bool := (Text.digitValue? base c).isSome

def digits? (base : Nat) (text : List Char) : Option (List Char × List Char) :=
  match text with
  | [] => none
  | c :: _ => if isDigitOf base c then some (spanDigits (isDigitOf base) text) else none

/-- The digits of a decimal number: a zero that leads is the whole of it. -/
def decimal? : List Char → Option (List Char × List Char)
  | '0' :: rest => some (['0'], rest)
  | text => digits? 10 text

def splitSign : List Char → Bool × List Char
  | '-' :: rest => (true, rest)
  | '+' :: rest => (false, rest)
  | text => (false, text)

def integerOf? (base : Nat) (negative : Bool) (digits : List Char) : Option Int64 := do
  let size ← Text.readDigits base 0 digits
  let number : Int := if negative then -size else size
  if Int64.minValue.toInt ≤ number ∧ number ≤ Int64.maxValue.toInt then some (.ofInt number)
  else none

def integer? : List Char → Option (Int64 × List Char)
  | '0' :: 'x' :: text => inBase 16 text
  | '0' :: 'o' :: text => inBase 8 text
  | '0' :: 'b' :: text => inBase 2 text
  | text => do
    let (negative, text) := splitSign text
    let (digits, rest) ← decimal? text
    return (← integerOf? 10 negative digits, rest)
where
  inBase (base : Nat) (text : List Char) : Option (Int64 × List Char) := do
    let (digits, rest) ← digits? base text
    return (← integerOf? base false digits, rest)

def fraction? : List Char → Option (List Char × List Char)
  | '.' :: text => digits? 10 text
  | _ => none

def exponent? : List Char → Option (Int × List Char)
  | c :: text =>
    if c = 'e' || c = 'E' then do
      let (negative, text) := splitSign text
      let (digits, rest) ← digits? 10 text
      let size ← Text.readDigits 10 0 digits
      return (if negative then -size else size, rest)
    else none
  | [] => none

/-- Whether `digits` times ten to the power of `exponent` rounds to more than every double. -/
def exceedsDouble (digits : List Char) (exponent : Int) : Bool :=
  let size := (Text.readDigits 10 0 digits).getD 0
  let places := digits.length + exponent
  let limit := Nat.pow 2 1024 - Nat.pow 2 970
  if size = 0 || places < 300 then false
  else if 400 + digits.length < places then true
  else if 0 ≤ exponent then limit ≤ size * Nat.pow 10 exponent.toNat
  else limit * Nat.pow 10 (-exponent).toNat ≤ size

def specialFloat? (text : List Char) : Option (List Char) :=
  match (splitSign text).2 with
  | 'i' :: 'n' :: 'f' :: rest => some rest
  | 'n' :: 'a' :: 'n' :: rest => some rest
  | _ => none

def plainFloat? (text : List Char) : Option (List Char) := do
  let (negative, text) := splitSign text
  let (whole, rest) ← decimal? text
  let fraction := fraction? rest
  let (places, rest) := fraction.getD ([], rest)
  let exponent := exponent? rest
  let (power, rest) := exponent.getD (0, rest)
  if fraction.isNone && exponent.isNone then none
  else if !negative && exceedsDouble (whole ++ places) (power - places.length) then none
  else some rest

def float? (text : List Char) : Option (List Char) := specialFloat? text <|> plainFloat? text

end Gamepad.Toml
