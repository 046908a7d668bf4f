import Gamepad.Binding
import Gamepad.Console.Error

/-!
The lines that the console understands. Words are separated by blanks; a line without words and a
line whose first word starts with a number sign ask for nothing.
-/

namespace Gamepad

inductive ConsoleCommand
  /-- Plugs a device in and attaches it; without an id it gets the next free one. -/
  | attach (id? : Option DeviceId) (vendor product : UInt16)
  | detach (slot : Nat)
  /-- Queues a report for the device in a slot. -/
  | report (slot : Nat) (raw : RawReport)
  | poll (slot count : Nat)
  | list
  | bind (binding : Binding)
deriving DecidableEq, Repr

namespace ConsoleCommand

def maxPollCount : Nat := 1024

def parseNumber (label text : String) : Except ConsoleError UInt32 :=
  match Text.readUInt32 text with
  | some number => .ok number
  | none => .error (.invalidArgument label text)

def parsePollCount (text : String) : Except ConsoleError Nat := do
  let number ← parseNumber "count" text
  let count := number.toNat
  if 1 ≤ count ∧ count ≤ maxPollCount then return count
  throw (.invalidArgument "count" text)

/-- Reads vendor and product number, both in hexadecimal, around the first colon. -/
def parseIds (text : String) : Except ConsoleError (UInt16 × UInt16) :=
  let (vendor, rest) := text.toList.span (· ≠ ':')
  let ids? := do
    let ':' :: product := rest | none
    let vendor ← Text.readHexUInt16 (.ofList vendor)
    let product ← Text.readHexUInt16 (.ofList product)
    return (vendor, product)
  match ids? with
  | some ids => .ok ids
  | none => .error (.invalidArgument "vendor:product" text)

def parseReport (text : String) : Except ConsoleError RawReport :=
  match Text.decodeHex text with
  | .error error => .error (.invalidReport (.digits error))
  | .ok bytes =>
    if exact : bytes.length = 8 then .ok ⟨bytes.toArray, by simpa using exact⟩
    else .error (.invalidReport (.length bytes.length))

def take (label : String) : List String → Except ConsoleError (String × List String)
  | [] => .error (.missingArgument label)
  | text :: rest => .ok (text, rest)

def finish : List String → Except ConsoleError Unit
  | [] => .ok ()
  | extra :: _ => .error (.binding (.unexpectedArgument extra))

def parseAttach (arguments : List String) : Except ConsoleError ConsoleCommand := do
  let (ids, rest) ← take "vendor:product" arguments
  let (id?, rest) ←
    match rest with
    | [] => pure (none, [])
    | text :: rest => (parseNumber "device id" text).map fun number => (some ⟨number⟩, rest)
  finish rest
  let (vendor, product) ← parseIds ids
  return attach id? vendor product

def parseDetach (arguments : List String) : Except ConsoleError ConsoleCommand := do
  let (text, rest) ← take "slot" arguments
  let slot ← parseNumber "slot" text
  finish rest
  return detach slot.toNat

def parseReportLine (arguments : List String) : Except ConsoleError ConsoleCommand := do
  let (text, rest) ← take "slot" arguments
  let slot ← parseNumber "slot" text
  let (text, rest) ← take "report bytes" rest
  let raw ← parseReport text
  finish rest
  return report slot.toNat raw

def parsePoll (arguments : List String) : Except ConsoleError ConsoleCommand := do
  let (text, rest) ← take "slot" arguments
  let slot ← parseNumber "slot" text
  let (count, rest) ←
    match rest with
    | [] => pure (1, [])
    | text :: rest => (parsePollCount text).map fun count => (count, rest)
  finish rest
  return poll slot.toNat count

def ofWords (command : String) (arguments : List String) : Except ConsoleError ConsoleCommand :=
  match command with
  | "attach" => parseAttach arguments
  | "detach" => parseDetach arguments
  | "report" => parseReportLine arguments
  | "poll" => parsePoll arguments
  | "list" => (finish arguments).map fun _ => list
  | command =>
    if "map-".toList.isPrefixOf command.toList then
      match Binding.ofWords (command :: arguments) with
      | .ok binding => .ok (bind binding)
      | .error error => .error (.binding error)
    else .error (.unknownCommand command)

def parse (line : String) : Except ConsoleError (Option ConsoleCommand) :=
  match Text.words line with
  | [] => .ok none
  | command :: arguments =>
    if command.toList.head? = some '#' then .ok none
    else (ofWords command arguments).map some

end ConsoleCommand

end Gamepad
