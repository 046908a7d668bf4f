import Gamepad.Configuration
import Gamepad.Toml.Library

/-!
The configuration as a TOML document: the bindings, and a section for each part. What a document
leaves out has its default, and keys without a meaning are passed over.
-/

namespace Gamepad.Configuration

open Toml

def defaults : Configuration := {}

/-- The fields of a section, in the order of their keys. A list gives them by position, and a
moment is a section without any of them. -/
def fieldsOf? (keys : List String) : Value → Option (List (Option Value))
  | .table entries => some (keys.map (field? entries))
  | .array items => some (keys.zipIdx.map fun (_, position) => items[position]?)
  | .moment _ => some (keys.map fun _ => none)
  | _ => none

def section? (root : List (String × Value)) (name : String) (keys : List String) :
    Option (List (Option Value)) :=
  match field? root name with
  | none => some (keys.map fun _ => none)
  | some value => fieldsOf? keys value

def orDefault {α : Type} (read : Value → Option α) (default : α) : Option Value → Option α
  | none => some default
  | some value => read value

def text? : Value → Option String
  | .text text => some text
  | _ => none

def texts? : Value → Option (List String)
  | .array items => items.mapM text?
  | _ => none

def threshold? : Value → Option Int32
  | .integer number =>
    if Int32.minValue.toInt ≤ number.toInt ∧ number.toInt ≤ Int32.maxValue.toInt then
      some (.ofInt number.toInt)
    else none
  | _ => none

def capacity? : Value → Option Nat
  | .integer number => if 0 ≤ number.toInt then some number.toInt.toNat else none
  | _ => none

def policyName : OverflowPolicy → String
  | .dropOldest => "drop-oldest"
  | .dropNewest => "drop-newest"

def policyOfName? (name : String) : Option OverflowPolicy :=
  [OverflowPolicy.dropOldest, .dropNewest].find? fun policy => policyName policy = name

/-- A policy is its name, or a table in which its name alone stands for an empty value. -/
def policy? : Value → Option OverflowPolicy
  | .text name => policyOfName? name
  | .table [(name, .table [])] => policyOfName? name
  | .table [(name, .array [])] => policyOfName? name
  | _ => none

def ofTable? (root : List (String × Value)) : Option Configuration := do
  let bindings ← orDefault texts? defaults.bindings (field? root "bindings")
  let [deadZoneSquared, axisBand] ← section? root "quantizer" ["dead_zone_squared", "axis_band"]
    | none
  let [overflow] ← section? root "queue" ["overflow"] | none
  let [capacity, namePrefix] ← section? root "registry" ["capacity", "name_prefix"] | none
  let [level] ← section? root "logging" ["level"] | none
  let deadZoneSquared ← orDefault threshold? defaults.quantizer.deadZoneSquared deadZoneSquared
  let axisBand ← orDefault threshold? defaults.quantizer.axisBand axisBand
  return {
    bindings
    quantizer := { deadZoneSquared, axisBand }
    policy := ← orDefault policy? defaults.policy overflow
    capacity := ← orDefault capacity? defaults.capacity capacity
    sourceName := ← orDefault text? defaults.sourceName namePrefix
    level := ← orDefault text? defaults.level level }

def draft (configuration : Configuration) : Draft where
  entries := [("bindings", .texts configuration.bindings)]
  sections :=
    [("quantizer",
       [("dead_zone_squared", .number configuration.quantizer.deadZoneSquared.toInt),
        ("axis_band", .number configuration.quantizer.axisBand.toInt)]),
     ("queue", [("overflow", .text (policyName configuration.policy))]),
     ("registry",
       [("capacity", .number configuration.capacity),
        ("name_prefix", .text configuration.sourceName)]),
     ("logging", [("level", .text configuration.level)])]

/-- The document that holds a configuration. A capacity beyond the integers of a document cannot
be written. -/
def toDocument? (configuration : Configuration) : Option Document := configuration.draft.document?

end Gamepad.Configuration
