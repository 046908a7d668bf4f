import Gamepad.Text.Case

/-!
The nine directions of a hat switch: clockwise from up, and rest last. Their order numbers the
cells of every table that has one cell for each direction.
-/

namespace Gamepad

inductive Direction
  | up
  | upRight
  | right
  | downRight
  | down
  | downLeft
  | left
  | upLeft
  | centered
deriving DecidableEq, Repr

namespace Direction

def all : List Direction :=
  [up, upRight, right, downRight, down, downLeft, left, upLeft, centered]

theorem mem_all (direction : Direction) : direction ∈ all := by
  cases direction <;> decide

def index : Direction → Fin 9
  | up => 0
  | upRight => 1
  | right => 2
  | downRight => 3
  | down => 4
  | downLeft => 5
  | left => 6
  | upLeft => 7
  | centered => 8

def ofIndex? (number : Nat) : Option Direction := all[number]?

theorem ofIndex?_index (direction : Direction) : ofIndex? direction.index = some direction := by
  cases direction <;> rfl

def name : Direction → String
  | up => "up"
  | upRight => "upright"
  | right => "right"
  | downRight => "downright"
  | down => "down"
  | downLeft => "downleft"
  | left => "left"
  | upLeft => "upleft"
  | centered => "centered"

/-- Short forms; the two letters of a diagonal may come in either order. -/
def aliases : Direction → List String
  | up => ["u"]
  | upRight => ["ur", "ru"]
  | right => ["r"]
  | downRight => ["dr", "rd"]
  | down => ["d"]
  | downLeft => ["dl", "ld"]
  | left => ["l"]
  | upLeft => ["ul", "lu"]
  | centered => ["center", "c"]

def ofName? (text : String) : Option Direction :=
  all.find? fun direction => Text.lower text ∈ direction.name :: direction.aliases

theorem ofName?_name (direction : Direction) : ofName? direction.name = some direction := by
  cases direction <;> decide

/-- The direction with the given signs, where a vertical offset below zero points up. -/
def ofSigns : (horizontal vertical : Ordering) → Direction
  | .eq, .lt => up
  | .gt, .lt => upRight
  | .gt, .eq => right
  | .gt, .gt => downRight
  | .eq, .gt => down
  | .lt, .gt => downLeft
  | .lt, .eq => left
  | .lt, .lt => upLeft
  | .eq, .eq => centered

end Direction

end Gamepad
