/-!
The two halves of a pad, and values that come once for each half.
-/

namespace Gamepad

inductive Side
  | left
  | right
deriving DecidableEq, Repr

namespace Side

def all : List Side := [left, right]

def name : Side → String
  | left => "left"
  | right => "right"

/-- Names of sides are exact: neither case nor abbreviation is forgiven. -/
def ofName? (text : String) : Option Side :=
  all.find? fun side => side.name = text

theorem ofName?_name (side : Side) : ofName? side.name = some side := by
  cases side <;> decide

end Side

structure PerSide (α : Type) where
  left : α
  right : α
deriving DecidableEq, Repr

namespace PerSide

variable {α : Type}

def both (value : α) : PerSide α where
  left := value
  right := value

def get (pair : PerSide α) : Side → α
  | .left => pair.left
  | .right => pair.right

def set (pair : PerSide α) (side : Side) (value : α) : PerSide α :=
  match side with
  | .left => { pair with left := value }
  | .right => { pair with right := value }

theorem get_set (pair : PerSide α) (side other : Side) (value : α) :
    (pair.set side value).get other = if side = other then value else pair.get other := by
  cases side <;> cases other <;> rfl

def toList (pair : PerSide α) : List α := [pair.left, pair.right]

end PerSide

end Gamepad
