/-!
How deep the parts of a pattern lie in each other. Single characters are flat; what holds parts is
one level higher than the highest of them.
-/
namespace SpaceGateway.Log.Pattern

/-- The height of parts side by side. One part alone is as high as it is, and none is flat. -/
def heightOf : List Nat → Nat
  | [] => 0
  | [h] => h
  | hs => hs.foldl max 0 + 1

/-- A part of a sequence. -/
structure Item where
  height : Nat := 0
  /-- Whether it can be repeated. -/
  repeatable : Bool := true

/-- A group as far as it was read: alternatives, and each of them a sequence. -/
structure Choice where
  /-- The heights of the alternatives before the last. -/
  finished : List Nat := []
  /-- The last alternative, its last item first. -/
  items : List Item := []

namespace Choice

def sequenceHeight (c : Choice) : Nat := heightOf (c.items.map Item.height)

def height (c : Choice) : Nat := heightOf (c.sequenceHeight :: c.finished)

def push (c : Choice) (x : Item) : Choice := { c with items := x :: c.items }

/-- Begins another alternative. -/
def split (c : Choice) : Choice := { finished := c.sequenceHeight :: c.finished }

/-- Repeats the last item, if there is one that can be repeated. -/
def repeated? (c : Choice) : Option Choice :=
  match c.items with
  | x :: items =>
    if x.repeatable then some { c with items := { height := x.height + 1 } :: items } else none
  | [] => none

end Choice

/-- A square bracket as far as it was read: members, after an operator or none. -/
structure Members where
  /-- The height of what stands before the last operator. -/
  left : Option Nat := none
  /-- The heights of the members after it. -/
  members : List Nat := []

namespace Members

def setHeight (m : Members) : Nat :=
  match m.left with
  | none => heightOf m.members
  | some left => max left (heightOf m.members) + 1

def height (m : Members) : Nat := m.setHeight + 1

def push (m : Members) (height : Nat) : Members := { m with members := height :: m.members }

/-- Begins what stands after an operator. -/
def operate (m : Members) : Members := { left := some m.setHeight }

end Members
end SpaceGateway.Log.Pattern
