/-!
# Reading a text from the front

* `Reading`: takes something off the front of a text, or fails.
* `Reading.peek`, `Reading.advance`, `Reading.takeWhile`, `Reading.accept`.
-/

namespace InputChain

/-- Takes something off the front of a text, whose rest is then left, or fails with a fault. -/
abbrev Reading (ε : Type) := StateT (List Char) (Except ε)

namespace Reading

variable {ε : Type}

/-- The next character, which stays. -/
def peek : Reading ε (Option Char) := do
  return (← get).head?

/-- Passes over a character. -/
def advance : Reading ε Unit :=
  modify (·.drop 1)

/-- Takes the characters in front that are of a class. -/
def takeWhile (isIn : Char → Bool) : Reading ε (List Char) := do
  let left ← get
  set (left.dropWhile isIn)
  return left.takeWhile isIn

/-- Passes over these characters if they stand in front, and tells whether they do. -/
def accept (expected : List Char) : Reading ε Bool := do
  let left ← get
  if expected.isPrefixOf left then
    set (left.drop expected.length)
    return true
  else return false

/-- A bound on how often something can be taken off the front. -/
def bound : Reading ε Nat := do
  return (← get).length + 1

end Reading

end InputChain
