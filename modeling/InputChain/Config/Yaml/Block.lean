import InputChain.Config.Yaml.Place

/-!
# Texts as blocks of lines

A block of indented lines is a text, line by line or folded. Its indentation is that of its first line
unless it is given, and what becomes of the ends of its last lines can be chosen.

* `Yaml.block`: takes such a text.
-/

namespace InputChain.Yaml

/-- What becomes of the ends of lines behind the last line. -/
inductive Tail where
  /-- All are left out. -/
  | strip
  /-- The first is kept. -/
  | clip
  /-- All are kept. -/
  | keep
  deriving DecidableEq, Repr

/-- Takes the choice for the tail, if it is next. -/
def tail? : Reading (Option Tail) := do
  match ← peek with
  | some '+' =>
    advance
    return some .keep
  | some '-' =>
    advance
    return some .strip
  | _ => return none

/-- Takes the given indentation, if it is next. -/
def givenIndent? : Reading (Option Nat) := do
  match ← peek with
  | some c =>
    if c = '0' then throw .malformed
    else if c.isDigit then
      advance
      return some (c.toNat - '0'.toNat)
    else return none
  | none => return none

/-- Takes the head of a block: the choice for the tail and the given indentation, in either order. -/
def blockHead : Reading (Tail × Option Nat) := do
  match ← tail? with
  | some tail => return (tail, ← givenIndent?)
  | none =>
    let indent ← givenIndent?
    if indent.isSome then return ((← tail?).getD .clip, indent) else return (.clip, none)

/-- Passes over the indentation of a line, of at most `indent` if that is known. -/
def indentation (indent : Option Nat) : Reading Unit := do
  let place ← get
  let width := (place.rest.takeWhile (· == ' ')).length
  let width := match indent with
    | some indent => min width (indent - place.column)
    | none => width
  set (place.forward width)

/-- Takes the empty lines in front of a line, and the most indented column on the way. -/
def emptyLines (indent : Option Nat) : (fuel : Nat) → (widest : Nat) → Reading (Nat × List Char)
  | 0, widest => return (widest, [])
  | fuel + 1, widest => do
    indentation indent
    let column := (← get).column
    if indent.all (column < ·) ∧ (← peek) = some '\t' then throw .malformed
    match ← takeBreak with
    | [] => return (max widest column, [])
    | taken =>
      let (widest, rest) ← emptyLines indent fuel (max widest column)
      return (widest, taken ++ rest)

/-- Takes the lines of a block. `ending` is the end of the line before and `empty` are the empty lines
behind that; `wasSet` tells whether that line began with a blank. The ends of lines behind the last
line come beside the text. -/
def blockLines (folds : Bool) (indent : Nat) :
    (fuel : Nat) → (ending empty : List Char) → (wasSet : Bool) →
      Reading (List Char × List Char × List Char)
  | 0, ending, empty, _ => return ([], ending, empty)
  | fuel + 1, ending, empty, wasSet => do
    let next ← peek
    if (← get).column = indent ∧ next.isSome then
      let isSet := next.any isBlank
      let joint :=
        if folds ∧ ending = ['\n'] ∧ ¬ wasSet ∧ ¬ isSet then if empty = [] then [' '] else empty
        else ending ++ empty
      let line ← takeWhile (!isBreak ·)
      let ending ← takeBreak
      let (_, empty) ← emptyLines (some indent) fuel 0
      let (rest, ending, empty) ← blockLines folds indent fuel ending empty isSet
      return (joint ++ line ++ rest, ending, empty)
    else return ([], ending, empty)

/-- Takes a text at its mark. The innermost collection around it begins at the column `outer`, if
there is one. -/
def block (folds : Bool) (outer : Option Nat) : Reading String := do
  advance
  let (tail, given) ← blockHead
  endOfLine
  let given := given.map (outer.getD 0 + ·)
  let (widest, empty) ← emptyLines given (← bound) 0
  let indent := given.getD (max widest (max 1 ((outer.map (· + 1)).getD 0)))
  let (text, ending, empty) ← blockLines folds indent (← bound) [] empty false
  return String.ofList <| text ++
    match tail with
    | .strip => []
    | .clip => ending
    | .keep => ending ++ empty

end InputChain.Yaml
