import InputChain.Config.Yaml.Fold

/-!
# Texts without quotes

A text without quotes ends where something else is marked: at a colon that ends a word, at a comment,
between brackets at a comma or a bracket, and where a line is less indented.

* `Yaml.plain`: takes such a text.
-/

namespace InputChain.Yaml

/-- The marks that end a text between brackets. -/
def flowMarks : List Char :=
  [',', '[', ']', '\x7b', '\x7d']

/-- Takes the characters up to a blank, the end of the line or a mark. Between brackets no colon may
stand right in front of another mark. -/
def plainWord (inFlow : Bool) : (fuel : Nat) → Reading (List Char)
  | 0 => return []
  | fuel + 1 => do
    let next ← peekAt 1
    match ← peek with
    | none => return []
    | some c =>
      if isBlank c || isBreak c then return []
      else if inFlow ∧ c = ':' ∧ next.any (fun mark => mark = '?' || mark ∈ flowMarks) then
        throw .malformed
      else if c = ':' ∧ endsWord next ∨ inFlow ∧ c ∈ flowMarks then return []
      else
        advance
        return c :: (← plainWord inFlow fuel)

/-- Takes what is left of a text behind a gap, and tells whether the gap behind it has the end of a
line. -/
def plainFrom (inFlow : Bool) (least : Nat) : (fuel : Nat) → Gap → Reading (List Char × Bool)
  | 0, behind => return ([], behind.isBroken)
  | fuel + 1, behind => do
    if (← isMarker) ∨ (← peek) = some '#' then return ([], behind.isBroken)
    let word ← plainWord inFlow fuel
    if word = [] then return ([], behind.isBroken)
    let text := behind.fold ++ word
    let next ← gapFrom least fuel {}
    if ¬ inFlow ∧ (next.isBroken ∨ next.blanks ≠ []) ∧ (← get).column < least then
      return (text, next.isBroken)
    let (rest, isBroken) ← plainFrom inFlow least fuel next
    return (text ++ rest, isBroken)

/-- Takes a text without quotes whose further lines begin at the column `least` or behind it, and
tells whether the end of its line has been taken too. -/
def plain (inFlow : Bool) (least : Nat) : Reading (String × Bool) := do
  let (text, isBroken) ← plainFrom inFlow least (← bound) {}
  return (String.ofList text, isBroken)

end InputChain.Yaml
