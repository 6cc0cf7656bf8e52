import InputChain.Config.Yaml.Place

/-!
# Folded lines

A text that goes over several lines is folded: a single end of a line in it is a space, of several
the first is left out, and the blanks around them do not count.

* `Yaml.Gap`, `Yaml.Gap.fold`: what stands between two words of a text, and what it comes to.
* `Yaml.gapFrom`: takes it.
-/

namespace InputChain.Yaml

/-- What stands between two words of a text. -/
structure Gap where
  /-- The blanks in front of the first end of a line. -/
  blanks : List Char := []
  /-- Whether there is the end of a line. -/
  isBroken : Bool := false
  /-- The first end of a line, unless it has been taken away. -/
  first : List Char := []
  /-- The other ends of lines. -/
  others : List Char := []

/-- What a gap comes to. -/
def Gap.fold (gap : Gap) : List Char :=
  if ¬ gap.isBroken then gap.blanks
  else if gap.first = ['\n'] then if gap.others = [] then [' '] else gap.others
  else gap.first ++ gap.others

/-- Takes the rest of a gap. In front of the column `least` no line may be indented by a tab. -/
def gapFrom (least : Nat) : (fuel : Nat) → Gap → Reading Gap
  | 0, gap => return gap
  | fuel + 1, gap => do
    match ← peek with
    | none => return gap
    | some c =>
      if isBlank c then
        if gap.isBroken ∧ c = '\t' ∧ (← get).column < least then throw .malformed
        advance
        gapFrom least fuel (if gap.isBroken then gap else { gap with blanks := gap.blanks ++ [c] })
      else if isBreak c then
        let taken ← takeBreak
        gapFrom least fuel
          (if gap.isBroken then { gap with others := gap.others ++ taken }
            else { gap with isBroken := true, first := taken })
      else return gap

end InputChain.Yaml
