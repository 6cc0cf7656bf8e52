import InputChain.Decimal.Shortest

/-!
# The written form of a number

* `Layout`: where a written number has a point and where it has an exponent.
* `Layout.write`: the shortest decimal of a number in such a form.
-/

namespace InputChain

/-- Where a written number has a point and where it has an exponent. -/
structure Layout where
  /-- The most places in front of the point. -/
  mostPlaces : Int
  /-- The most zeros right behind the point. -/
  mostZeros : Int
  deriving DecidableEq, Repr

namespace Layout

/-- An exponent behind its letter, with its sign. -/
def exponentText (exponent : Int) : String :=
  (if 0 ≤ exponent then "e+" else "e") ++ toString exponent

/-- The digits of a decimal, laid out: with a point if its place is near the digits, else with one
digit in front of the point and an exponent. -/
def digits (layout : Layout) (decimal : Decimal) : String :=
  let digits := Nat.toDigits 10 decimal.digits
  let places := (digits.length : Int) + decimal.exponent
  if 0 ≤ decimal.exponent ∧ places ≤ layout.mostPlaces then
    String.ofList (digits ++ List.replicate decimal.exponent.toNat '0') ++ ".0"
  else if 0 < places ∧ places ≤ layout.mostPlaces then
    String.ofList (digits.take places.toNat) ++ "." ++ String.ofList (digits.drop places.toNat)
  else if -layout.mostZeros ≤ places ∧ places ≤ 0 then
    "0." ++ String.ofList (List.replicate (-places).toNat '0' ++ digits)
  else
    let exponent := exponentText (places - 1)
    match digits with
    | [digit] => String.singleton digit ++ exponent
    | digit :: rest => String.singleton digit ++ "." ++ String.ofList rest ++ exponent
    | [] => exponent

/-- The written form of a finite number. -/
def write (layout : Layout) (number : Float) : String :=
  let bits := number.toBits
  let sign := if bits.toNat / Nat.pow 2 63 = 1 then "-" else ""
  if bits.toNat % Nat.pow 2 63 = 0 then sign ++ "0.0"
  else sign ++ layout.digits (.ofBinary (.ofBits bits))

end Layout

end InputChain
