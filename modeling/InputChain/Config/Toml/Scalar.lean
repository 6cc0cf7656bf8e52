import InputChain.Text.Hex

/-!
# Words of a TOML document that are values

A value that is neither a text nor made of other values is a single word: a truth value, a whole or a
broken number, or a moment. A moment may have a space between its day and its time.

* `Toml.Scalar`, `Toml.Scalar.ofWord?`: what a word stands for, if it is a value.
* `Toml.Scalar.isInRange`: whether a number is in the range of the numbers that can be kept.
-/

namespace InputChain.Toml

/-- What a word stands for. -/
inductive Scalar where
  | truth (value : Bool)
  | whole (value : Int)
  /-- A number of the magnitude `digits * 10 ^ exponent`. -/
  | broken (digits : Nat) (exponent : Int)
  /-- An infinity, or what is no number. -/
  | limit
  | moment
  deriving DecidableEq, Repr

namespace Scalar

/-! ## Numbers -/

/-- Digits without the marks that may stand between two of them. There must be a digit. -/
def unmarked? (isDigit : Char → Bool) : List Char → Option (List Char)
  | [] => none
  | [c] => if isDigit c then some [c] else none
  | c :: '_' :: rest => if isDigit c then (unmarked? isDigit rest).map (c :: ·) else none
  | c :: rest => if isDigit c then (unmarked? isDigit rest).map (c :: ·) else none

/-- The number of some digits, to a base of at most sixteen. -/
def number (base : Nat) (digits : List Char) : Nat :=
  digits.foldl (fun value c => value * base + (hexDigit? c).getD 0) 0

/-- Whether a character is a digit to a base. -/
def isDigitTo (base : Nat) (c : Char) : Bool :=
  (hexDigit? c).any (· < base)

/-- The digits of a number before its point: no zero stands in front of another digit. -/
def wholeDigits? (chars : List Char) : Option (List Char) :=
  match unmarked? Char.isDigit chars with
  | some ('0' :: _ :: _) => none
  | found => found

/-- A sign and what is behind it. -/
def signed : List Char → Bool × List Char
  | '-' :: rest => (true, rest)
  | '+' :: rest => (false, rest)
  | chars => (false, chars)

/-- A whole number. With a letter for its base it has no sign. -/
def whole? : List Char → Option Scalar
  | '0' :: 'x' :: digits => ofBase 16 digits
  | '0' :: 'o' :: digits => ofBase 8 digits
  | '0' :: 'b' :: digits => ofBase 2 digits
  | chars =>
    let (isNegative, magnitude) := signed chars
    (wholeDigits? magnitude).map fun digits =>
      let value : Int := number 10 digits
      .whole (if isNegative then -value else value)
where
  /-- A whole number to a base. -/
  ofBase (base : Nat) (digits : List Char) : Option Scalar :=
    (unmarked? (isDigitTo base) digits).map fun digits => .whole (number base digits)

/-- The exponent of a number behind its letter. -/
def exponent? (chars : List Char) : Option Int :=
  let (isNegative, magnitude) := signed chars
  (unmarked? Char.isDigit magnitude).map fun digits =>
    let value : Int := number 10 digits
    if isNegative then -value else value

/-- A number with a point, with an exponent, or with both. -/
def broken? (chars : List Char) : Option Scalar := do
  let (_, magnitude) := signed chars
  let isLetter (c : Char) : Bool := c == 'e' || c == 'E'
  let front := magnitude.takeWhile (!isLetter ·)
  let exponent ←
    match magnitude.dropWhile (!isLetter ·) with
    | [] => if '.' ∈ front then some 0 else none
    | _ :: rest => exponent? rest
  let whole ← wholeDigits? (front.takeWhile (· != '.'))
  let fraction ←
    match front.dropWhile (· != '.') with
    | [] => some []
    | _ :: rest => unmarked? Char.isDigit rest
  return .broken (number 10 (whole ++ fraction)) (exponent - fraction.length)

/-- An infinity, or what is no number. -/
def limit? (chars : List Char) : Option Scalar :=
  let magnitude := (signed chars).2
  if magnitude = ['i', 'n', 'f'] ∨ magnitude = ['n', 'a', 'n'] then some .limit else none

/-! ## Moments -/

/-- The number of a given count of digits, and what is behind them. -/
def counted? (count : Nat) (chars : List Char) : Option (Nat × List Char) :=
  let digits := chars.take count
  if digits.length = count ∧ digits.all Char.isDigit then
    some (number 10 digits, chars.drop count)
  else none

/-- The days of a month. -/
def daysOf (year month : Nat) : Nat :=
  if month = 2 then
    if year % 4 = 0 ∧ (year % 100 ≠ 0 ∨ year % 400 = 0) then 29 else 28
  else if month ∈ [4, 6, 9, 11] then 30
  else 31

/-- A day of the calendar, and what is behind it. -/
def day? (chars : List Char) : Option (List Char) := do
  let (year, rest) ← counted? 4 chars
  let rest ← mark? '-' rest
  let (month, rest) ← counted? 2 rest
  let rest ← mark? '-' rest
  let (day, rest) ← counted? 2 rest
  if 1 ≤ month ∧ month ≤ 12 ∧ 1 ≤ day ∧ day ≤ daysOf year month then some rest else none
where
  /-- A mark, and what is behind it. -/
  mark? (mark : Char) : List Char → Option (List Char)
    | c :: rest => if c = mark then some rest else none
    | [] => none

/-- An hour and a minute, and what is behind them. -/
def clock? (chars : List Char) : Option (List Char) := do
  let (hour, rest) ← counted? 2 chars
  match rest with
  | ':' :: rest =>
    let (minute, rest) ← counted? 2 rest
    if hour ≤ 23 ∧ minute ≤ 59 then some rest else none
  | _ => none

/-- A time, whose seconds and their fraction may be left out, and what is behind it. -/
def time? (chars : List Char) : Option (List Char) := do
  match ← clock? chars with
  | ':' :: rest =>
    let (second, rest) ← counted? 2 rest
    if 60 < second then none
    else
      match rest with
      | '.' :: fraction =>
        if (fraction.takeWhile Char.isDigit).isEmpty then none
        else some (fraction.dropWhile Char.isDigit)
      | _ => some rest
  | rest => some rest

/-- Whether this is how far a moment is from universal time. -/
def isOffset : List Char → Bool
  | [] => true
  | ['Z'] => true
  | ['z'] => true
  | '+' :: rest => clock? rest == some []
  | '-' :: rest => clock? rest == some []
  | _ => false

/-- A moment: a day, a time, or a day and a time with or without an offset. -/
def moment? (chars : List Char) : Option Scalar :=
  match day? chars with
  | some [] => some .moment
  | some (c :: rest) =>
    if c = 'T' ∨ c = 't' ∨ c = ' ' then
      match time? rest with
      | some offset => if isOffset offset then some .moment else none
      | none => none
    else none
  | none => if time? chars == some [] then some .moment else none

/-- What a word stands for, if it is a value. -/
def ofWord? (chars : List Char) : Option Scalar :=
  if chars = ['t', 'r', 'u', 'e'] then some (.truth true)
  else if chars = ['f', 'a', 'l', 's', 'e'] then some (.truth false)
  else limit? chars <|> whole? chars <|> broken? chars <|> moment? chars

/-! ## The range of numbers -/

/-- The magnitude from which on a number with a binary fraction is rounded to an infinity. -/
def endOfRange : Nat := Nat.pow 2 1024 - Nat.pow 2 970

/-- Whether `digits * 10 ^ exponent` is in the range of the numbers of double precision. -/
def isFinite (digits : Nat) (exponent : Int) : Bool :=
  let places : Int := (Nat.toDigits 10 digits).length + exponent
  if digits = 0 ∨ places < 300 then true
  else if 310 < places then false
  else digits * Nat.pow 10 exponent.toNat < endOfRange * Nat.pow 10 (-exponent).toNat

/-- Whether a number is in the range of the numbers that can be kept: whole numbers of 128 binary
digits, with or without a sign, and the numbers of double precision. -/
def isInRange : Scalar → Bool
  | .whole value => -Int.ofNat (Nat.pow 2 127) ≤ value && value < Int.ofNat (Nat.pow 2 128)
  | .broken digits exponent => isFinite digits exponent
  | _ => true

end Scalar

end InputChain.Toml
