import InputChain.Text.Pieces

/-!
# Flags of a command line

A flag has a letter and a name, and takes a value: `-f value`, `--flag value` or `--flag=value`. The
word after a flag is its value whatever it looks like; a flag that is the last word has none. Letters
can stand together behind one dash, but only one of them can take the value. Other words are
ignored.

* `Flag`, `FlagFault`.
* `Flag.occurrences`: the flags of a command line with their values, in order.
* `Flag.value?`: what all occurrences of a flag come to.
-/

namespace InputChain

/-- A flag. -/
structure Flag where
  letter : Char
  name : String
  /-- Whether the values of several occurrences are joined by commas; else the last counts. -/
  joins : Bool
  deriving DecidableEq, Repr

/-- What can be wrong with a command line. -/
inductive FlagFault where
  /-- There is no such flag. -/
  | unknown (flag : String)
  /-- Several letters behind one dash take the value. -/
  | contested (letters : String)
  deriving DecidableEq, Repr

/-- The wording of a fault. -/
def FlagFault.text : FlagFault → String
  | .unknown flag => "Unknown flag: \x60" ++ flag ++ "\x60"
  | .contested letters =>
    "Multiple arguments in \x60" ++ letters ++ "\x60 tried to consume the same value"

namespace Flag

/-- An occurrence of a flag, with its value. -/
abbrev Occurrence := Flag × Option String

/-- The flag of the letters behind one dash, if there are any. -/
def ofLetters (flags : List Flag) (letters : List Char) : Except FlagFault (Option Flag) :=
  go none letters
where
  /-- Goes on with the flag found so far. -/
  go (found : Option Flag) : List Char → Except FlagFault (Option Flag)
    | [] => .ok found
    | c :: rest =>
      match flags.find? (·.letter == c) with
      | none => .error (.unknown (String.singleton c))
      | some flag =>
        if found.isSome then .error (.contested (String.ofList letters)) else go (some flag) rest

/-- A name and the value behind its first equals sign. -/
def splitValue (word : List Char) : List Char × Option String :=
  match word.dropWhile (· != '=') with
  | [] => (word, none)
  | _ :: value => (word.takeWhile (· != '='), some (String.ofList value))

/-- The flag that a word names, if it is no other word, and the value it gives in the same word. -/
def ofWord (flags : List Flag) (word : String) : Except FlagFault (Option Occurrence) :=
  match word.toList with
  | '-' :: '-' :: long =>
    let (name, value) := splitValue long
    match flags.find? (·.name.toList == name) with
    | none => .error (.unknown (String.ofList name))
    | some flag => .ok (some (flag, value))
  | '-' :: letters => (ofLetters flags letters).map fun found => found.map fun flag => (flag, none)
  | _ => .ok none

/-- The flags of a command line with their values, in order. -/
def occurrences (flags : List Flag) : List String → Except FlagFault (List Occurrence)
  | [] => .ok []
  | word :: rest =>
    match ofWord flags word with
    | .error fault => .error fault
    | .ok none => occurrences flags rest
    | .ok (some (flag, some value)) => (occurrences flags rest).map ((flag, some value) :: ·)
    | .ok (some (flag, none)) =>
      match rest with
      | [] => .ok [(flag, none)]
      | value :: rest => (occurrences flags rest).map ((flag, some value) :: ·)

/-- What all occurrences of a flag come to: none if it does not occur, no value if it has none. -/
def value? (flag : Flag) (found : List Occurrence) : Option (Option String) :=
  let values := (found.filter (·.1 == flag)).map Prod.snd
  if flag.joins then
    if values.isEmpty then none
    else
      let given := values.filterMap id
      some (if given.isEmpty then none else some (String.intercalate "," given))
  else values.getLast?

end Flag

end InputChain
