import InputChain.CommandLine.Flags
import InputChain.CommandLine.InputArgs
import InputChain.Cursor.Lines

/-!
# The first lines of every input

A command that prints the first lines of each of its inputs, under a header with the input's
identifier. An input without any line has no header. The rest of an input is skipped.

* `heads`: the text that is printed, and the failure that ends it.
* `HeadsFault`: what can go wrong, with its text.
* `Heads.run`: a run of the command.
-/

namespace InputChain

namespace Cursor

variable {σ : Type} [Behaviour σ]

theorem supply_skip (cursor : Cursor σ) : cursor.skip.supply ≤ cursor.supply := by
  unfold skip
  split
  · rename_i id held reader h
    have := supply_close cursor id ⟨held, reader, cursor.world.input⟩
    simpa [withInlet, ← h] using this
  · exact Nat.le_refl _

theorem supply_readLineBytes {cursor next : Cursor Script} {line : Bytes}
    (h : cursor.readLineBytes = (.ok (some line), next)) : next.supply < cursor.supply := by
  have hunit := supply_readUnit_lt (Inlet.supply_readUntil newline) cursor
  unfold readLineBytes Delivery.orFault at h
  generalize cursor.readUnit (Inlet.readUntil newline) = delivery at h hunit
  obtain ⟨got, _ | fault, after⟩ := delivery
  · simp only [List.isEmpty_iff] at h
    split at h
    · simp at h
    · rename_i hgot
      cases h
      exact hunit hgot
  · simp at h

/-- Skips the rest of the open source once it has given as many lines as it may. -/
def skipAt (limit printed : Nat) (cursor : Cursor σ) : Cursor σ :=
  if limit ≤ printed then cursor.skip else cursor

theorem supply_skipAt (limit printed : Nat) (cursor : Cursor σ) :
    (cursor.skipAt limit printed).supply ≤ cursor.supply := by
  unfold skipAt
  split
  · exact cursor.supply_skip
  · exact Nat.le_refl _

end Cursor

/-- The header of an input. -/
def header (id : String) : Bytes :=
  Utf8.encode s!"==> {id} <==\n"

/-- The number of lines printed of a source after one more, which may be its first. -/
def countPrinted (isFirst : Bool) (printed : Nat) : Nat :=
  if isFirst then 1 else printed + 1

/-- The text printed for what is left in a stream, and the failure that ends it. Of the source at the
index `current`, `printed` lines have been printed; no input has more than `limit` printed. -/
def heads (limit : Nat) (current : Option Nat) (printed : Nat) (cursor : Cursor Script) :
    Bytes × Option SourceError :=
  match h : cursor.readLineBytes with
  | (.error error, _) => ([], some error)
  | (.ok none, _) => ([], none)
  | (.ok (some line), after) =>
    let isFirst := after.sourceIndex? != current
    let above := if isFirst then (after.currentId?.map header).getD [] else []
    let count := countPrinted isFirst printed
    have : (after.skipAt limit count).supply < cursor.supply :=
      Nat.lt_of_le_of_lt (after.supply_skipAt limit count) (Cursor.supply_readLineBytes h)
    let (rest, fault) := heads limit after.sourceIndex? count (after.skipAt limit count)
    (above ++ line ++ rest, fault)
  termination_by cursor.supply

namespace Heads

/-- What is wrong with a number of lines. -/
inductive LimitDefect where
  | empty
  | notDigits
  | tooLarge
  deriving DecidableEq, Repr

/-- The text of a defect. -/
def LimitDefect.text : LimitDefect → String
  | .empty => "cannot parse integer from empty string"
  | .notDigits => "invalid digit found in string"
  | .tooLarge => "number too large to fit in target type"

/-- The greatest number of lines. -/
def maxLimit : Nat := Nat.pow 2 64 - 1

/-- The number that some decimal digits stand for, after the number in front of them. A digit that is
none counts before a number that is too large, unless the number is too large in front of it. -/
def digitsFrom (value : Nat) : List Char → Except LimitDefect Nat
  | [] => .ok value
  | c :: rest =>
    if ¬ c.isDigit then .error .notDigits
    else
      let value := value * 10 + (c.toNat - '0'.toNat)
      if maxLimit < value then .error .tooLarge else digitsFrom value rest

/-- Reads a number of lines: digits, with a plus sign in front or none. -/
def parseLimit (raw : String) : Except LimitDefect Nat :=
  match raw.toList with
  | [] => .error .empty
  | ['+'] => .error .notDigits
  | '+' :: digits => digitsFrom 0 digits
  | digits => digitsFrom 0 digits

/-- What can go wrong with a run. -/
inductive Fault where
  | flags (fault : FlagFault)
  | limit (raw : String) (defect : LimitDefect)
  | inputs (errors : AggregateError)
  | source (error : SourceError)
  deriving DecidableEq, Repr

/-- The text of a fault. -/
def Fault.text : Fault → String
  | .flags fault => fault.text
  | .limit raw defect => s!"invalid --lines '{raw}': {defect.text}"
  | .inputs errors => errors.message
  | .source error => error.message

/-- The number of lines unless another is asked for. -/
def defaultLimit : Nat := 10

/-- How to call the command. -/
def usage : String :=
  "Usage:\n" ++
  "  catstream_heads [--lines <n>] [--input <token> ...]\n" ++
  "\n" ++
  s!"Prints the first <n> lines (default {defaultLimit}) of every input.\n" ++
  "\n" ++
  "Input tokens:\n" ++
  "  - | stdin          Read from stdin\n" ++
  "  <path>             Read a file\n" ++
  "With no --input, stdin is read.\n"

/-- The flag that names inputs. -/
def inputFlag : Flag := ⟨'i', "input", true⟩

/-- The flag that gives the number of lines. -/
def linesFlag : Flag := ⟨'n', "lines", false⟩

/-- What a run is asked to do. -/
structure Request where
  inputs : InputArgs
  limit : Nat
  deriving DecidableEq, Repr

/-- Reads a command line, without the name of the command. -/
def Request.ofWords (words : List String) : Except Fault Request :=
  match Flag.occurrences [inputFlag, linesFlag] words with
  | .error fault => .error (.flags fault)
  | .ok found =>
    let inputs := ((inputFlag.value? found).map InputArgs.ofValue?).getD {}
    match (linesFlag.value? found).join with
    | none => .ok ⟨inputs, defaultLimit⟩
    | some raw =>
      match parseLimit raw with
      | .error defect => .error (.limit raw defect)
      | .ok limit => .ok ⟨inputs, limit⟩

/-- What a run leaves behind. -/
structure Outcome where
  code : UInt32
  output : Bytes
  errors : String
  deriving DecidableEq, Repr

/-- The text printed for a request, and what ends it early. -/
def answer (world : World) (request : Request) : Bytes × Option Fault :=
  if request.limit = 0 then ([], none)
  else
    match (((Builder.empty : Builder Script).setPolicy .failFast).addArgs request.inputs).build with
    | .error errors => ([], some (.inputs errors))
    | .ok sources =>
      let (output, fault) := heads request.limit none 0 (Cursor.ofList world sources)
      (output, fault.map .source)

/-- A run of the command. -/
def run (world : World) (words : List String) : Outcome :=
  let (output, fault) :=
    match Request.ofWords words with
    | .error fault => ([], some fault)
    | .ok request => answer world request
  match fault with
  | none => ⟨0, output, ""⟩
  | some fault => ⟨1, output, s!"catstream_heads error: {fault.text}\n" ++ usage⟩

end Heads

end InputChain
