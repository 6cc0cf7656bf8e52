import InputChain.Builder
import InputChain.Text.Blank
import InputChain.Text.Pieces

/-!
# Inputs named on a command line

A command line names its inputs by tokens: paths, or `-` for standard input, which can also be
written `stdin` in any mix of cases. One argument can hold several tokens with commas between them.

* `InputArgs`, `InputArgs.ofTokens`, `InputArgs.addInput`.
* `InputArgs.ofValue?`: the tokens of the value of an argument.
* `InputArgs.isStdin`, `InputArgs.paths`: whether standard input is among them, and the others.
-/

namespace InputChain

/-- A token with standard input written `-`. -/
def normalizeToken (token : String) : String :=
  if token = standardInputId ∨ token.toLower = "stdin" then standardInputId else token

/-- The inputs that a command line names. No inputs mean standard input. -/
structure InputArgs where
  inputs : List String := []
  deriving DecidableEq, Repr

namespace InputArgs

/-- The inputs of some tokens. -/
def ofTokens (tokens : List String) : InputArgs :=
  ⟨tokens.map normalizeToken⟩

/-- Adds a token. -/
def addInput (token : String) (args : InputArgs) : InputArgs :=
  ⟨args.inputs ++ [normalizeToken token]⟩

/-- The inputs of an argument's value: the tokens between its commas, without the blanks around
them; empty ones do not count. An argument without a value means standard input. -/
def ofValue? : Option String → InputArgs
  | none => ⟨[standardInputId]⟩
  | some value =>
    let tokens := ((pieces ',' value.toList).map trimBlanks).filter (!·.isEmpty)
    ofTokens (tokens.map String.ofList)

/-- Whether standard input is among the inputs. -/
def isStdin (args : InputArgs) : Bool :=
  args.inputs.isEmpty || args.inputs.contains standardInputId

/-- The paths among the inputs. -/
def paths (args : InputArgs) : List String :=
  args.inputs.filter (· != standardInputId)

end InputArgs

/-- Adds the inputs of a command line as raw arguments. -/
def Builder.addArgs {σ : Type} (args : InputArgs) (builder : Builder σ) : Builder σ :=
  args.inputs.foldl (fun builder raw => builder.addArgument raw) builder

end InputChain
