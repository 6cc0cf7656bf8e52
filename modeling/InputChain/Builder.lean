import InputChain.Config.Basic
import InputChain.Cursor.Basic
import InputChain.Fault.Policy

/-!
# Building a list of sources

Inputs are asked for in three ways: by a raw argument, by a description, or as a source that is ready
to use. A builder collects them in order. Building makes a source of each; what cannot be used is
reported, the first such input or all of them.

* `resolveArgument`, `resolveConfig`: the source of an argument or a description.
* `Pending`, `Builder`: what has been asked for.
* `Builder.build`: the list of sources, or the reports.
-/

namespace InputChain

variable {σ : Type}

/-- The source of a raw argument: standard input or a file. -/
def resolveArgument (raw : String) : Except SourceError (Source σ) :=
  if raw = "" then .error (.ofDefect raw .emptyArgument)
  else if raw = standardInputId then .ok ⟨raw, .standardInput⟩
  else .ok ⟨raw, .file raw⟩

/-- The source of a description. -/
def resolveConfig (config : InputConfig) : Except SourceError (Source σ) :=
  if config.kind = "stdin" ∨ config.kind = standardInputId then
    .ok ⟨config.id, .standardInput⟩
  else if config.kind = "file" then
    match config.path with
    | none => .error (.ofDefect config.id .missingPath)
    | some path =>
      if path = "" then .error (.ofDefect config.id .missingPath)
      else .ok ⟨config.id, .file path⟩
  else if config.kind = "inline" then
    match config.content with
    | none => .error (.ofDefect config.id .missingContent)
    | some content => .ok (Source.inline config.id content)
  else .error (.ofDefect config.id (.unknownKind config.kind))

/-- An input that has been asked for. -/
inductive Pending (σ : Type) where
  | argument (raw : String)
  | described (config : InputConfig)
  | ready (source : Source σ)

namespace Pending

/-- Whether an input was asked for by a raw argument. -/
def isArgument : Pending σ → Bool
  | .argument _ => true
  | _ => false

/-- The source of an input. -/
def resolve : Pending σ → Except SourceError (Source σ)
  | .argument raw => resolveArgument raw
  | .described config => resolveConfig config
  | .ready source => .ok source

end Pending

/-- Makes a source of each input in order. By the policy, the first input that cannot be used ends
the attempt, or all of them are reported. -/
def resolveAll (policy : Policy) (inputs : List (Pending σ)) :
    Except AggregateError (List (Source σ)) :=
  go [] [] inputs
where
  /-- Goes on with the sources and the reports found so far, each in reverse. -/
  go (sources : List (Source σ)) (errors : List SourceError) :
      List (Pending σ) → Except AggregateError (List (Source σ))
    | [] => if errors.isEmpty then .ok sources.reverse else .error ⟨errors.reverse⟩
    | input :: rest =>
      match input.resolve with
      | .ok source => go (source :: sources) errors rest
      | .error error =>
        match policy with
        | .failFast => .error ⟨(error :: errors).reverse⟩
        | .accumulate => go sources (error :: errors) rest

/-- What has been asked for, and what to do if some of it cannot be used. -/
structure Builder (σ : Type) where
  inputs : List (Pending σ) := []
  policy : Policy := .standard

namespace Builder

/-- Nothing has been asked for yet. -/
def empty : Builder σ := {}

/-- Adds an input. -/
def add (input : Pending σ) (builder : Builder σ) : Builder σ :=
  { builder with inputs := builder.inputs ++ [input] }

/-- Adds a raw argument. -/
def addArgument (raw : String) (builder : Builder σ) : Builder σ :=
  builder.add (.argument raw)

/-- Puts these raw arguments at the end, in place of all earlier ones. -/
def setArguments (raws : List String) (builder : Builder σ) : Builder σ :=
  { builder with
    inputs := builder.inputs.filter (!·.isArgument) ++ raws.map Pending.argument }

/-- Adds a described input. -/
def addConfig (config : InputConfig) (builder : Builder σ) : Builder σ :=
  builder.add (.described config)

/-- Adds a source that is ready. -/
def addSource (source : Source σ) (builder : Builder σ) : Builder σ :=
  builder.add (.ready source)

/-- Sets what to do about inputs that cannot be used. -/
def setPolicy (policy : Policy) (builder : Builder σ) : Builder σ :=
  { builder with policy }

/-- The builder of a description. A policy without a known name counts as none. -/
def ofConfig (config : StreamConfig) : Builder σ where
  inputs := config.inputs.map .described
  policy := (config.errorPolicy.bind Policy.ofName?).getD .standard

/-- The list of sources, or what is wrong with the inputs. -/
def build (builder : Builder σ) : Except AggregateError (SourceList σ) :=
  (resolveAll builder.policy builder.inputs).map SourceList.ofList

end Builder

end InputChain
