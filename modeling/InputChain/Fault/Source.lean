import InputChain.Fault.Io

/-!
# Failures of a named source

A failure is reported with the source it happened to and with what was being done to that source. The
failure underneath may again be one of a source: as it is, or carried by a failure of input.

* `SourceError`, `SourceError.message`: the report and its one-line form.
* `SourceError.chain`: the texts from the report down to the first cause.
* `AggregateError`, `AggregateError.message`: the reports of everything wrong with a list of inputs.
-/

namespace InputChain

/-- What was being done to a source. -/
inductive Stage where
  /-- Making a source of a described input. -/
  | resolve
  /-- Opening it. -/
  | opening
  /-- Reading it. -/
  | reading
  deriving DecidableEq, Repr

/-- The name of a stage. -/
def Stage.text : Stage → String
  | .resolve => "ResolveInput"
  | .opening => "Open"
  | .reading => "Read"

/-- The failure underneath a report. -/
inductive Cause where
  /-- A failure of input. -/
  | io (error : IoError)
  /-- Some other failure, of which only the text is known. -/
  | plain (text : String)
  /-- A report of a source, as it is. -/
  | report (stage : Stage) (target : String) (cause : Cause)
  /-- A report of a source, carried by a failure of input. -/
  | carried (stage : Stage) (target : String) (cause : Cause)
  deriving DecidableEq, Repr

/-- A failure, where it happened and to which source. -/
structure SourceError where
  stage : Stage
  /-- The source's identifier. -/
  target : String
  cause : Cause
  deriving DecidableEq, Repr

/-- The one-line form of a report, from the text of its cause. -/
def reportLine (stage : Stage) (target text : String) : String :=
  s!"[{stage.text}] {target}: {text}"

/-- The text of a failure. -/
def Cause.text : Cause → String
  | .io error => error.text
  | .plain text => text
  | .report stage target cause => reportLine stage target cause.text
  | .carried stage target cause => reportLine stage target cause.text

/-- The kind of a failure of input. A carried report has the kind of the failure underneath. -/
def Cause.kind? : Cause → Option IoKind
  | .io error => some error.kind
  | .plain _ => none
  | .report _ _ _ => none
  | .carried _ _ cause => some (cause.kind?.getD .other)

/-- The texts of the failures from this one down to the first. -/
def Cause.chain : Cause → List String
  | .io error => [error.text]
  | .plain text => [text]
  | .report stage target cause => reportLine stage target cause.text :: cause.chain
  | .carried stage target cause => reportLine stage target cause.text :: cause.chain

namespace SourceError

/-- The one-line form. -/
def message (error : SourceError) : String :=
  reportLine error.stage error.target error.cause.text

/-- The kind of the failure underneath, if it is one of input. -/
def kind? (error : SourceError) : Option IoKind :=
  error.cause.kind?

/-- The kind that the report has as a failure of input. -/
def kind (error : SourceError) : IoKind :=
  error.kind?.getD .other

/-- The texts of the report and of every failure underneath. -/
def chain (error : SourceError) : List String :=
  error.message :: error.cause.chain

/-- Opening the source failed. -/
def ofOpening (target : String) (error : IoError) : SourceError :=
  ⟨.opening, target, .io error⟩

/-- Reading the source failed. -/
def ofReading (target : String) (error : IoError) : SourceError :=
  ⟨.reading, target, .io error⟩

/-- The described input cannot be used. -/
def ofDefect (target : String) (defect : InputDefect) : SourceError :=
  ⟨.resolve, target, .io (.unusable defect)⟩

/-- The report was interrupted and what was asked for may be asked for again. -/
def isInterrupted (error : SourceError) : Bool :=
  error.kind == .interrupted

end SourceError

/-- The reports of everything wrong with a list of inputs. -/
structure AggregateError where
  errors : List SourceError
  deriving DecidableEq, Repr

namespace AggregateError

/-- The numbered lines of some reports, the first with the number `first`. -/
def lines (first : Nat) : List SourceError → List String
  | [] => []
  | error :: rest => s!"  #{first}: {error.message}\n" :: lines (first + 1) rest

/-- A line with the number of reports, then the reports by number. -/
def message (aggregate : AggregateError) : String :=
  String.join
    (s!"catstream encountered {aggregate.errors.length} error(s):\n" :: lines 1 aggregate.errors)

/-- One report alone. -/
def single (error : SourceError) : AggregateError :=
  ⟨[error]⟩

end AggregateError

end InputChain
