import InputChain.Fault.Source

/-!
# Diagnostics

What a person is shown of a failure: what happened to which source, what can be done about it, and
the text of the failure underneath.

* `Diagnostic.ofError`: the diagnostic of one report.
* `Diagnostic.ofAggregate`: the diagnostic of several, which is that of the first.
-/

namespace InputChain

/-- What a person is shown of a failure. -/
structure Diagnostic where
  message : String
  help : Option String
  /-- The text of the failure underneath. -/
  cause : Option String
  deriving DecidableEq, Repr

/-- What can be done about a failure of this stage. -/
def Stage.help : Stage → String
  | .resolve => "Check the input arguments; use '-' for stdin"
  | .opening => "Check that the file exists and is readable"
  | .reading => "The source failed while it was being read"

namespace Diagnostic

/-- The diagnostic of one report. -/
def ofError (error : SourceError) : Diagnostic where
  message := s!"[{error.stage.text}] on '{error.target}'"
  help := some error.stage.help
  cause := some error.cause.text

/-- The diagnostic of several reports is that of the first. -/
def ofAggregate (aggregate : AggregateError) : Diagnostic :=
  match aggregate.errors with
  | error :: _ => ofError error
  | [] => ⟨"Unknown catstream error", none, none⟩

end Diagnostic

end InputChain
