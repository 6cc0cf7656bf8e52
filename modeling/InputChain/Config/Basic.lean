/-!
# Descriptions of inputs

A program can be told its inputs by a configuration document: which they are, in order, and what to
do if some of them cannot be used.

* `InputConfig`, with `InputConfig.stdin`, `InputConfig.file` and `InputConfig.inline`.
* `StreamConfig`.
-/

namespace InputChain

/-- The description of one input. -/
structure InputConfig where
  id : String
  /-- What sort of input it is, by name. -/
  kind : String
  /-- The path of a file. -/
  path : Option String := none
  /-- The text of an inline input. -/
  content : Option String := none
  deriving DecidableEq, Repr

namespace InputConfig

/-- Standard input, reported under this identifier. -/
def stdin (id : String) : InputConfig :=
  { id, kind := "stdin" }

/-- A file. -/
def file (id path : String) : InputConfig :=
  { id, kind := "file", path := some path }

/-- A text. -/
def inline (id content : String) : InputConfig :=
  { id, kind := "inline", content := some content }

end InputConfig

/-- The description of a whole list of inputs. -/
structure StreamConfig where
  inputs : List InputConfig := []
  /-- What to do about inputs that cannot be used, by name. -/
  errorPolicy : Option String := none
  deriving DecidableEq, Repr

end InputChain
