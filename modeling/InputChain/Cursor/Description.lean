import InputChain.Cursor.Basic
import InputChain.Text.Quoted

/-!
# A cursor described in one line

* `Cursor.describe`: where a cursor stands, for someone who traces a program.
* `AsyncCursor.describe`: the same for a cursor whose readers can be not ready.
-/

namespace InputChain

/-- The name of a phase. -/
def Phase.text {σ : Type} : Phase σ → String
  | .idle => "NotStarted"
  | .active _ _ _ => "Active"
  | .exhausted => "Exhausted"

/-- An identifier that may be missing. -/
def quoteId? : Option String → String
  | none => "None"
  | some id => s!"Some({quote id})"

/-- A name with its fields in braces. -/
def describeFields (name : String) (fields : List (String × String)) : String :=
  name ++ " \x7b " ++ String.intercalate ", " (fields.map fun (field, value) => s!"{field}: {value}")
    ++ " \x7d"

/-- Where a cursor stands: its phase, its open source, how many sources it has opened and how many
there are, the lines it has read and whether a failure is held. -/
def Cursor.describe (cursor : Cursor Script) : String :=
  describeFields "StreamCursor"
    [("state", quote cursor.phase.text), ("current", quoteId? cursor.currentId?),
      ("position", toString cursor.sources.position), ("len", toString cursor.sources.size),
      ("lineno", toString cursor.lineno), ("pending", toString cursor.pending.isSome)]

/-- Where a cursor stands whose readers can be not ready. -/
def AsyncCursor.describe (cursor : Cursor PolledScript) : String :=
  describeFields "AsyncStreamCursor"
    [("current", quoteId? cursor.currentId?), ("position", toString cursor.sources.position),
      ("len", toString cursor.sources.size), ("lineno", toString cursor.lineno)]

end InputChain
