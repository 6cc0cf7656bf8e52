import InputChain.Config.Basic
import InputChain.Config.Json.Skip

/-!
# A description of inputs in JSON

A description is a map from the names of its fields, or a sequence of its fields in order. Fields of
other names are passed over, and no field may be there twice.

* `StreamConfig.ofJson`.
-/

namespace InputChain

namespace Json

open Reading (peek advance)

/-- What stands next is not what a description has there. -/
def mismatch {α : Type} (expected : Expected) : Reading α := do
  let found : Found ←
    match ← peek with
    | some 'n' => do advance; literal ['u', 'l', 'l']; pure .null
    | some 't' => do advance; literal ['r', 'u', 'e']; pure (.boolean true)
    | some 'f' => do advance; literal ['a', 'l', 's', 'e']; pure (.boolean false)
    | some '-' => do advance; number true
    | some '"' => do advance; pure (.text (← text))
    | some '[' => pure .sequence
    | some '{' => pure .map
    | some c => if c.isDigit then number false else throw .malformed
    | none => throw .ended
  throw (.mismatch (.invalidType found expected))

/-- A text. -/
def readText : Reading String := do
  match ← look with
  | none => throw .ended
  | some '"' => do advance; text
  | some _ => mismatch .text

/-- A text or nothing. -/
def readText? : Reading (Option String) := do
  match ← look with
  | some 'n' =>
    advance
    literal ['u', 'l', 'l']
    return none
  | _ => return some (← readText)

/-- The entries left in a map, each added by its key to what the entries in front of it made. -/
def entries {α : Type} (add : String → α → Reading α) : (fuel : Nat) → (isFirst : Bool) → α → Reading α
  | 0, _, _ => throw .ended
  | fuel + 1, isFirst, made => do
    match ← nextKey isFirst with
    | none => return made
    | some key => entries add fuel false (← add key made)

/-- The items left in a sequence. -/
def items {α : Type} (item : Reading α) : (fuel : Nat) → (isFirst : Bool) → Reading (List α)
  | 0, _ => throw .ended
  | fuel + 1, isFirst => do
    if ← nextItem isFirst then
      let first ← item
      return first :: (← items item fuel false)
    else return []

/-- The value of a field that may not be there already. -/
def fieldOnce {α : Type} (name : String) (earlier : Option α) (value : Reading α) :
    Reading (Option α) := do
  if earlier.isSome then throw (.mismatch (.duplicateField name))
  colon
  return some (← value)

/-- The fields of an input that have been read. -/
structure InputFields where
  id : Option String := none
  kind : Option String := none
  path : Option (Option String) := none
  content : Option (Option String) := none

/-- Adds a field of an input. -/
def addInputField (key : String) (made : InputFields) : Reading InputFields := do
  match key with
  | "id" => return { made with id := ← fieldOnce key made.id readText }
  | "kind" => return { made with kind := ← fieldOnce key made.kind readText }
  | "path" => return { made with path := ← fieldOnce key made.path readText? }
  | "content" => return { made with content := ← fieldOnce key made.content readText? }
  | _ =>
    colon
    skipValue
    return made

/-- The input that some fields describe. -/
def InputFields.toConfig (fields : InputFields) : Reading InputConfig :=
  match fields.id, fields.kind with
  | none, _ => throw (.mismatch (.missingField "id"))
  | _, none => throw (.mismatch (.missingField "kind"))
  | some id, some kind => return ⟨id, kind, fields.path.join, fields.content.join⟩

/-- The next item of a sequence, which must be there, after `index` others. -/
def requiredItem {α : Type} (index : Nat) (item : Reading α) : Reading α := do
  if ← nextItem (index == 0) then item else throw (.mismatch (.invalidLength index))

/-- The next item of a sequence, if it is there. -/
def optionalItem {α : Type} (isFirst : Bool) (item : Reading α) (otherwise : α) : Reading α := do
  if ← nextItem isFirst then item else return otherwise

/-- The description of an input. -/
def readInput : Reading InputConfig := do
  match ← look with
  | none => throw .ended
  | some '[' =>
    advance
    let id ← requiredItem 0 readText
    let kind ← requiredItem 1 readText
    let path ← optionalItem false readText? none
    let content ← optionalItem false readText? none
    endSequence
    return ⟨id, kind, path, content⟩
  | some '{' =>
    advance
    let fields ← entries addInputField ((← get).length + 1) true {}
    let config ← fields.toConfig
    endMap
    return config
  | some _ => mismatch .inputConfig

/-- The descriptions of some inputs. -/
def readInputs : Reading (List InputConfig) := do
  match ← look with
  | none => throw .ended
  | some '[' =>
    advance
    let inputs ← items readInput ((← get).length + 1) true
    endSequence
    return inputs
  | some _ => mismatch .sequence

/-- The fields of a stream that have been read. -/
structure StreamFields where
  inputs : Option (List InputConfig) := none
  errorPolicy : Option (Option String) := none

/-- Adds a field of a stream. -/
def addStreamField (key : String) (made : StreamFields) : Reading StreamFields := do
  match key with
  | "inputs" => return { made with inputs := ← fieldOnce key made.inputs readInputs }
  | "error_policy" =>
    return { made with errorPolicy := ← fieldOnce key made.errorPolicy readText? }
  | _ =>
    colon
    skipValue
    return made

/-- The description of a stream. -/
def readStream : Reading StreamConfig := do
  match ← look with
  | none => throw .ended
  | some '[' =>
    advance
    let inputs ← optionalItem true readInputs []
    let errorPolicy ← optionalItem false readText? none
    endSequence
    return ⟨inputs, errorPolicy⟩
  | some '{' =>
    advance
    let fields ← entries addStreamField ((← get).length + 1) true {}
    endMap
    return ⟨fields.inputs.getD [], fields.errorPolicy.join⟩
  | some _ => mismatch .streamConfig

/-- A description and nothing after it. -/
def document : Reading StreamConfig := do
  let config ← readStream
  if (← look).isSome then throw .malformed
  return config

end Json

/-- The description of a stream in JSON. -/
def StreamConfig.ofJson (source : String) : Except Json.Fault StreamConfig :=
  (Json.document.run source.toList).map Prod.fst

end InputChain
