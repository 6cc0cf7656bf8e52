import InputChain.Config.Basic
import InputChain.Config.Toml.Text

/-!
# A description of inputs in TOML

A document is read line by line into a table, and the table is a description: of its entries those
with the names of fields count. Instead of a table for an input, a sequence of the fields in order
will do.

* `Toml.valueWithin`: a value of a bounded depth.
* `Toml.document`: a document as a table.
* `StreamConfig.ofToml`.
-/

namespace InputChain

namespace Toml

open InputChain.Reading (peek advance takeWhile accept bound)

/-! ## Values -/

/-- Whether a character may stand in a word. -/
def isOfWord (c : Char) : Bool :=
  c.isAlphanum || c == '_' || c == '-' || c == '+' || c == '.' || c == ':'

/-- Takes a word. A day and the time behind a space are one word. -/
def word : Reading (List Char) := do
  let first ← takeWhile isOfWord
  match ← get with
  | ' ' :: c :: _ =>
    if Scalar.day? first = some [] ∧ c.isDigit then
      advance
      return first ++ ' ' :: (← takeWhile isOfWord)
    else return first
  | _ => return first

/-- Takes a value that is not made of others. -/
def plainValue : Reading Value := do
  match ← text? with
  | some value => return .text value
  | none =>
    match Scalar.ofWord? (← word) with
    | some value => return .scalar value
    | none => throw .malformed

/-- Takes what is left of a sequence behind its bracket. A comma may stand behind the last item. -/
def items (item : Reading Value) : (fuel : Nat) → Reading (List Value)
  | 0 => throw .malformed
  | fuel + 1 => do
    gap
    if ← accept [']'] then return []
    let first ← item
    gap
    if ← accept [','] then return first :: (← items item fuel)
    else if ← accept [']'] then return [first]
    else throw .malformed

/-- Takes keys, an equals sign and a value. Around the sign there may be what `between` takes. -/
def entry (between : Reading Unit) (value : Reading Value) :
    Reading ((List String × String) × Value) := do
  let keys ← keyPath
  between
  if ¬ (← accept ['=']) then throw .malformed
  between
  return (keys, ← value)

/-- Takes what is left of a table behind its brace, and adds it to the entries before it. A comma may
stand behind the last entry. -/
def entries (value : Reading Value) : (fuel : Nat) → Entries → Reading Entries
  | 0, _ => throw .malformed
  | fuel + 1, earlier => do
    gap
    if ← accept ['\x7d'] then return earlier
    let ((path, key), value') ← entry gap value
    let earlier ← define path key value' .braces earlier
    gap
    if ← accept [','] then entries value fuel earlier
    else if ← accept ['\x7d'] then return earlier
    else throw .malformed

/-- Takes a value in which no more than `depth` values are in each other. -/
def valueWithin : (depth : Nat) → Reading Value
  | 0 => do
    match ← peek with
    | some '[' | some '\x7b' => throw .tooDeep
    | _ => plainValue
  | depth + 1 => do
    match ← peek with
    | some '[' =>
      advance
      return .sequence (← items (valueWithin depth) (← bound))
    | some '\x7b' =>
      advance
      return .table .braces (← entries (valueWithin depth) (← bound) [])
    | _ => plainValue

/-! ## Lines -/

/-- A document as far as it has been read. -/
structure Draft where
  entries : Entries := []
  /-- The keys of the last header. -/
  header : List String := []

/-- Takes a header behind its brackets, whose table is added. -/
def header (isElement : Bool) (draft : Draft) : Reading Draft := do
  let (path, key) ← keyPath
  if ¬ (← accept (if isElement then [']', ']'] else [']'])) then throw .malformed
  let entries ← (if isElement then openElement else openTable) path key draft.entries
  return ⟨entries, path ++ [key]⟩

/-- Takes the lines that are left. -/
def lines : (fuel : Nat) → Draft → Reading Entries
  | 0, _ => throw .malformed
  | fuel + 1, draft => do
    gap
    if (← peek).isNone then return draft.entries
    let draft ←
      if ← accept ['[', '['] then header true draft
      else if ← accept ['['] then header false draft
      else do
        let ((path, key), value) ← entry spaces (valueWithin mostDepth)
        pure { draft with entries :=
          ← changeAtHeader draft.header (define path key value) draft.entries }
    endOfLine
    lines fuel draft

/-- A document as a table. A mark of the byte order may stand in front of it. -/
def document : Reading Entries := do
  discard (accept ['\uFEFF'])
  lines (← bound) {}

/-! ## Descriptions -/

/-- A text. -/
def textOf : Value → Except Fault String
  | .text value => return value
  | _ => throw .mismatch

/-- A field that may be absent. -/
def optional (value : Option Value) : Except Fault (Option String) :=
  value.mapM textOf

/-- A field that may not be absent. -/
def required : Option Value → Except Fault String
  | some value => textOf value
  | none => throw .mismatch

/-- Passes over the entries that are no fields. Their numbers have to be in range. -/
def passOver (fields : List String) (entries : Entries) : Except Fault Unit :=
  if areEntriesInRange (entries.filter fun entry => !fields.contains entry.1) then return
  else throw .mismatch

/-- The input that the entries of a table describe. -/
def inputOfEntries (entries : Entries) : Except Fault InputConfig := do
  passOver ["id", "kind", "path", "content"] entries
  return {
    id := ← required (entries.get? "id")
    kind := ← required (entries.get? "kind")
    path := ← optional (entries.get? "path")
    content := ← optional (entries.get? "content") }

/-- The input that a value describes. -/
def inputOf : Value → Except Fault InputConfig
  | .table _ entries => inputOfEntries entries
  | .sequence items => do
    return {
      id := ← required items[0]?
      kind := ← required items[1]?
      path := ← optional items[2]?
      content := ← optional items[3]? }
  | _ => throw .mismatch

/-- The inputs that a value describes. -/
def inputsOf : Option Value → Except Fault (List InputConfig)
  | none => return []
  | some (.sequence items) => items.mapM inputOf
  | some (.elements tables) => tables.mapM inputOfEntries
  | some _ => throw .mismatch

end Toml

/-- The description of a stream in TOML. -/
def StreamConfig.ofToml (source : String) : Except Toml.Fault StreamConfig := do
  let (entries, _) ← Toml.document.run source.toList
  Toml.passOver ["inputs", "error_policy"] entries
  return {
    inputs := ← Toml.inputsOf (entries.get? "inputs")
    errorPolicy := ← Toml.optional (entries.get? "error_policy") }

end InputChain
