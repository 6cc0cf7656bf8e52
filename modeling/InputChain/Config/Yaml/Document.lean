import InputChain.Config.Basic
import InputChain.Config.Yaml.Node.OfTokens

/-!
# A description of inputs in YAML

A description is a mapping from the names of its fields. A field is a text, however it is written, and
an empty node can be a collection without anything in it. A node may stand for another one
everywhere, but what is passed over is not looked at.

* `Yaml.Decoding`: what is read from a document, while aliases are counted.
* `StreamConfig.ofYaml`.
-/

namespace InputChain

namespace Yaml

/-- Reads from a document, and counts how often a node has stood for another one. -/
abbrev Decoding := ReaderT Document (StateT Nat (Except Fault))

/-- How often a node may stand for another one, for each part of a document. -/
def mostAliases : Nat := 100

/-- The node that a node stands for. -/
def follow : Node → Decoding Node
  | .alias anchor => do
    let document ← read
    modify (· + 1)
    if mostAliases * document.weight < (← get) then throw .tooManyAliases
    match document.anchored? anchor with
    | some node => return node
    | none => throw .malformed
  | node => return node

/-- Whether a text means that there is no value. -/
def isNull (text : String) : Bool :=
  text == "null" || text == "Null" || text == "NULL" || text == "~"

/-- The tag of a value that is not there. -/
def nullTag : Bytes :=
  ownTags ++ asciiBytes "null"

/-- A text. -/
def textOf (node : Node) : Decoding String := do
  match ← follow node with
  | .scalar _ _ _ text => return text
  | _ => throw .mismatch

/-- A text or nothing. Only a text without quotes can mean that there is none. -/
def textOf? (node : Node) : Decoding (Option String) := do
  match ← follow node with
  | .scalar _ tag isPlain text =>
    if ¬ isPlain then return some text
    else
      match tag with
      | none => return if text = "" ∨ isNull text then none else some text
      | some tag =>
        if tag ≠ nullTag then return some text
        else if isNull text then return none
        else throw .mismatch
  | _ => throw .mismatch

/-- The items of a sequence. -/
def itemsOf (node : Node) : Decoding (List Node) := do
  match ← follow node with
  | .sequence _ items => return items
  | .scalar _ _ true "" => return []
  | _ => throw .mismatch

/-- The entries of a mapping. -/
def entriesOf (node : Node) : Decoding (List (Node × Node)) := do
  match ← follow node with
  | .mapping _ entries => return entries
  | .scalar _ _ true "" => return []
  | _ => throw .mismatch

/-- The entries of a mapping by the texts of their keys. -/
def fieldsOf (node : Node) : Decoding (List (String × Node)) := do
  (← entriesOf node).mapM fun (key, value) => return (← textOf key, value)

/-- The value of a field, if it is there. It may be there once. -/
def field? {α : Type} (fields : List (String × Node)) (name : String) (value : Node → Decoding α) :
    Decoding (Option α) := do
  match fields.filter (·.1 == name) with
  | [] => return none
  | [(_, node)] => return some (← value node)
  | _ => throw .mismatch

/-- The value of a field that must be there. -/
def field {α : Type} (fields : List (String × Node)) (name : String) (value : Node → Decoding α) :
    Decoding α := do
  match ← field? fields name value with
  | some found => return found
  | none => throw .mismatch

/-- The input that a node describes. -/
def inputOf (node : Node) : Decoding InputConfig := do
  let fields ← fieldsOf node
  return {
    id := ← field fields "id" textOf
    kind := ← field fields "kind" textOf
    path := (← field? fields "path" textOf?).join
    content := (← field? fields "content" textOf?).join }

/-- The inputs that a node describes. -/
def inputsOf (node : Node) : Decoding (List InputConfig) := do
  (← itemsOf node).mapM inputOf

/-- The stream that a node describes. -/
def streamOf (node : Node) : Decoding StreamConfig := do
  let fields ← fieldsOf node
  return {
    inputs := (← field? fields "inputs" inputsOf).getD []
    errorPolicy := (← field? fields "error_policy" textOf?).join }

end Yaml

/-- The description of a stream in YAML. A text without content describes a stream without inputs. -/
def StreamConfig.ofYaml (source : String) : Except Yaml.Fault StreamConfig := do
  let document ← Yaml.Document.ofText source
  match document.root with
  | none => return {}
  | some root => return (← (Yaml.streamOf root |>.run document).run 0).1

end InputChain
