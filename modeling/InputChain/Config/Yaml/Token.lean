import InputChain.Text.Utf8

/-!
# Tokens of a YAML document

A document is a sequence of tokens. Where its structure is shown by indentation, the beginnings and
ends of its collections are tokens too.

* `Yaml.Token`.
-/

namespace InputChain.Yaml

/-- A part of a document. -/
inductive Token where
  | version (major minor : Nat)
  /-- What a handle stands for in front of a tag. -/
  | handle (handle : String) (front : Bytes)
  | documentStart
  | documentEnd
  | blockSequenceStart
  | blockMappingStart
  | blockEnd
  | flowSequenceStart
  | flowSequenceEnd
  | flowMappingStart
  | flowMappingEnd
  | blockEntry
  | flowEntry
  | key
  | value
  | alias (name : String)
  | anchor (name : String)
  | tag (handle : String) (suffix : Bytes)
  | scalar (isPlain : Bool) (text : String)
  | streamEnd
  deriving DecidableEq, Repr

end InputChain.Yaml
