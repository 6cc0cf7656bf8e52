import InputChain.Decimal.Layout
import InputChain.Text.Quoted

/-!
# What can be wrong with a JSON document

A document that describes inputs can be malformed, can end too early, or can hold something other
than a description.

* `Json.Found`, `Json.Expected`, `Json.Mismatch`: a value that is no description, with its wording.
* `Json.Fault`.
-/

namespace InputChain.Json

/-- A value, as far as its sort goes. -/
inductive Found where
  | null
  | boolean (value : Bool)
  | integer (value : Int)
  | floating (value : Float)
  | text (value : String)
  | sequence
  | map

/-- Numbers have up to sixteen places in front of the point and up to four zeros behind it; others
have an exponent. -/
def numberLayout : Layout := ⟨16, 4⟩

/-- The wording of a value. -/
def Found.wording : Found → String
  | .null => "null"
  | .boolean value => s!"boolean \x60{value}\x60"
  | .integer value => s!"integer \x60{value}\x60"
  | .floating value => s!"floating point \x60{numberLayout.write value}\x60"
  | .text value => "string " ++ quote value
  | .sequence => "sequence"
  | .map => "map"

/-- What a description has at a place. -/
inductive Expected where
  | streamConfig
  | inputConfig
  | sequence
  | text
  deriving DecidableEq, Repr

/-- The wording of an expectation. -/
def Expected.wording : Expected → String
  | .streamConfig => "struct StreamConfig"
  | .inputConfig => "struct InputConfig"
  | .sequence => "a sequence"
  | .text => "a string"

/-- How a value fails to be a description. -/
inductive Mismatch where
  | invalidType (found : Found) (expected : Expected)
  | missingField (name : String)
  | duplicateField (name : String)
  /-- A description in the form of a sequence ends too early. -/
  | invalidLength (length : Nat)

/-- The wording of a mismatch. -/
def Mismatch.message : Mismatch → String
  | .invalidType found expected =>
    s!"invalid type: {found.wording}, expected {expected.wording}"
  | .missingField name => s!"missing field \x60{name}\x60"
  | .duplicateField name => s!"duplicate field \x60{name}\x60"
  | .invalidLength length =>
    s!"invalid length {length}, expected struct InputConfig with 4 elements"

/-- What can be wrong with a document. -/
inductive Fault where
  /-- The text is no JSON. -/
  | malformed
  /-- The text ends before the document does. -/
  | ended
  /-- The document is no description. -/
  | mismatch (mismatch : Mismatch)

end InputChain.Json
