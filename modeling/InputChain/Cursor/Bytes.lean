import InputChain.Cursor.Unit

/-!
# Reading bytes of a cursor

Bytes are read without regard to where one source ends and the next begins. A read of several units
that meets a failure after some bytes gives the bytes and holds the failure back.

* `Cursor.read`: so many bytes, fewer only at the end of the stream or in front of a failure.
* `Cursor.readToEnd`: everything left.
* `Cursor.readByte`: one byte.
-/

namespace InputChain

namespace Cursor

/-- Units until there are `count` bytes, or no more to be had. -/
def gather (count : Nat) (cursor : Cursor Script) : Delivery Script :=
  if hcount : count = 0 then ⟨[], none, cursor⟩
  else
    let delivery := cursor.readUnit (Inlet.takeUpTo count)
    if hgot : delivery.got = [] then delivery
    else
      have : count - delivery.got.length < count := by
        have := List.length_pos_iff.2 hgot; omega
      (gather (count - delivery.got.length) delivery.next).after delivery.got
  termination_by count
  decreasing_by assumption

/-- At most `count` bytes; none at the end of the stream. A read of no bytes asks nothing of the
stream. -/
def read (count : Nat) (cursor : Cursor Script) : Except SourceError (Option Bytes) × Cursor Script :=
  if count = 0 then (.ok (some []), cursor)
  else
    let (result, cursor) := (cursor.gather count).holdBack
    (result.map fun got => if got.isEmpty then none else some got, cursor)

/-- Everything left of one source after another, up to a failure. -/
def gatherRest (cursor : Cursor Script) : Delivery Script :=
  let delivery := cursor.readUnit Inlet.readRest
  if delivery.fault.isSome then delivery
  else if hgot : delivery.got = [] then delivery
  else
    have : delivery.next.supply < cursor.supply := supply_readUnit_lt Inlet.supply_readRest _ hgot
    (gatherRest delivery.next).after delivery.got
  termination_by cursor.supply

/-- Everything left in the stream. -/
def readToEnd (cursor : Cursor Script) : Except SourceError Bytes × Cursor Script :=
  cursor.gatherRest.holdBack

/-- One byte; none at the end of the stream. -/
def readByte (cursor : Cursor Script) : Except SourceError (Option UInt8) × Cursor Script :=
  let (result, cursor) := (cursor.readUnit (Inlet.takeUpTo 1)).orFault
  (result.map List.head?, cursor)

end Cursor

end InputChain
