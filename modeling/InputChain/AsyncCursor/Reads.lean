import InputChain.AsyncCursor.Portion

/-!
# Reading a cursor whose readers can be not ready

The same reads as of a cursor that waits, each collecting portions.

* `AsyncCursor.read`, `AsyncCursor.readToEnd`, `AsyncCursor.readByte`: bytes.
* `AsyncCursor.readLineBytes`, `AsyncCursor.readLine`: lines.
* `AsyncCursor.lines`: lines and failures as they come.
-/

namespace InputChain

namespace AsyncCursor

open Cursor

/-- Collects portions until there are `count` bytes, or no more to be had. -/
def collect (count : Nat) (out : Bytes) (cursor : AsyncCursor) : Delivery PolledScript :=
  if hcount : count ≤ out.length then ⟨out, none, cursor⟩
  else
    let delivery := add (.upTo (count - out.length)) out cursor
    if h : delivery.fault.isSome ∨ delivery.got.length ≤ out.length then delivery
    else
      have : count - delivery.got.length < count - out.length := by
        have := not_or.1 h; omega
      collect count delivery.got delivery.next
  termination_by count - out.length

/-- At most `count` bytes; none at the end of the stream, unless none were asked for. -/
def read (count : Nat) (cursor : AsyncCursor) : Except SourceError (Option Bytes) × AsyncCursor :=
  let (result, cursor) := (collect count [] cursor).holdBack
  (result.map fun got => if count = 0 ∨ got ≠ [] then some got else none, cursor)

/-- Collects everything left of one source after another, up to a failure. -/
def collectRest (out : Bytes) (cursor : AsyncCursor) : Delivery PolledScript :=
  let delivery := add .rest out cursor
  if h : delivery.fault.isSome ∨ delivery.got.length ≤ out.length then delivery
  else
    have : delivery.next.supply < cursor.supply := by
      have h₁ : delivery.got.length + delivery.next.supply ≤ out.length + cursor.supply :=
        supply_add .rest out cursor
      have h₂ := (not_or.1 h).2
      omega
    collectRest delivery.got delivery.next
  termination_by cursor.supply

/-- Everything left in the stream. -/
def readToEnd (cursor : AsyncCursor) : Except SourceError Bytes × AsyncCursor :=
  (collectRest [] cursor).holdBack

/-- One byte; none at the end of the stream. -/
def readByte (cursor : AsyncCursor) : Except SourceError (Option UInt8) × AsyncCursor :=
  let (result, cursor) := (add (.upTo 1) [] cursor).orFault
  (result.map List.head?, cursor)

/-- The bytes of the next line, which is not counted yet; none at the end of the stream. -/
def nextLine (cursor : AsyncCursor) : Except SourceError (Option Bytes) × AsyncCursor :=
  let (result, cursor) := (add .line [] cursor).orFault
  (result.map fun line => if line = [] then none else some line, cursor)

/-- The bytes of the next line; none at the end of the stream. -/
def readLineBytes (cursor : AsyncCursor) : Except SourceError (Option Bytes) × AsyncCursor :=
  match cursor.nextLine with
  | (.ok (some line), cursor) => (.ok (some line), cursor.countLine)
  | answer => answer

/-- The next line as text; none at the end of the stream. A line that is not UTF-8 is a failure of
its source; it is not counted. -/
def readLine (cursor : AsyncCursor) : Except SourceError (Option String) × AsyncCursor :=
  match cursor.nextLine with
  | (.error error, cursor) => (.error error, cursor)
  | (.ok none, cursor) => (.ok none, cursor)
  | (.ok (some line), cursor) =>
    match Utf8.decode line with
    | .ok text => (.ok (some text), cursor.countLine)
    | .error fault =>
      (.error (.ofReading (cursor.currentId?.getD "") (.malformed fault)), cursor)

/-- At most `count` lines or failures as they come, up to the end of the stream. -/
def lines : (count : Nat) → AsyncCursor → List (Except SourceError String) × AsyncCursor
  | 0, cursor => ([], cursor)
  | count + 1, cursor =>
    match cursor.readLine with
    | (.ok (some text), cursor) =>
      let (rest, last) := lines count cursor
      (.ok text :: rest, last)
    | (.ok none, cursor) => ([], cursor)
    | (.error error, cursor) =>
      let (rest, last) := lines count cursor
      (.error error :: rest, last)

end AsyncCursor

end InputChain
