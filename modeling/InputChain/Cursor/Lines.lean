import InputChain.Cursor.Unit

/-!
# Reading lines of a cursor

A line goes through the next line end or, in front of it, to the end of its source: no line has bytes
of two sources. A line that a failure cuts off is lost.

* `Cursor.readLineBytes`: the bytes of a line.
* `Cursor.readLine`: a line as text. It is decoded where it is found.
* `Cursor.readLines`: all lines, unless one fails.
* `Cursor.eachLine`: lines and failures as they come.
-/

namespace InputChain

namespace Cursor

/-- The bytes of the next line; none at the end of the stream. -/
def readLineBytes (cursor : Cursor Script) :
    Except SourceError (Option Bytes) × Cursor Script :=
  match (cursor.readUnit (Inlet.readUntil newline)).orFault with
  | (.error error, cursor) => (.error error, cursor)
  | (.ok line, cursor) =>
    if line.isEmpty then (.ok none, cursor) else (.ok (some line), cursor.countLine)

/-- The next line as text; none at the end of the stream. A line that is not UTF-8 is a failure of
its source; it is not counted. -/
def readLine (cursor : Cursor Script) : Except SourceError (Option String) × Cursor Script :=
  match (cursor.readUnit Inlet.readText).orFault with
  | (.ok (some text), cursor) => (.ok (some text), cursor.countLine)
  | answer => answer

theorem supply_readLine {cursor next : Cursor Script} {text : String}
    (h : cursor.readLine = (.ok (some text), next)) : next.supply < cursor.supply := by
  have hunit := supply_readUnit (fun found : Option String => found.toList.length) Inlet.supply_readText rfl cursor
  unfold readLine Delivery.orFault at h
  generalize cursor.readUnit Inlet.readText = delivery at h hunit
  obtain ⟨_ | found, _ | fault, after⟩ := delivery
  · simp at h
  · simp at h
  · cases h
    have hcost : 1 + after.supply ≤ cursor.supply := hunit
    exact Nat.lt_of_lt_of_le (Nat.lt_add_of_pos_left Nat.one_pos) hcost
  · simp at h

/-- All lines left. A line that fails is reported in place of those in front of it. -/
def readLines (cursor : Cursor Script) : Except SourceError (List String) × Cursor Script :=
  match h : cursor.readLine with
  | (.error error, cursor') => (.error error, cursor')
  | (.ok none, cursor') => (.ok [], cursor')
  | (.ok (some text), cursor') =>
    have : cursor'.supply < cursor.supply := supply_readLine h
    let (rest, last) := readLines cursor'
    (rest.map (text :: ·), last)
  termination_by cursor.supply

/-- At most `count` lines or failures as they come, up to the end of the stream. -/
def eachLine : (count : Nat) → Cursor Script → List (Except SourceError String) × Cursor Script
  | 0, cursor => ([], cursor)
  | count + 1, cursor =>
    match cursor.readLine with
    | (.ok none, cursor) => ([], cursor)
    | (.ok (some text), cursor) =>
      let (rest, last) := eachLine count cursor
      (.ok text :: rest, last)
    | (.error error, cursor) =>
      let (rest, last) := eachLine count cursor
      (.error error :: rest, last)

end Cursor

end InputChain
