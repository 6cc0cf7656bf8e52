import InputChain.AsyncCursor.Reads
import InputChain.Cursor.Bytes
import InputChain.Cursor.Lines
import InputChain.Cursor.Seamless

/-!
# Operations and runs

Everything that can be asked of a cursor is an operation, so that a statement about every use of a
cursor is one about every list of operations.

* `Operation`, `Cursor.perform`, `AsyncCursor.perform`: what a cursor of either sort can be asked.
* `BlockingOperation`, `Cursor.serve`: what a cursor that waits can be asked, the seamless view
  included.
* `Run.trace`, `Run.last`: a run of operations, step by step and as a whole.
* `Standing`, `Cursor.openings`: what a cursor tells of itself, and the open calls it has made.
* `Response.reportsEnd`: the answers that say that the stream has ended.
-/

namespace InputChain

/-! ## What can be asked -/

/-- What a cursor of either sort can be asked. -/
inductive Operation where
  /-- At most so many bytes; without a number, everything left. -/
  | read (count : Option Nat)
  | readToEnd
  | readByte
  | readLine
  | readLineBytes
  | skip
  deriving DecidableEq, Repr

/-- What only a cursor that waits can be asked as well. -/
inductive BlockingOperation where
  | common (operation : Operation)
  | setLineno (lineno : Nat)
  | readLines
  /-- One item of the iterator over the lines. -/
  | nextLine
  /-- One plain read of the seamless view with this room. -/
  | plainRead (room : Nat)
  | fill
  | consume (count : Nat)
  deriving DecidableEq, Repr

/-- What an operation gives unless it fails. -/
inductive Response where
  /-- Bytes, or the bytes of a line; none at the end of the stream. -/
  | bytes (got : Option Bytes)
  | byte (got : Option UInt8)
  | line (text : Option String)
  | lines (texts : List String)
  | item (found : Option (Except SourceError String))
  /-- What the seamless view gives; no bytes at the end of the stream. -/
  | slice (got : Bytes)
  | done

/-- How an operation fails. -/
inductive Failure where
  | source (error : SourceError)
  /-- A failure of the seamless view, known by its kind and its text. -/
  | io (kind : IoKind) (text : String)
  deriving DecidableEq, Repr

/-- The failure that the seamless view makes of a fault. -/
def Failure.ofFault (fault : Seamless.Fault) : Failure :=
  .io fault.kind fault.text

/-- A delivery as the seamless view answers it. -/
def Delivery.answer (delivery : Delivery Script) : Except Failure Response × Cursor Script :=
  match delivery.fault with
  | none => (.ok (.slice delivery.got), delivery.next)
  | some error => (.error (.ofFault (.source error)), delivery.next)

namespace Cursor

/-- The cursor that waits performs an operation. -/
def perform (operation : Operation) (cursor : Cursor Script) :
    Except SourceError Response × Cursor Script :=
  match operation with
  | .read (some count) => (cursor.read count).map (Except.map .bytes) id
  | .read none => cursor.readToEnd.map (Except.map fun got => .bytes (some got)) id
  | .readToEnd => cursor.readToEnd.map (Except.map fun got => .bytes (some got)) id
  | .readByte => cursor.readByte.map (Except.map .byte) id
  | .readLine => cursor.readLine.map (Except.map .line) id
  | .readLineBytes => cursor.readLineBytes.map (Except.map .bytes) id
  | .skip => (.ok .done, cursor.skip)

/-- The cursor that waits serves an operation, through the seamless view if it belongs there. -/
def serve (operation : BlockingOperation) (cursor : Cursor Script) :
    Except Failure Response × Cursor Script :=
  match operation with
  | .common operation => (cursor.perform operation).map (Except.mapError .source) id
  | .setLineno lineno => (.ok .done, cursor.setLineno lineno)
  | .readLines => cursor.readLines.map (fun texts => (texts.map .lines).mapError .source) id
  | .nextLine => (cursor.eachLine 1).map (fun items => .ok (.item items.head?)) id
  | .plainRead room => (Seamless.read room cursor).answer
  | .fill => (Seamless.fill cursor).answer
  | .consume count => (.ok .done, Seamless.consume count cursor)

end Cursor

/-- The cursor whose readers can be not ready performs an operation. -/
def AsyncCursor.perform (operation : Operation) (cursor : AsyncCursor) :
    Except SourceError Response × AsyncCursor :=
  match operation with
  | .read (some count) => (AsyncCursor.read count cursor).map (Except.map .bytes) id
  | .read none => (AsyncCursor.readToEnd cursor).map (Except.map fun got => .bytes (some got)) id
  | .readToEnd => (AsyncCursor.readToEnd cursor).map (Except.map fun got => .bytes (some got)) id
  | .readByte => (AsyncCursor.readByte cursor).map (Except.map .byte) id
  | .readLine => (AsyncCursor.readLine cursor).map (Except.map .line) id
  | .readLineBytes => (AsyncCursor.readLineBytes cursor).map (Except.map .bytes) id
  | .skip => (.ok .done, cursor.skip)

/-! ## Runs -/

namespace Run

variable {ω κ ρ : Type} (step : ω → κ → ρ × κ)

/-- The answers of a run, each with the state after it. -/
def trace : List ω → κ → List (ρ × κ)
  | [], _ => []
  | operation :: rest, state => step operation state :: trace rest (step operation state).2

/-- The state after a run. -/
def last (operations : List ω) (state : κ) : κ :=
  operations.foldl (fun state operation => (step operation state).2) state

/-- What every step keeps, every run keeps. -/
theorem last_induction {Holds : κ → Prop} (hstep : ∀ operation state, Holds state →
    Holds (step operation state).2) (operations : List ω) {state : κ} (h : Holds state) :
    Holds (last step operations state) := by
  induction operations generalizing state with
  | nil => exact h
  | cons operation rest ih => exact ih (hstep operation state h)

end Run

/-! ## What a cursor tells of itself -/

/-- What a cursor tells of itself. -/
structure Standing where
  currentId? : Option String
  sourceIndex? : Option Nat
  /-- The identifiers of the sources that have not been opened. -/
  remaining : List String
  lineno : Nat
  isExhausted : Bool
  deriving DecidableEq, Repr

/-- Whether a source was asked to open. -/
def Access.isOpening : Access → Bool
  | .opened _ => true
  | .refused _ => true
  | .closed _ => false

namespace Cursor

variable {σ : Type}

/-- What the cursor tells of itself. -/
def standing (cursor : Cursor σ) : Standing where
  currentId? := cursor.currentId?
  sourceIndex? := cursor.sourceIndex?
  remaining := SourceList.ids cursor.remaining
  lineno := cursor.lineno
  isExhausted := cursor.isExhausted

/-- The number of open calls the cursor has made, failed ones included. -/
def openings (cursor : Cursor σ) : Nat :=
  cursor.journal.countP Access.isOpening

end Cursor

/-- Whether an answer says that the stream has ended. A read without room says nothing of it. -/
def Response.reportsEnd (operation : BlockingOperation) : Response → Bool
  | .bytes none => true
  | .bytes (some []) => operation != .common (.read (some 0))
  | .byte none => true
  | .line none => true
  | .lines [] => true
  | .item none => true
  | .slice [] => operation != .plainRead 0
  | _ => false

end InputChain
