import InputChain.Fault.Source
import InputChain.Inlet.Basic
import InputChain.Source.List

/-!
# A cursor over a list of sources

A cursor reads the sources of a list as one stream. It has at most one source open: none at first,
the next one when something is asked of it, none again when that source ends or is skipped. A failure
that came after bytes were read is held until the next read. What was opened and closed is written
down in a journal.

* `Phase`: no source open, one open, or all used up.
* `Cursor`, `Cursor.ofSources`.
* `Cursor.enter`, `Cursor.refuse`, `Cursor.close`: a source opens, fails to open, is closed.
* `Cursor.skip`: the rest of the open source is abandoned.
* `Cursor.dropped`: what was done with the sources in the end.
-/

namespace InputChain

/-- Where a cursor stands. -/
inductive Phase (σ : Type) where
  /-- No source is open; the next one is opened when something is asked for. -/
  | idle
  /-- The source of this identifier is open, with this block held in front of its reader. -/
  | active (id : String) (held : Bytes) (reader : Reader σ)
  /-- Every source has been used up. -/
  | exhausted
  deriving DecidableEq, Repr

/-- What was done with the source at an index of the list. -/
inductive Access where
  | opened (index : Nat)
  /-- It was asked to open and failed. -/
  | refused (index : Nat)
  | closed (index : Nat)
  deriving DecidableEq, Repr

/-- A reader of several sources as one stream. -/
structure Cursor (σ : Type) where
  sources : SourceList σ
  phase : Phase σ
  /-- The number of lines read, or what it was set to. -/
  lineno : Nat
  /-- The failure that the next read will report. -/
  pending : Option SourceError
  world : World
  /-- What was done with the sources, in order. -/
  journal : List Access

namespace Cursor

variable {σ : Type}

/-- The cursor at the start of a list of sources. Nothing is opened yet. -/
def ofList (world : World) (sources : SourceList σ) : Cursor σ :=
  ⟨sources, .idle, 0, none, world, []⟩

/-- The cursor at the start of these sources, or of standard input if there are none. -/
def ofSources (world : World) (sources : List (Source σ)) : Cursor σ :=
  ofList world (SourceList.ofList sources)

/-- The identifier of the open source. -/
def currentId? (cursor : Cursor σ) : Option String :=
  match cursor.phase with
  | .active id _ _ => some id
  | _ => none

/-- The index of the source that is open or was opened last. -/
def sourceIndex? (cursor : Cursor σ) : Option Nat :=
  match cursor.sources.position with
  | 0 => none
  | index + 1 => some index

/-- The sources that have not been opened. -/
def remaining (cursor : Cursor σ) : List (Source σ) :=
  cursor.sources.remaining

/-- Whether every source has been used up. -/
def isExhausted (cursor : Cursor σ) : Bool :=
  match cursor.phase with
  | .exhausted => true
  | _ => false

/-- Goes on counting lines from a number. -/
def setLineno (lineno : Nat) (cursor : Cursor σ) : Cursor σ :=
  { cursor with lineno }

/-- One more line has been read. -/
def countLine (cursor : Cursor σ) : Cursor σ :=
  { cursor with lineno := cursor.lineno + 1 }

/-- A source has opened. -/
def enter (id : String) (reader : Reader σ) (rest : SourceList σ) (cursor : Cursor σ) : Cursor σ :=
  { cursor with
    sources := rest
    phase := .active id [] reader
    journal := cursor.journal ++ [.opened cursor.sources.position] }

/-- A source has failed to open. It is not tried again. -/
def refuse (rest : SourceList σ) (cursor : Cursor σ) : Cursor σ :=
  { cursor with
    sources := rest
    journal := cursor.journal ++ [.refused cursor.sources.position] }

/-- The open source is closed. -/
def close (cursor : Cursor σ) : Cursor σ :=
  { cursor with
    phase := .idle
    journal := cursor.journal ++ [.closed (cursor.sources.position - 1)] }

/-- Abandons the rest of the open source. -/
def skip (cursor : Cursor σ) : Cursor σ :=
  match cursor.phase with
  | .active _ _ _ => cursor.close
  | _ => cursor

/-- What was done with the sources once the cursor is dropped: a source that is still open goes with it. -/
def dropped (cursor : Cursor σ) : List Access :=
  match cursor.phase with
  | .active _ _ _ => cursor.journal ++ [.closed (cursor.sources.position - 1)]
  | _ => cursor.journal

/-- The open source after something was read of it. -/
def withInlet (id : String) (inlet : Inlet σ) (cursor : Cursor σ) : Cursor σ :=
  { cursor with
    phase := .active id inlet.held inlet.reader
    world := { cursor.world with input := inlet.input } }

/-- What bounds the number of times a cursor can still open or close a source. -/
def crossings (cursor : Cursor σ) : Nat :=
  2 * cursor.remaining.length +
    match cursor.phase with
    | .active _ _ _ => 1
    | _ => 0

end Cursor

/-- What a read of a cursor gave, bytes unless it is said what else, the failure it met after that, and the
cursor after it. Nothing and no failure mean the end of the stream. -/
structure Delivery (σ : Type) (α : Type := Bytes) where
  got : α
  fault : Option SourceError
  next : Cursor σ

namespace Delivery

variable {σ : Type}

/-- The same with these bytes in front. -/
def after (got : Bytes) (delivery : Delivery σ) : Delivery σ :=
  { delivery with got := got ++ delivery.got }

/-- The bytes, if there are any or nothing failed; the failure is then held for the next read. -/
def holdBack (delivery : Delivery σ) : Except SourceError Bytes × Cursor σ :=
  match delivery.fault with
  | none => (.ok delivery.got, delivery.next)
  | some error =>
    if delivery.got.isEmpty then (.error error, delivery.next)
    else (.ok delivery.got, { delivery.next with pending := some error })

/-- What was given if nothing failed; what was given in front of a failure is lost. -/
def orFault {α : Type} (delivery : Delivery σ α) : Except SourceError α × Cursor σ :=
  match delivery.fault with
  | none => (.ok delivery.got, delivery.next)
  | some error => (.error error, delivery.next)

end Delivery

end InputChain
