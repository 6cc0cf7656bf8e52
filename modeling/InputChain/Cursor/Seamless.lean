import InputChain.Cursor.Unit

/-!
# The seamless view of a cursor

Seen as one buffered reader, a cursor shows nothing of where one source ends and the next begins, in
lines no more than in bytes. The view rests on three operations; the others are made of them, and
make an interrupted request again.

* `Seamless.read`, `Seamless.fill`, `Seamless.consume`: the three operations.
* `Seamless.readExact`, `Seamless.readToEnd`, `Seamless.readText`: bytes and text.
* `Seamless.readUntil`, `Seamless.readLine`, `Seamless.lines`, `Seamless.split`: pieces.
* `Seamless.Fault`: what can go wrong, with its kind and text.
-/

namespace InputChain

namespace Seamless

/-- What can go wrong with a seamless read. -/
inductive Fault where
  /-- A source failed. -/
  | source (error : SourceError)
  /-- The stream ended in front of the last byte asked for. -/
  | endedEarly
  /-- The bytes are not UTF-8. -/
  | malformedText
  deriving DecidableEq, Repr

/-- The kind of a fault. -/
def Fault.kind : Fault → IoKind
  | .source error => error.kind
  | .endedEarly => .unexpectedEof
  | .malformedText => .invalidData

/-- The text of a fault. -/
def Fault.text : Fault → String
  | .source error => error.message
  | .endedEarly => "failed to fill whole buffer"
  | .malformedText => "stream did not contain valid UTF-8"

/-! ## The three operations -/

/-- One read with room for `room` bytes. No bytes mean the end of the stream, or that there was no
room. -/
def read (room : Nat) (cursor : Cursor Script) : Delivery Script :=
  if room = 0 then ⟨[], none, cursor⟩ else cursor.readUnit (Inlet.read room)

/-- The bytes held, of the first source that has any. They stay held. -/
def fill (cursor : Cursor Script) : Delivery Script :=
  cursor.readUnit Inlet.fill

/-- Takes bytes that are held, as far as they reach. -/
def consume (count : Nat) (cursor : Cursor Script) : Cursor Script :=
  match cursor.phase with
  | .active id held reader => { cursor with phase := .active id (held.drop count) reader }
  | _ => cursor

section Supply

open Cursor

theorem supply_read_lt {room : Nat} {cursor : Cursor Script} (hgot : (read room cursor).got ≠ []) :
    (read room cursor).next.supply < cursor.supply := by
  unfold read at hgot ⊢
  split
  · rename_i h; simp [h] at hgot
  · rename_i h
    rw [if_neg h] at hgot
    exact supply_readUnit_lt (Inlet.supply_read room) _ hgot

theorem supply_fill (cursor : Cursor Script) : (fill cursor).next.supply ≤ cursor.supply := by
  have := supply_readUnit (fun _ => 0)
    (show Draws (fun _ => 0) Inlet.fill from fun inlet => by simpa using inlet.supply_fill)
    rfl cursor
  simpa [fill] using this

theorem phase_crossing_fill (cursor : Cursor Script)
    (hfault : (cursor.crossing Inlet.fill).fault = none)
    (hgot : (cursor.crossing Inlet.fill).got ≠ []) :
    ∃ id reader, (cursor.crossing Inlet.fill).next.phase
      = .active id (cursor.crossing Inlet.fill).got reader := by
  fun_induction crossing Inlet.fill cursor with
  | case1 => simp at hgot
  | case2 => simp at hfault
  | case3 _ _ _ _ _ _ _ _ _ _ ih => exact ih hfault hgot
  | case4 cursor id held reader hphase reply cursor' _ _ =>
    exact ⟨id, reply.next.reader, by
      simp only [cursor', withInlet]
      exact congrArg (Phase.active id · _) Inlet.held_fillBy⟩
  | case5 => simp at hgot
  | case6 => simp at hfault
  | case7 _ _ _ _ _ _ _ _ ih => exact ih hfault hgot

theorem phase_fill {cursor : Cursor Script} (hfault : (fill cursor).fault = none)
    (hgot : (fill cursor).got ≠ []) :
    ∃ id reader, (fill cursor).next.phase = .active id (fill cursor).got reader := by
  unfold fill readUnit at hfault hgot ⊢
  split
  · rename_i h; simp [h] at hfault
  · rename_i h
    simp only [h] at hfault hgot
    exact phase_crossing_fill cursor hfault hgot

theorem supply_consume_fill_lt {cursor : Cursor Script} (hfault : (fill cursor).fault = none)
    (hgot : (fill cursor).got ≠ []) :
    (consume (fill cursor).got.length (fill cursor).next).supply < cursor.supply := by
  obtain ⟨id, reader, hphase⟩ := phase_fill hfault hgot
  have h₁ := supply_fill cursor
  have h₂ := List.length_pos_iff.2 hgot
  simp only [supply, consume, hphase, remaining, Inlet.supply, List.drop_length, List.length_nil]
    at h₁ ⊢
  omega

end Supply

/-! ## Bytes and text -/

/-- Exactly `count` bytes. -/
def readExact (count : Nat) (cursor : Cursor Script) : Except Fault Bytes × Cursor Script :=
  if count = 0 then (.ok [], cursor)
  else
    let delivery := read count cursor
    match delivery.fault with
    | some error =>
      if h : error.isInterrupted ∧ delivery.next.supply < cursor.supply then
        have := h.2
        readExact count delivery.next
      else (.error (.source error), delivery.next)
    | none =>
      if hgot : delivery.got = [] then (.error .endedEarly, delivery.next)
      else
        have : delivery.next.supply < cursor.supply := supply_read_lt hgot
        let (rest, last) := readExact (count - delivery.got.length) delivery.next
        (rest.map (delivery.got ++ ·), last)
  termination_by cursor.supply

/-- Everything left in the stream, up to a failure. -/
def readToEnd (cursor : Cursor Script) : Delivery Script :=
  let delivery := read blockSize cursor
  match delivery.fault with
  | some error =>
    if h : error.isInterrupted ∧ delivery.next.supply < cursor.supply then
      have := h.2
      readToEnd delivery.next
    else delivery
  | none =>
    if hgot : delivery.got = [] then delivery
    else
      have : delivery.next.supply < cursor.supply := supply_read_lt hgot
      (readToEnd delivery.next).after delivery.got
  termination_by cursor.supply

/-- The text of some bytes that were read. A failure to read them counts before one to understand
them. -/
def textOf (delivery : Delivery Script) : Except Fault String × Cursor Script :=
  match delivery.fault with
  | some error => (.error (.source error), delivery.next)
  | none =>
    match Utf8.decode delivery.got with
    | .ok text => (.ok text, delivery.next)
    | .error _ => (.error .malformedText, delivery.next)

/-- Everything left in the stream, as text. -/
def readText (cursor : Cursor Script) : Except Fault String × Cursor Script :=
  textOf (readToEnd cursor)

/-! ## Pieces -/

/-- The bytes through the next `stop`, or to the end of the stream, up to a failure. -/
def readUntil (stop : UInt8) (cursor : Cursor Script) : Delivery Script :=
  let delivery := fill cursor
  match hfault : delivery.fault with
  | some error =>
    if h : error.isInterrupted ∧ delivery.next.supply < cursor.supply then
      have := h.2
      readUntil stop delivery.next
    else delivery
  | none =>
    if hgot : delivery.got = [] then delivery
    else
      match Inlet.splitThrough stop delivery.got with
      | some (piece, _) => ⟨piece, none, consume piece.length delivery.next⟩
      | none =>
        have : (consume delivery.got.length delivery.next).supply < cursor.supply :=
          supply_consume_fill_lt hfault hgot
        (readUntil stop (consume delivery.got.length delivery.next)).after delivery.got
  termination_by cursor.supply

/-- The next line as text, empty at the end of the stream. A line may begin in one source and end in
another. -/
def readLine (cursor : Cursor Script) : Except Fault String × Cursor Script :=
  textOf (readUntil newline cursor)

/-- A line without its line end. -/
def dropLineEnd (line : List Char) : List Char :=
  match line.reverse with
  | '\n' :: '\r' :: rest => rest.reverse
  | '\n' :: rest => rest.reverse
  | _ => line

/-- At most `count` lines without their line ends, or failures as they come. -/
def lines : (count : Nat) → Cursor Script → List (Except Fault String) × Cursor Script
  | 0, cursor => ([], cursor)
  | count + 1, cursor =>
    match readLine cursor with
    | (.error error, cursor) =>
      let (rest, last) := lines count cursor
      (.error error :: rest, last)
    | (.ok text, cursor) =>
      if text.isEmpty then ([], cursor)
      else
        let (rest, last) := lines count cursor
        (.ok (String.ofList (dropLineEnd text.toList)) :: rest, last)

/-- A piece without the byte that ends it. -/
def dropStop (stop : UInt8) (piece : Bytes) : Bytes :=
  if piece.getLast? = some stop then piece.dropLast else piece

/-- At most `count` pieces without the byte that ends each, or failures as they come. -/
def split (stop : UInt8) : (count : Nat) → Cursor Script →
    List (Except SourceError Bytes) × Cursor Script
  | 0, cursor => ([], cursor)
  | count + 1, cursor =>
    let delivery := readUntil stop cursor
    match delivery.fault with
    | some error =>
      let (rest, last) := split stop count delivery.next
      (.error error :: rest, last)
    | none =>
      if delivery.got.isEmpty then ([], delivery.next)
      else
        let (rest, last) := split stop count delivery.next
        (.ok (dropStop stop delivery.got) :: rest, last)

end Seamless

end InputChain
