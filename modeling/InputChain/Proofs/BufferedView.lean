import InputChain.Proofs.Accord
import InputChain.Proofs.NothingLost
import InputChain.Proofs.StreamEnd

/-!
# The buffered view and the byte reads

A caller who looks at the block that is held and takes bytes of it sees what a caller sees who reads bytes one by
one. A unit of so many bytes is the block shown by a fill, of which so many are taken; the two could only part
where a failure is held together with a block, and that never happens.

* `Delivery.taking`, **`Cursor.crossing_takeUpTo`**: taking bytes of what a fill shows is a unit of bytes.
* `Cursor.HeldAlone`, `Cursor.heldAlone_run`: while a failure is held, no bytes are.
* `Cursor.readByte_eq_taking`, `Cursor.read_eq_taking`: one byte, and a plain read.
* `Cursor.withReader`, `Cursor.fill_withReader`: a block that is held is shown whatever reader stands behind it.
* **`buffered_view_is_byte_view`**: all of it, after every run.
-/

namespace InputChain

namespace Inlet

variable {inlet : Inlet Script} {room : Nat}

/-- A plain read with less room than a block is a unit of bytes. -/
theorem read_of_room (hroom : room < blockSize) : inlet.read room = inlet.takeUpTo room :=
  if_neg fun h => Nat.not_le_of_lt hroom h.2

/-- So is one while bytes are held. -/
theorem read_of_held (hheld : inlet.held ≠ []) : inlet.read room = inlet.takeUpTo room :=
  if_neg fun h => hheld (List.isEmpty_iff.1 h.1)

/-- A fill that fails leaves nothing held. -/
theorem held_fill_of_fault {error : IoError} (hfault : inlet.fill.fault = some error) :
    inlet.fill.next.held = [] :=
  held_fillBy.trans (got_fill_of_fault hfault)

theorem held_takeUpTo_of_fault {count : Nat} {error : IoError}
    (hfault : (inlet.takeUpTo count).fault = some error) : (inlet.takeUpTo count).next.held = [] := by
  rw [takeUpTo, consume, held_fill_of_fault hfault, List.drop_nil]

end Inlet

namespace Delivery

/-- A delivery that shows a block, when so many bytes of the block are taken. -/
def taking (count : Nat) (delivery : Delivery Script) : Delivery Script :=
  ⟨delivery.got.take count, delivery.fault, Seamless.consume count delivery.next⟩

theorem answer_snd (delivery : Delivery Script) : delivery.answer.2 = delivery.next := by
  unfold answer
  split <;> rfl

theorem answer_eq_slice_iff {delivery : Delivery Script} {slice : Bytes} :
    delivery.answer.1 = .ok (.slice slice) ↔ delivery.fault = none ∧ delivery.got = slice := by
  obtain ⟨got, _ | error, next⟩ := delivery <;> simp [answer]

theorem answer_eq_error_iff {delivery : Delivery Script} {failure : Failure} :
    delivery.answer.1 = .error failure
      ↔ ∃ error, delivery.fault = some error ∧ failure = .ofFault (.source error) := by
  obtain ⟨got, _ | error, next⟩ := delivery <;> simp [answer, eq_comm]

end Delivery

namespace Cursor

variable {cursor : Cursor Script}

/-! ## Taking bytes of a block -/

theorem consume_of_block (hblock : cursor.block = []) (count : Nat) :
    Seamless.consume count cursor = cursor := by
  obtain ⟨sources, phase, lineno, pending, world, journal⟩ := cursor
  cases phase with
  | active id held reader =>
    obtain rfl : held = [] := hblock
    simp only [Seamless.consume, List.drop_nil]
  | _ => rfl

/-- **A unit of so many bytes is taken of the block that a fill shows.** -/
theorem crossing_takeUpTo {count : Nat} (hcount : count ≠ 0) (cursor : Cursor Script) :
    cursor.crossing (Inlet.takeUpTo count) = (cursor.crossing Inlet.fill).taking count := by
  fun_induction crossing Inlet.fill cursor with
  | case1 cursor hphase =>
    rw [crossing_of_exhausted hphase, Delivery.taking, Seamless.consume, hphase, Findable.nothing_bytes,
      List.take_nil]
  | case2 cursor id held reader hphase reply cursor' error hfault =>
    exact crossing_of_fault hphase rfl hfault
  | case3 cursor id held reader hphase reply cursor' hfault hgot _ ih =>
    have hnone : (Inlet.takeUpTo count ⟨held, reader, cursor.world.input⟩).got = [] := by
      rw [Inlet.takeUpTo, show (Inlet.fill _).got = [] from List.isEmpty_iff.1 hgot, List.take_nil]
    have hend := @crossing_of_end (Inlet.takeUpTo count) cursor id held reader hphase _ rfl hfault hnone
    exact hend.trans ih
  | case4 cursor id held reader hphase reply cursor' hfault hgot =>
    have hsome : (Inlet.takeUpTo count ⟨held, reader, cursor.world.input⟩).got ≠ [] := fun htake =>
      (List.take_eq_nil_iff.1 htake).elim hcount fun hnil => hgot (List.isEmpty_iff.2 hnil)
    exact crossing_of_got hphase rfl hfault hsome
  | case5 cursor hphase hnext =>
    rw [crossing_of_no_source hphase hnext, Delivery.taking, Findable.nothing_bytes, List.take_nil]
    rfl
  | case6 cursor hphase source rest hnext error hopen =>
    have hidle : (cursor.refuse rest).phase = .idle := hphase
    rw [crossing_of_refused hphase hnext hopen, Delivery.taking, Findable.nothing_bytes, List.take_nil,
      Seamless.consume, hidle]
  | case7 cursor hphase source rest hnext reader hopen _ ih =>
    rw [crossing_of_opened hphase hnext hopen]
    exact ih

/-! ## A held failure and a held block -/

/-- While a failure is held, no bytes are. -/
def HeldAlone (cursor : Cursor Script) : Prop := cursor.pending.isSome → cursor.block = []

theorem heldAlone_of_pending (hpending : cursor.pending = none) : cursor.HeldAlone := by
  intro hsome
  rw [hpending] at hsome
  cases hsome

section Fault

variable {unit : Inlet Script → Reply (Inlet Script)}
  (hunit : ∀ inlet error, (unit inlet).fault = some error → (unit inlet).next.held = [])

include hunit

theorem block_crossing_of_fault (hfault : (cursor.crossing unit).fault.isSome) :
    (cursor.crossing unit).next.block = [] := by
  fun_induction crossing unit cursor with
  | case1 => cases hfault
  | case2 cursor id held reader hphase reply cursor' error hfault' => exact hunit _ error hfault'
  | case3 _ _ _ _ _ _ _ _ _ _ ih => exact ih hfault
  | case4 => cases hfault
  | case5 => cases hfault
  | case6 cursor hphase source rest => rw [block, show (cursor.refuse rest).phase = .idle from hphase]
  | case7 _ _ _ _ _ _ _ _ ih => exact ih hfault

theorem block_readUnit_of_fault (hpending : cursor.pending = none)
    (hfault : (cursor.readUnit unit).fault.isSome) : (cursor.readUnit unit).next.block = [] := by
  rw [readUnit_of_none hpending] at hfault ⊢
  exact block_crossing_of_fault hunit hfault

end Fault

theorem block_gather_of_fault {count : Nat} (hpending : cursor.pending = none)
    (hfault : (cursor.gather count).fault.isSome) : (cursor.gather count).next.block = [] := by
  fun_induction gather count cursor with
  | case1 => cases hfault
  | case2 => exact block_readUnit_of_fault (fun _ _ => Inlet.held_takeUpTo_of_fault) hpending hfault
  | case3 count cursor _ delivery hgot _ ih => exact ih (pending_readUnit cursor) hfault

theorem block_gatherRest_of_fault (hpending : cursor.pending = none)
    (hfault : cursor.gatherRest.fault.isSome) : cursor.gatherRest.next.block = [] := by
  fun_induction gatherRest cursor with
  | case1 => exact block_readUnit_of_fault (fun _ _ _ => rfl) hpending hfault
  | case2 => exact block_readUnit_of_fault (fun _ _ _ => rfl) hpending hfault
  | case3 cursor delivery _ _ _ ih => exact ih (pending_readUnit cursor) hfault

/-- A failure that is held back comes behind the bytes that were held. -/
theorem heldAlone_holdBack {delivery : Delivery Script} (hnext : delivery.next.pending = none)
    (hblock : delivery.fault.isSome → delivery.next.block = []) : delivery.holdBack.2.HeldAlone := by
  intro hsome
  obtain ⟨error, herror⟩ := Option.isSome_iff_exists.1 hsome
  obtain ⟨hfault, -, hback⟩ := Delivery.pending_holdBack hnext herror
  rw [hback]
  exact hblock (by rw [hfault]; rfl)

theorem block_skip (hblock : cursor.block = []) : cursor.skip.block = [] := by
  unfold skip
  split
  · rfl
  · exact hblock

theorem block_consume (hblock : cursor.block = []) (count : Nat) :
    (Seamless.consume count cursor).block = [] := by
  rw [consume_of_block hblock, hblock]

theorem heldAlone_of_quiet {operation : BlockingOperation} (hquiet : operation.asksForData = false)
    (h : cursor.HeldAlone) : (cursor.serve operation).2.HeldAlone := by
  intro hsome
  rw [(cursor.serve_of_quiet hquiet).1] at hsome
  match operation with
  | .common (.read (some count)) =>
    obtain rfl : count = 0 := by simpa [BlockingOperation.asksForData] using hquiet
    exact h hsome
  | .common .skip => exact block_skip (h hsome)
  | .setLineno lineno => exact h hsome
  | .plainRead room =>
    obtain rfl : room = 0 := by simpa [BlockingOperation.asksForData] using hquiet
    exact h hsome
  | .consume count => exact block_consume (h hsome) count

/-- Only a bulk read comes to hold a failure, and it has given all bytes that were held. -/
theorem heldAlone_of_asks {operation : BlockingOperation} (hasks : operation.asksForData)
    (hheld : cursor.HeldBeforeEnd) : (cursor.serve operation).2.HeldAlone := by
  intro hsome
  obtain ⟨error, herror⟩ := Option.isSome_iff_exists.1 hsome
  obtain ⟨hpending, hbulk, -, -⟩ := pending_serve_of_asks hasks hheld herror
  have hrest : cursor.readToEnd.2.HeldAlone :=
    heldAlone_holdBack (pending_gatherRest) (block_gatherRest_of_fault hpending)
  match operation with
  | .common (.read (some count)) =>
    have hcount : count ≠ 0 := by simpa [BlockingOperation.asksForData] using hasks
    have hread : (cursor.serve (.common (.read (some count)))).2 = (cursor.gather count).holdBack.2 := by
      rw [serve, perform, Cursor.read, if_neg hcount]
      rfl
    rw [hread] at hsome ⊢
    exact heldAlone_holdBack (pending_gather hcount) (block_gather_of_fault hpending) hsome
  | .common (.read none) => exact hrest hsome
  | .common .readToEnd => exact hrest hsome

/-- **While a failure is held, no bytes are**, whatever was asked before. -/
theorem heldAlone_run (world : World) (list : SourceList Script) (past : List BlockingOperation) :
    (Run.last Cursor.serve past (ofList world list)).HeldAlone := by
  have hstep : ∀ (operation : BlockingOperation) (cursor : Cursor Script),
      cursor.HeldBeforeEnd ∧ cursor.HeldAlone →
        (cursor.serve operation).2.HeldBeforeEnd ∧ (cursor.serve operation).2.HeldAlone := by
    intro operation cursor ⟨hbefore, halone⟩
    refine ⟨heldBeforeEnd_serve operation hbefore, ?_⟩
    cases hasks : operation.asksForData with
    | true => exact heldAlone_of_asks hasks hbefore
    | false => exact heldAlone_of_quiet hasks halone
  exact (Run.last_induction Cursor.serve hstep past
    ⟨heldBeforeEnd_of_pending rfl, heldAlone_of_pending rfl⟩).2

/-! ## The byte reads as takings -/

theorem readUnit_takeUpTo (h : cursor.HeldAlone) {count : Nat} (hcount : count ≠ 0) :
    cursor.readUnit (Inlet.takeUpTo count) = (Seamless.fill cursor).taking count := by
  rw [Seamless.fill]
  cases hpending : cursor.pending with
  | none => rw [readUnit_of_none hpending, readUnit_of_none hpending, crossing_takeUpTo hcount]
  | some error =>
    have hblock : { cursor with pending := none }.block = [] := h (by rw [hpending]; rfl)
    rw [readUnit_of_pending hpending, readUnit_of_pending hpending, Delivery.taking,
      consume_of_block hblock, List.take_nil]

theorem readByte_eq_taking (h : cursor.HeldAlone) :
    cursor.readByte = ((Seamless.fill cursor).taking 1).orFault.map (Except.map List.head?) id := by
  rw [readByte, readUnit_takeUpTo h Nat.one_ne_zero]
  rfl

/-- **A plain read takes of the block that a fill shows**, unless it is one of a whole block and none is held. -/
theorem read_eq_taking (h : cursor.HeldAlone) {room : Nat} (hroom : room ≠ 0)
    (hbuffered : room < blockSize ∨ cursor.block ≠ []) :
    Seamless.read room cursor = (Seamless.fill cursor).taking room := by
  rw [Seamless.read, if_neg hroom, ← readUnit_takeUpTo h hroom]
  rcases hbuffered with hless | hblock
  · rw [show Inlet.read room = Inlet.takeUpTo room from funext fun inlet => Inlet.read_of_room hless]
  · have hpending : cursor.pending = none := by
      by_contra hsome
      exact hblock (h (Option.isSome_iff_ne_none.2 hsome))
    rw [readUnit_of_none hpending, readUnit_of_none hpending]
    cases hphase : cursor.phase with
    | active id held reader =>
      have hheld : held ≠ [] := fun hnil => hblock (by rw [block, hphase, hnil])
      have hread : Inlet.read room ⟨held, reader, cursor.world.input⟩
          = ⟨held.take room, none, Inlet.consume room ⟨held, reader, cursor.world.input⟩⟩ :=
        (Inlet.read_of_held hheld).trans (Inlet.takeUpTo_of_held hheld)
      have hgot : held.take room ≠ [] := fun htake =>
        (List.take_eq_nil_iff.1 htake).elim hroom hheld
      rw [crossing_of_got hphase hread rfl hgot,
        crossing_of_got hphase (Inlet.takeUpTo_of_held hheld) rfl hgot]
    | _ => exact absurd (by rw [block, hphase]) hblock

/-- Taking more bytes than the block has is taking all of it. -/
theorem consume_min (count : Nat) (cursor : Cursor Script) :
    Seamless.consume (min count cursor.block.length) cursor = Seamless.consume count cursor := by
  obtain ⟨sources, phase, lineno, pending, world, journal⟩ := cursor
  cases phase with
  | active id held reader =>
    have hdrop : held.drop (min count held.length) = held.drop count := by
      rcases Nat.le_total count held.length with hle | hle
      · rw [Nat.min_eq_left hle]
      · rw [Nat.min_eq_right hle, List.drop_length, List.drop_eq_nil_of_le hle]
    exact congrArg (fun held => Cursor.mk sources (.active id held reader) lineno pending world journal) hdrop
  | _ => rfl

/-- A fill that fails leaves nothing held. -/
theorem block_fill_of_fault (h : cursor.HeldAlone) (hfault : (Seamless.fill cursor).fault.isSome) :
    (Seamless.fill cursor).next.block = [] := by
  rw [Seamless.fill] at hfault ⊢
  cases hpending : cursor.pending with
  | none =>
    rw [readUnit_of_none hpending] at hfault ⊢
    exact block_crossing_of_fault (fun _ _ => Inlet.held_fill_of_fault) hfault
  | some error =>
    rw [readUnit_of_pending hpending]
    exact h (by rw [hpending]; rfl)

/-! ## A block that is shown again -/

/-- The cursor with another reader behind the held block, and with this left of standard input. -/
def withReader (reader : Reader Script) (input : StandardInput) (cursor : Cursor Script) : Cursor Script :=
  { cursor with
    phase :=
      match cursor.phase with
      | .active id held _ => .active id held reader
      | phase => phase
    world := { cursor.world with input } }

/-- **What a fill has shown, the next one shows whatever the reader would answer**, so it asks no reader. -/
theorem fill_withReader (hfault : (Seamless.fill cursor).fault = none) (reader : Reader Script)
    (input : StandardInput) :
    Seamless.fill ((Seamless.fill cursor).next.withReader reader input)
      = ⟨(Seamless.fill cursor).got, none, (Seamless.fill cursor).next.withReader reader input⟩ := by
  have hpending : ((Seamless.fill cursor).next.withReader reader input).pending = none :=
    pending_readUnit cursor
  rw [Seamless.fill, readUnit_of_none hpending]
  by_cases hgot : (Seamless.fill cursor).got = []
  · have hphase : (Seamless.fill cursor).next.phase = .exhausted := phase_readUnit_of_end hgot hfault
    rw [crossing_of_exhausted (by rw [withReader, hphase]), hgot]
  · obtain ⟨id, before, hphase⟩ := Seamless.phase_fill hfault hgot
    have hactive : ((Seamless.fill cursor).next.withReader reader input).phase
        = .active id (Seamless.fill cursor).got reader := by
      rw [withReader, hphase]
    have hheld : Inlet.fill ⟨(Seamless.fill cursor).got, reader, input⟩
        = ⟨(Seamless.fill cursor).got, none, ⟨(Seamless.fill cursor).got, reader, input⟩⟩ :=
      if_neg (by simpa using hgot)
    rw [crossing_of_got hactive hheld rfl hgot, withInlet, ← hactive]
    rfl

theorem exists_withReader (cursor : Cursor Script) :
    ∃ reader input, cursor.withReader reader input = cursor := by
  obtain ⟨sources, phase, lineno, pending, world, journal⟩ := cursor
  cases phase with
  | active id held reader => exact ⟨reader, world.input, rfl⟩
  | idle => exact ⟨.standardInput, world.input, rfl⟩
  | exhausted => exact ⟨.standardInput, world.input, rfl⟩

theorem fill_fill (hfault : (Seamless.fill cursor).fault = none) :
    Seamless.fill (Seamless.fill cursor).next
      = ⟨(Seamless.fill cursor).got, none, (Seamless.fill cursor).next⟩ := by
  obtain ⟨reader, input, hsame⟩ := (Seamless.fill cursor).next.exists_withReader
  have hagain := fill_withReader hfault reader input
  rwa [hsame] at hagain

/-! ## The two views -/

/-- A fill and a byte read of the same cursor agree: on the first byte of the block, on the end of the stream, on
the failure and its kind and text, and, once a byte of the block is taken, on the cursor that is left. -/
structure ViewsAgree (cursor : Cursor Script) : Prop where
  byte : ∀ b, (∃ rest, (cursor.serve .fill).1 = .ok (.slice (b :: rest)))
    ↔ (cursor.serve (.common .readByte)).1 = .ok (.byte (some b))
  ended : (cursor.serve .fill).1 = .ok (.slice []) ↔ (cursor.serve (.common .readByte)).1 = .ok (.byte none)
  failed : ∀ failure, (cursor.serve .fill).1 = .error failure
    ↔ ∃ error, (cursor.serve (.common .readByte)).1 = .error (.source error)
      ∧ failure = .io (error.kind?.getD .other) error.message
  state : ((cursor.serve .fill).2.serve (.consume 1)).2 = (cursor.serve (.common .readByte)).2

theorem viewsAgree (h : cursor.HeldAlone) : cursor.ViewsAgree := by
  have hbyte : cursor.serve (.common .readByte)
      = (((Seamless.fill cursor).taking 1).orFault.map (Except.map List.head?) id).map
          (fun result => (result.map .byte).mapError .source) id := by
    rw [serve, perform, readByte_eq_taking h]
    rfl
  have hfill : cursor.serve .fill = (Seamless.fill cursor).answer := rfl
  rw [Delivery.taking] at hbyte
  generalize Seamless.fill cursor = delivery at hbyte hfill
  obtain ⟨got, _ | error, next⟩ := delivery
  · have hfilled : cursor.serve .fill = (.ok (.slice got), next) := hfill
    have hread : cursor.serve (.common .readByte)
        = (.ok (.byte (got.take 1).head?), Seamless.consume 1 next) := hbyte
    refine ⟨fun b => ?_, ?_, fun failure => ?_, ?_⟩
    · rw [hfilled, hread]
      cases got <;> simp
    · rw [hfilled, hread]
      cases got <;> simp
    · rw [hfilled, hread]
      simp
    · rw [hfilled, hread]
      rfl
  · have hfilled : cursor.serve .fill = (.error (.ofFault (.source error)), next) := hfill
    have hread : cursor.serve (.common .readByte)
        = (.error (.source error), Seamless.consume 1 next) := hbyte
    refine ⟨fun b => ?_, ?_, fun failure => ?_, ?_⟩
    · rw [hfilled, hread]
      simp
    · rw [hfilled, hread]
      simp
    · rw [hfilled, hread]
      simp only [Except.error.injEq, Failure.source.injEq, exists_eq_left']
      exact eq_comm
    · rw [hfilled, hread]
      rfl

end Cursor

/-- **The buffered view and the byte reads are one view.** After every run, a fill and a byte read agree
(`Cursor.ViewsAgree`). A block that was shown is shown again, and nothing changes, whatever reader is then behind
it and whatever is left of standard input: no reader is asked. And a plain read with some room gives what there is
room for of the block that a fill shows, takes that of it, and fails as the fill fails, if there is less room than
a block or some bytes are held. -/
theorem buffered_view_is_byte_view (world : World) (list : SourceList Script)
    (past : List BlockingOperation) :
    let cursor := Run.last Cursor.serve past (Cursor.ofList world list)
    let filled := cursor.serve .fill
    cursor.ViewsAgree
      ∧ (∀ slice, filled.1 = .ok (.slice slice) →
        filled.2.serve .fill = (.ok (.slice slice), filled.2)
          ∧ ∀ reader input, (filled.2.withReader reader input).serve .fill
            = (.ok (.slice slice), filled.2.withReader reader input))
      ∧ ∀ room, room ≠ 0 → room < blockSize ∨ cursor.block ≠ [] →
        (∀ slice, filled.1 = .ok (.slice slice) → cursor.serve (.plainRead room)
            = (.ok (.slice (slice.take room)), (filled.2.serve (.consume (min room slice.length))).2))
          ∧ ∀ failure, filled.1 = .error failure →
            cursor.serve (.plainRead room) = (.error failure, filled.2) := by
  intro cursor filled
  have halone : cursor.HeldAlone := Cursor.heldAlone_run world list past
  have hnext : filled.2 = (Seamless.fill cursor).next := Delivery.answer_snd _
  refine ⟨Cursor.viewsAgree halone, fun slice hslice => ?_, fun room hroom hbuffered => ?_⟩
  · obtain ⟨hfault, rfl⟩ := Delivery.answer_eq_slice_iff.1 hslice
    rw [hnext]
    refine ⟨?_, fun reader input => ?_⟩
    · rw [Cursor.serve, Cursor.fill_fill hfault]
      rfl
    · rw [Cursor.serve, Cursor.fill_withReader hfault]
      rfl
  · have hread : cursor.serve (.plainRead room) = ((Seamless.fill cursor).taking room).answer := by
      rw [Cursor.serve, Cursor.read_eq_taking halone hroom hbuffered]
    rw [hread, hnext]
    refine ⟨fun slice hslice => ?_, fun failure hfailure => ?_⟩
    · obtain ⟨hfault, rfl⟩ := Delivery.answer_eq_slice_iff.1 hslice
      rw [Delivery.taking, hfault, Cursor.serve, ← Cursor.block_fill hfault, Cursor.consume_min]
      rfl
    · obtain ⟨error, hfault, rfl⟩ := Delivery.answer_eq_error_iff.1 hfailure
      have hblock := Cursor.block_fill_of_fault halone (by rw [hfault]; rfl)
      rw [Delivery.taking, hfault, Cursor.consume_of_block hblock]
      rfl

end InputChain
