import InputChain.Proofs.Events
import InputChain.Proofs.HeldFailure

/-!
# Nothing is lost

What a caller reads byte by byte, block by block or to the end is what the sources bring, in their
order: no byte and no failure is lost, repeated or moved. What is still to come of a cursor is the held
failure, the rest of the open source and what the sources behind it bring; every read takes its front.

* `Cursor.toCome`: what is still to come.
* `Delivery.Conveys`, `Cursor.conveys_readUnit`, `Cursor.conveys_gather`, `Cursor.conveys_gatherRest`:
  a delivery gives the front of what is to come.
* `ByteRead`, `Cursor.bring`, `Brought`: the reads of bytes, and what each brings.
* **`Cursor.serves_bring`**, `Cursor.toCome_run`: one read, and a run of reads.
* **`delivered_in_order`**: what is delivered is what the sources bring, from the front.
-/

namespace InputChain

open Stream' (Seq)

theorem append_eq_nil {events : List Event} {later : Seq Event}
    (h : .nil = (Seq.ofList events).append later) : events = [] ∧ later = .nil := by
  cases events with
  | nil => exact ⟨rfl, (h.trans (Seq.nil_append later)).symm⟩
  | cons event events =>
    rw [Seq.ofList_cons, Seq.cons_append] at h
    exact absurd h Seq.nil_ne_cons

namespace Cursor

variable {cursor : Cursor Script}

/-! ## What is still to come -/

/-- What the sources still bring: the rest of the open source, and the sources behind it. -/
def onward (cursor : Cursor Script) : Seq Event :=
  match cursor.phase with
  | .exhausted => .nil
  | .idle => arrivals cursor.world.files cursor.remaining
  | .active id held reader =>
    (Inlet.events id ⟨held, reader, cursor.world.input⟩).append
      (arrivals cursor.world.files cursor.remaining)

/-- The held failure as an event. -/
def heldEvents (cursor : Cursor Script) : List Event :=
  eventsOf [] cursor.pending

/-- What is still to come: the held failure, then what the sources still bring. -/
def toCome (cursor : Cursor Script) : Seq Event :=
  (Seq.ofList cursor.heldEvents).append cursor.onward

/-- The sources are steady, and so is the open reader. -/
structure Steady (cursor : Cursor Script) : Prop where
  sources : ∀ source ∈ cursor.remaining, source.Steady
  reader : ∀ {id held reader}, cursor.phase = .active id held reader → reader.Steady

theorem toCome_of_pending (hpending : cursor.pending = none) : cursor.toCome = cursor.onward := by
  rw [toCome, heldEvents, hpending]
  exact Seq.nil_append _

theorem onward_idle (hphase : cursor.phase = .idle) :
    cursor.onward = arrivals cursor.world.files cursor.remaining := by
  rw [onward, hphase]

theorem onward_active {id : String} {held : Bytes} {reader : Reader Script}
    (hphase : cursor.phase = .active id held reader) :
    cursor.onward = (Inlet.events id ⟨held, reader, cursor.world.input⟩).append
      (arrivals cursor.world.files cursor.remaining) := by
  rw [onward, hphase]

theorem Steady.enter {source : Source Script} {rest : SourceList Script} {reader : Reader Script}
    (h : cursor.Steady) (hremaining : cursor.remaining = source :: rest.remaining)
    (hopen : source.provider.opened cursor.world.files = .ok reader) :
    (cursor.enter source.id reader rest).Steady where
  sources source hsource := h.sources source (hremaining ▸ List.mem_cons_of_mem _ hsource)
  reader hactive := by
    cases hactive
    exact (h.sources source (hremaining ▸ List.mem_cons_self)).opened hopen

/-! ## One unit -/

section Unit

variable {taken : Bytes → Bytes} {unit : Inlet Script → Reply (Inlet Script)}
  (hunit : Faithful taken unit)

include hunit

theorem Steady.withInlet {id : String} {held : Bytes} {reader : Reader Script}
    (h : cursor.Steady) (hphase : cursor.phase = .active id held reader) :
    (cursor.withInlet id (unit ⟨held, reader, cursor.world.input⟩).next).Steady where
  sources := h.sources
  reader hactive := by
    cases hactive
    exact hunit.steady (h.reader hphase)

theorem Steady.crossing (h : cursor.Steady) : (cursor.crossing unit).next.Steady := by
  fun_induction Cursor.crossing unit cursor with
  | case1 => exact h
  | case2 cursor id held reader hphase => exact h.withInlet hunit hphase
  | case3 cursor id held reader hphase _ _ _ _ _ ih =>
    exact ih ⟨(h.withInlet hunit hphase).sources, fun hactive => by cases hactive⟩
  | case4 cursor id held reader hphase => exact h.withInlet hunit hphase
  | case5 cursor => exact ⟨h.sources, fun hactive => by cases hactive⟩
  | case6 cursor hphase source rest hnext =>
    have hremaining : cursor.remaining = source :: rest.remaining :=
      SourceList.remaining_next? hnext
    refine ⟨fun source hsource => h.sources source ?_, fun hactive => ?_⟩
    · exact hremaining ▸ List.mem_cons_of_mem _ hsource
    · cases hphase.symm.trans hactive
  | case7 cursor hphase source rest hnext reader hopen _ ih =>
    exact ih (h.enter (SourceList.remaining_next? hnext) hopen)

/-- A unit is the front of what the sources still bring. -/
theorem onward_crossing (htaken : taken [] = []) (h : cursor.Steady) :
    cursor.onward
      = (Seq.ofList (eventsOf (taken (cursor.crossing unit).got) (cursor.crossing unit).fault)).append
          (cursor.crossing unit).next.onward := by
  fun_induction Cursor.crossing unit cursor with
  | case1 cursor =>
    rw [Findable.nothing_bytes, htaken]
    exact (Seq.nil_append _).symm
  | case2 cursor id held reader hphase reply cursor' error hfault =>
    rw [onward_active hphase, hunit.append id (h.reader hphase), hfault, Seq.append_assoc]
    rfl
  | case3 cursor id held reader hphase reply cursor' hfault hgot _ ih =>
    rw [onward_active hphase, hunit.ended id (h.reader hphase) (List.isEmpty_iff.1 hgot) hfault,
      Seq.nil_append]
    exact ih ⟨h.sources, fun hactive => by cases hactive⟩
  | case4 cursor id held reader hphase reply cursor' hfault hgot =>
    rw [onward_active hphase, hunit.append id (h.reader hphase), hfault, Seq.append_assoc]
    rfl
  | case5 cursor hphase hnext =>
    have hnil : cursor.remaining = [] := SourceList.remaining_next?_none hnext
    rw [onward_idle hphase, hnil, Findable.nothing_bytes, htaken]
    exact (Seq.nil_append _).symm
  | case6 cursor hphase source rest hnext error hopen =>
    have hremaining : cursor.remaining = source :: rest.remaining :=
      SourceList.remaining_next? hnext
    rw [onward_idle hphase, hremaining, arrivals_cons, Source.events, hopen, Findable.nothing_bytes,
      htaken, eventsOf_nil_some, append_singleton, Seq.cons_append, Seq.nil_append]
    exact congrArg (Seq.cons _) (@onward_idle (cursor.refuse rest) hphase).symm
  | case7 cursor hphase source rest hnext reader hopen _ ih =>
    have hremaining : cursor.remaining = source :: rest.remaining :=
      SourceList.remaining_next? hnext
    rw [onward_idle hphase, hremaining, arrivals_cons, Source.events, hopen]
    rw [← ih (h.enter hremaining hopen)]
    exact congrArg (Seq.append · _) (@Inlet.events_of_held ⟨[], reader, cursor.world.input⟩ _ rfl).symm

/-- Where a unit gives nothing, the sources bring nothing any more. -/
theorem onward_crossing_ended (htaken : taken [] = []) (h : cursor.Steady)
    (hgot : (cursor.crossing unit).got = []) (hfault : (cursor.crossing unit).fault = none) :
    cursor.onward = .nil := by
  rw [onward_crossing hunit htaken h, hgot, hfault, htaken, onward,
    phase_crossing_of_end hgot hfault]
  exact Seq.nil_append _

end Unit

end Cursor

/-- A delivery gives the front of what is to come of a cursor, and leaves the rest. Of the bytes it
gives, `taken` are gone from the cursor. -/
structure Delivery.Conveys (taken : Bytes → Bytes) (cursor : Cursor Script)
    (delivery : Delivery Script) : Prop where
  steady : delivery.next.Steady
  append : cursor.toCome
    = (Seq.ofList (eventsOf (taken delivery.got) delivery.fault)).append delivery.next.toCome

/-- Bytes in front of a delivery were the front of what was to come before. -/
theorem Delivery.Conveys.after {cursor : Cursor Script} {first delivery : Delivery Script}
    (hfirst : first.Conveys id cursor) (hfault : first.fault = none)
    (h : delivery.Conveys id first.next) : (delivery.after first.got).Conveys id cursor where
  steady := h.steady
  append := by
    rw [hfirst.append, h.append, hfault, eventsOf_none, ← Seq.append_assoc, ← Seq.ofList_append]
    exact congrArg (fun front => (Seq.ofList front).append _) (eventsOf_append ..).symm

namespace Cursor

variable {cursor : Cursor Script} {taken : Bytes → Bytes}
  {unit : Inlet Script → Reply (Inlet Script)}

theorem conveys_readUnit (hunit : Faithful taken unit) (htaken : taken [] = [])
    (h : cursor.Steady) : (cursor.readUnit unit).Conveys taken cursor := by
  cases hpending : cursor.pending with
  | some error =>
    rw [readUnit_of_pending hpending]
    refine ⟨⟨h.sources, h.reader⟩, ?_⟩
    rw [htaken, toCome, heldEvents, hpending]
    exact congrArg _ (Seq.nil_append _).symm
  | none =>
    have hnext : (cursor.crossing unit).next.pending = none :=
      (pending_crossing cursor).trans hpending
    rw [readUnit_of_none hpending]
    refine ⟨h.crossing hunit, ?_⟩
    rw [toCome_of_pending hpending, toCome_of_pending hnext]
    exact onward_crossing hunit htaken h

theorem toCome_readUnit_ended (hunit : Faithful taken unit) (htaken : taken [] = [])
    (h : cursor.Steady) (hgot : (cursor.readUnit unit).got = [])
    (hfault : (cursor.readUnit unit).fault = none) : cursor.toCome = .nil := by
  cases hpending : cursor.pending with
  | some error =>
    rw [readUnit_of_pending hpending] at hfault
    cases hfault
  | none =>
    rw [readUnit_of_none hpending] at hgot hfault
    rw [toCome_of_pending hpending]
    exact onward_crossing_ended hunit htaken h hgot hfault

/-! ## Several units -/

theorem conveys_gather {count : Nat} (h : cursor.Steady) :
    (cursor.gather count).Conveys id cursor := by
  fun_induction gather count cursor with
  | case1 cursor => exact ⟨h, (Seq.nil_append _).symm⟩
  | case2 count cursor hcount => exact conveys_readUnit (Inlet.faithful_takeUpTo hcount) rfl h
  | case3 count cursor hcount delivery hgot _ ih =>
    have hfirst := conveys_readUnit (Inlet.faithful_takeUpTo hcount) rfl h
    refine hfirst.after ?_ (ih hfirst.steady)
    by_contra hfault
    obtain ⟨error, herror⟩ := Option.ne_none_iff_exists'.1 hfault
    exact hgot (got_readUnit_of_fault (fun _ _ => Inlet.got_takeUpTo_of_fault) herror)

theorem toCome_gather_ended {count : Nat} (hcount : count ≠ 0) (h : cursor.Steady)
    (hgot : (cursor.gather count).got = []) (hfault : (cursor.gather count).fault = none) :
    cursor.toCome = .nil := by
  by_cases hunit : (cursor.readUnit (Inlet.takeUpTo count)).got = []
  · rw [gather_of_nil hcount hunit] at hgot hfault
    exact toCome_readUnit_ended (Inlet.faithful_takeUpTo hcount) rfl h hgot hfault
  · rw [gather_of_got hcount hunit] at hgot
    exact absurd (List.append_eq_nil_iff.1 hgot).1 hunit

theorem conveys_gatherRest (h : cursor.Steady) : cursor.gatherRest.Conveys id cursor := by
  fun_induction gatherRest cursor with
  | case1 cursor => exact conveys_readUnit Inlet.faithful_readRest rfl h
  | case2 cursor => exact conveys_readUnit Inlet.faithful_readRest rfl h
  | case3 cursor delivery hfault hgot _ ih =>
    have hfirst := conveys_readUnit Inlet.faithful_readRest rfl h
    exact hfirst.after (Option.not_isSome_iff_eq_none.1 hfault) (ih hfirst.steady)

/-- What is read to the end without a failure is all that was to come. -/
theorem toCome_gatherRest_ended (h : cursor.Steady) (hfault : cursor.gatherRest.fault = none) :
    cursor.gatherRest.next.toCome = .nil := by
  fun_induction gatherRest cursor with
  | case1 cursor delivery hsome => exact absurd hsome (by rw [hfault]; exact Bool.noConfusion)
  | case2 cursor delivery hsome hgot =>
    have hnil := toCome_readUnit_ended Inlet.faithful_readRest rfl h hgot hfault
    exact (append_eq_nil (hnil ▸ (conveys_readUnit Inlet.faithful_readRest rfl h).append)).2
  | case3 cursor delivery _ hgot _ ih =>
    exact ih (conveys_readUnit Inlet.faithful_readRest rfl h).steady hfault

theorem toCome_gatherRest_nil (h : cursor.Steady) (hgot : cursor.gatherRest.got = [])
    (hfault : cursor.gatherRest.fault = none) : cursor.toCome = .nil := by
  rw [(conveys_gatherRest h).append, hgot, hfault, toCome_gatherRest_ended h hfault]
  exact Seq.nil_append _

end Cursor

/-! ## The reads of bytes -/

/-- The reads that leave no bytes out. -/
inductive ByteRead where
  /-- At most so many bytes; without a number, everything left. -/
  | read (count : Option Nat)
  | readToEnd
  | readByte
  /-- One plain read of the seamless view with this room. -/
  | plainRead (room : Nat)
  /-- The bytes held, of which at most so many are then consumed. -/
  | fillConsume (count : Nat)
  deriving DecidableEq, Repr

/-- What a read brought its caller, and whether it reported the end of the stream. -/
structure Brought where
  events : List Event
  ended : Bool
  deriving DecidableEq, Repr

namespace Brought

/-- What a result brought, by the bytes in it and by whether it reports the end. -/
def ofResult {α : Type} (bytesOf : α → Bytes) (reportsEnd : α → Bool) :
    Except SourceError α → Brought
  | .ok result => ⟨(bytesOf result).map .byte, reportsEnd result⟩
  | .error error => ⟨[.fault error], false⟩

/-- What a delivery of the seamless view brought a caller who takes these bytes. -/
def ofDelivery (taken : Bytes) (delivery : Delivery Script) : Brought :=
  ⟨eventsOf taken delivery.fault, delivery.got.isEmpty && delivery.fault.isNone⟩

end Brought

namespace Cursor

/-- The cursor serves a read of bytes. -/
def bring (read : ByteRead) (cursor : Cursor Script) : Brought × Cursor Script :=
  match read with
  | .read (some count) =>
    (cursor.read count).map (.ofResult (Option.getD · []) Option.isNone) id
  | .read none => cursor.readToEnd.map (.ofResult id List.isEmpty) id
  | .readToEnd => cursor.readToEnd.map (.ofResult id List.isEmpty) id
  | .readByte => cursor.readByte.map (.ofResult Option.toList Option.isNone) id
  | .plainRead room =>
    let delivery := Seamless.read room cursor
    if room = 0 then (⟨[], false⟩, delivery.next)
    else (.ofDelivery delivery.got delivery, delivery.next)
  | .fillConsume count =>
    let delivery := Seamless.fill cursor
    if delivery.fault.isSome then (.ofDelivery [] delivery, delivery.next)
    else (.ofDelivery (delivery.got.take count) delivery, Seamless.consume count delivery.next)

variable {cursor : Cursor Script}

/-- A read gives the front of what is to come and leaves the rest; if it reports the end, nothing was
to come. -/
structure Serves (cursor : Cursor Script) (step : Brought × Cursor Script) : Prop where
  steady : step.2.Steady
  append : cursor.toCome = (Seq.ofList step.1.events).append step.2.toCome
  ended : step.1.ended → cursor.toCome = .nil

/-- A failure that is held back is still to come. -/
theorem serves_holdBack {delivery : Delivery Script} {α : Type} {result : Bytes → α}
    {bytesOf : α → Bytes} {reportsEnd : α → Bool}
    (hconveys : delivery.Conveys id cursor) (hnext : delivery.next.pending = none)
    (hbytes : ∀ got, bytesOf (result got) = got)
    (hend : ∀ got, reportsEnd (result got) = got.isEmpty)
    (hended : delivery.got = [] → delivery.fault = none → cursor.toCome = .nil) :
    Serves cursor
      (.ofResult bytesOf reportsEnd (delivery.holdBack.1.map result), delivery.holdBack.2) := by
  obtain ⟨got, fault, next⟩ := delivery
  have happend := hconveys.append
  have hevents : (bytesOf (result got)).map Event.byte = got.map .byte := by rw [hbytes]
  cases fault with
  | none =>
    refine ⟨hconveys.steady, ?_, fun h => ?_⟩
    · refine happend.trans (congrArg (fun events => (Seq.ofList events).append _) ?_)
      exact (eventsOf_none got).trans hevents.symm
    · exact hended (List.isEmpty_iff.1 ((hend got).symm.trans h)) rfl
  | some error =>
    cases got with
    | nil => exact ⟨hconveys.steady, happend, Bool.noConfusion⟩
    | cons b rest =>
      refine ⟨⟨hconveys.steady.sources, hconveys.steady.reader⟩, ?_, fun h => ?_⟩
      · rw [happend, toCome_of_pending hnext, eventsOf, Seq.ofList_append, Seq.append_assoc]
        exact congrArg (fun events => (Seq.ofList events).append _) hevents.symm
      · cases (hend (b :: rest)).symm.trans h

theorem serves_ofDelivery {delivery : Delivery Script} (hconveys : delivery.Conveys id cursor)
    (hended : delivery.got = [] → delivery.fault = none → cursor.toCome = .nil) :
    Serves cursor (.ofDelivery delivery.got delivery, delivery.next) := by
  refine ⟨hconveys.steady, hconveys.append, fun h => ?_⟩
  obtain ⟨hgot, hfault⟩ := Bool.and_eq_true_iff.1 h
  exact hended (List.isEmpty_iff.1 hgot) (Option.isNone_iff_eq_none.1 hfault)

theorem serves_readByte (h : cursor.Steady) : Serves cursor (cursor.bring .readByte) := by
  have hunit := Inlet.faithful_takeUpTo (Nat.succ_ne_zero 0)
  have hconveys := conveys_readUnit hunit rfl h
  have hended := toCome_readUnit_ended hunit rfl h
  have hlost : ∀ error, (cursor.readUnit (Inlet.takeUpTo 1)).fault = some error →
      (cursor.readUnit (Inlet.takeUpTo 1)).got = [] :=
    fun error => got_readUnit_of_fault fun _ _ => Inlet.got_takeUpTo_of_fault
  have hlength : (cursor.readUnit (Inlet.takeUpTo 1)).got.length ≤ 1 :=
    length_got_readUnit fun inlet => inlet.length_got_takeUpTo 1
  rw [bring, readByte]
  generalize cursor.readUnit (Inlet.takeUpTo 1) = delivery at *
  obtain ⟨got, _ | error, next⟩ := delivery
  · rcases got with _ | ⟨b, _ | ⟨b', got⟩⟩
    · exact ⟨hconveys.steady, hconveys.append, fun _ => hended rfl rfl⟩
    · exact ⟨hconveys.steady, hconveys.append, Bool.noConfusion⟩
    · simp at hlength
  · obtain rfl : got = [] := hlost error rfl
    exact ⟨hconveys.steady, hconveys.append, Bool.noConfusion⟩

/-- The bytes held in front of the open reader. -/
def block (cursor : Cursor Script) : Bytes :=
  match cursor.phase with
  | .active _ held _ => held
  | _ => []

/-- After a fill that does not fail, its bytes are the ones held. -/
theorem block_fill (hfault : (Seamless.fill cursor).fault = none) :
    (Seamless.fill cursor).next.block = (Seamless.fill cursor).got := by
  by_cases hgot : (Seamless.fill cursor).got = []
  · have hphase : (Seamless.fill cursor).next.phase = .exhausted := by
      unfold Seamless.fill readUnit at hgot hfault ⊢
      split at hfault
      · cases hfault
      · rename_i hpending
        rw [hpending] at hgot
        exact phase_crossing_of_end hgot hfault
    rw [block, hphase, hgot]
  · obtain ⟨id, reader, hphase⟩ := Seamless.phase_fill hfault hgot
    rw [block, hphase]

theorem pending_consume (count : Nat) (cursor : Cursor Script) :
    (Seamless.consume count cursor).pending = cursor.pending := by
  unfold Seamless.consume
  split <;> rfl

/-- Consuming bytes that are held gives them. -/
theorem toCome_consume (hpending : cursor.pending = none) (count : Nat) :
    cursor.toCome = (Seq.ofList ((cursor.block.take count).map .byte)).append
      (Seamless.consume count cursor).toCome := by
  rw [toCome_of_pending hpending, toCome_of_pending ((pending_consume count cursor).trans hpending)]
  unfold Seamless.consume block
  match hphase : cursor.phase with
  | .idle => rw [List.take_nil]; exact (Seq.nil_append _).symm
  | .exhausted => rw [List.take_nil]; exact (Seq.nil_append _).symm
  | .active id held reader =>
    rw [onward_active hphase, Inlet.events_consume id count, Seq.append_assoc]
    rfl

theorem Steady.consume (h : cursor.Steady) (count : Nat) :
    (Seamless.consume count cursor).Steady := by
  unfold Seamless.consume
  split
  · rename_i hphase
    refine ⟨h.sources, fun hactive => ?_⟩
    cases hactive
    exact h.reader hphase
  · exact h

theorem serves_fillConsume (h : cursor.Steady) (count : Nat) :
    Serves cursor (cursor.bring (.fillConsume count)) := by
  have hconveys : (Seamless.fill cursor).Conveys _ cursor :=
    conveys_readUnit Inlet.faithful_fill rfl h
  have hpending : (Seamless.fill cursor).next.pending = none := pending_readUnit cursor
  have hended : (Seamless.fill cursor).got.isEmpty && (Seamless.fill cursor).fault.isNone →
      cursor.toCome = .nil := by
    intro hend
    obtain ⟨hgot, hfault⟩ := Bool.and_eq_true_iff.1 hend
    exact toCome_readUnit_ended Inlet.faithful_fill rfl h (List.isEmpty_iff.1 hgot)
      (Option.isNone_iff_eq_none.1 hfault)
  unfold bring
  by_cases hfault : (Seamless.fill cursor).fault.isSome
  · simp only [if_pos hfault]
    exact ⟨hconveys.steady, hconveys.append, hended⟩
  · simp only [if_neg hfault]
    have hnone := Option.not_isSome_iff_eq_none.1 hfault
    refine ⟨hconveys.steady.consume count, ?_, hended⟩
    rw [hconveys.append, toCome_consume hpending count, block_fill hnone, Brought.ofDelivery, hnone,
      eventsOf_none, eventsOf_none]
    exact Seq.nil_append _

/-- **Every read of bytes gives the front of what is to come.** -/
theorem serves_bring (h : cursor.Steady) (read : ByteRead) : Serves cursor (cursor.bring read) := by
  have hrest : Serves cursor (cursor.readToEnd.map (.ofResult id List.isEmpty) id) := by
    have hserves := @serves_holdBack cursor cursor.gatherRest Bytes id id List.isEmpty
      (conveys_gatherRest h) pending_gatherRest (fun _ => rfl) (fun _ => rfl)
      (toCome_gatherRest_nil h)
    rwa [Except.map_id] at hserves
  match read with
  | .read (some count) =>
    by_cases hcount : count = 0
    · subst hcount
      exact ⟨h, (Seq.nil_append _).symm, Bool.noConfusion⟩
    · rw [bring, Cursor.read, if_neg hcount]
      refine serves_holdBack (conveys_gather h) (pending_gather hcount) (fun got => ?_)
        (fun got => ?_) (toCome_gather_ended hcount h)
      · cases got <;> rfl
      · cases got <;> rfl
  | .read none => exact hrest
  | .readToEnd => exact hrest
  | .readByte => exact serves_readByte h
  | .plainRead room =>
    by_cases hroom : room = 0
    · subst hroom
      exact ⟨h, (Seq.nil_append _).symm, Bool.noConfusion⟩
    · have hunit := Inlet.faithful_read hroom
      simp only [bring, if_neg hroom, Seamless.read]
      exact serves_ofDelivery (conveys_readUnit hunit rfl h) (toCome_readUnit_ended hunit rfl h)
  | .fillConsume count => exact serves_fillConsume h count

/-! ## Runs -/

/-- What a run of reads brought its caller, in the order of the reads. -/
def brought (reads : List ByteRead) (cursor : Cursor Script) : List Event :=
  (Run.trace bring reads cursor).flatMap fun step => step.1.events

/-- A run of reads gives the front of what is to come. -/
theorem toCome_run (reads : List ByteRead) (h : cursor.Steady) :
    cursor.toCome
      = (Seq.ofList (cursor.brought reads)).append (Run.last bring reads cursor).toCome := by
  induction reads generalizing cursor with
  | nil => exact (Seq.nil_append _).symm
  | cons read rest ih =>
    have hserves := serves_bring h read
    have hrest := ih hserves.steady
    rw [hserves.append, hrest, ← Seq.append_assoc, ← Seq.ofList_append]
    rfl

/-- After the end of the stream was reported, nothing is to come. -/
theorem toCome_run_ended (reads : List ByteRead) (h : cursor.Steady)
    {step : Brought × Cursor Script} (hstep : step ∈ Run.trace bring reads cursor)
    (hended : step.1.ended) : (Run.last bring reads cursor).toCome = .nil := by
  induction reads generalizing cursor with
  | nil => cases hstep
  | cons read rest ih =>
    have hserves := serves_bring h read
    rcases List.mem_cons.1 hstep with rfl | hstep
    · have hnil := toCome_run (read :: rest) h
      rw [hserves.ended hended] at hnil
      exact (append_eq_nil hnil).2
    · exact ih hserves.steady hstep

end Cursor

/-- **No byte and no failure is lost, repeated or moved.** What a run of reads delivered, and then
the failure still held if there is one, is the front of what the sources bring in the order of the
list; and it is all of it once the end of the stream has been reported. -/
theorem delivered_in_order (world : World) (list : SourceList Script)
    (hsteady : ∀ source ∈ list.remaining, source.Steady) (reads : List ByteRead) :
    let cursor := Cursor.ofList world list
    let last := Run.last Cursor.bring reads cursor
    let delivered := cursor.brought reads ++ last.heldEvents
    (∃ later, arrivals world.files list.remaining = (Seq.ofList delivered).append later)
      ∧ ((∃ step ∈ Run.trace Cursor.bring reads cursor, step.1.ended = true) →
          arrivals world.files list.remaining = Seq.ofList delivered) := by
  intro cursor last delivered
  have hcursor : cursor.Steady := ⟨hsteady, fun hactive => nomatch hactive⟩
  have hrun : arrivals world.files list.remaining
      = (Seq.ofList delivered).append last.onward := by
    rw [Seq.ofList_append, Seq.append_assoc]
    exact (Cursor.toCome_of_pending rfl).symm.trans (Cursor.toCome_run reads hcursor)
  refine ⟨⟨last.onward, hrun⟩, fun ⟨step, hstep, hended⟩ => ?_⟩
  have hnil := Cursor.toCome_run_ended reads hcursor hstep hended
  rw [hrun, (append_eq_nil hnil.symm).2, Seq.append_nil]

/-- A reader that fails between two bytes, and a source that cannot be opened. -/
theorem delivered_in_order_past_failures :
    let failing : Script := ⟨[.bytes [97], .fault (.bare .other), .bytes [98]], none⟩
    let list := SourceList.ofList [⟨"a", .scripted "a" (.ok failing)⟩,
      ⟨"b", .scripted "b" (.error (.bare .notFound))⟩, ⟨"c", .memory "c" [99]⟩]
    let reads := [.read (some 9), .readByte, .fillConsume 1, .readToEnd, .plainRead 4, .readByte]
    (∀ source ∈ list.remaining, source.Steady)
      ∧ (Cursor.ofList {} list).brought reads = [.byte 97, .fault (.ofReading "a" (.bare .other)),
          .byte 98, .fault (.ofOpening "b" (.bare .notFound)), .byte 99]
      ∧ arrivals {} list.remaining = Seq.ofList ((Cursor.ofList {} list).brought reads) := by
  intro failing list reads
  have hsteady : ∀ source ∈ list.remaining, source.Steady := by
    have hfailing : failing.Steady :=
      .of_no_end (by decide) fun error herror => by
        have : IoError.bare .other = error := by simpa [failing, eq_comm] using herror
        rw [← this]
        rfl
    simp [list, SourceList.remaining_ofList, Source.Steady, hfailing]
  refine ⟨hsteady, by decide +kernel, ?_⟩
  have hall := (delivered_in_order {} list hsteady reads).2 (by decide +kernel)
  exact hall.trans (congrArg Seq.ofList (by decide +kernel))

end InputChain
