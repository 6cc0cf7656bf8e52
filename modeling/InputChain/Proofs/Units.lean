import InputChain.Cursor.Bytes
import InputChain.Cursor.Lines

/-!
# Units, case by case

* `Reply.after`: a reply with bytes in front.
* `Inlet.got_fill_of_fault` and its like: a request that fails gives no bytes.
* `Inlet.readUntil_of_end`, `Inlet.readUntil_of_stop`, `Inlet.readUntil_of_block`: how a line is
  read, by what the next block is.
* `Inlet.takeUpTo_of_nil`, `Inlet.readUntil_of_nil`: a unit that gives nothing is a request.
* `Cursor.crossing_of_fault` and its like: how a unit is looked for, by where the cursor stands.
* `Cursor.gather_of_got`, `Cursor.gatherRest_of_more` and their like: how units are gathered.
* `Delivery.asText`, **`Cursor.crossing_readText`**: to decode a line where it is found is to decode what is found.
* `Cursor.readLine_of_text`, `Cursor.readLineBytes_of_line` and their like: what becomes of a line.
-/

namespace InputChain

/-- A reply with bytes in front. -/
def Reply.after {σ : Type} (out : Bytes) (reply : Reply σ) : Reply σ :=
  { reply with got := out ++ reply.got }

theorem Reply.after_after {σ : Type} (first second : Bytes) (reply : Reply σ) :
    (reply.after second).after first = reply.after (first ++ second) := by
  simp only [Reply.after, List.append_assoc]

@[simp] theorem Delivery.after_nil {σ : Type} (delivery : Delivery σ) :
    delivery.after [] = delivery := rfl

theorem Delivery.after_after {σ : Type} (first second : Bytes) (delivery : Delivery σ) :
    (delivery.after second).after first = delivery.after (first ++ second) := by
  simp only [Delivery.after, List.append_assoc]

/-! ## A request that fails gives no bytes -/

theorem Script.got_read_of_fault {room : Nat} {script : Script} {error : IoError}
    (h : (script.read room).fault = some error) : (script.read room).got = [] := by
  unfold read at h ⊢
  split
  · rfl
  · split <;> rename_i hanswers
    · rfl
    · rfl
    · split at h
      · cases h
      · simp only [hanswers] at h
        split at h <;> cases h

namespace Inlet

theorem got_pullBy_of_fault {request : Script → Reply Script} {room : Nat} {inlet : Inlet Script} {error : IoError}
    (hrequest : ∀ script, (request script).fault = some error → (request script).got = [])
    (h : (inlet.pullBy request room).fault = some error) : (inlet.pullBy request room).got = [] := by
  obtain ⟨held, script | _, input⟩ := inlet
  · exact hrequest script h
  · cases h

theorem got_pull_of_fault {room : Nat} {inlet : Inlet Script} {error : IoError}
    (h : (inlet.pull room).fault = some error) : (inlet.pull room).got = [] :=
  got_pullBy_of_fault (fun _ => Script.got_read_of_fault) h

theorem got_pullThrough_of_fault {room : Nat} {inlet : Inlet Script} {error : IoError}
    (h : (inlet.pullThrough room).fault = some error) : (inlet.pullThrough room).got = [] :=
  got_pullBy_of_fault (fun _ => Script.got_read_of_fault) h

theorem got_fillBy_of_fault {request : Inlet Script → Reply (Inlet Script)}
    (hrequest : ∀ inlet error, (request inlet).fault = some error → (request inlet).got = [])
    {inlet : Inlet Script} {error : IoError} (h : (inlet.fillBy request).fault = some error) :
    (inlet.fillBy request).got = [] := by
  unfold fillBy at h ⊢
  split
  · rename_i hheld
    rw [if_pos hheld] at h
    exact hrequest inlet error h
  · rename_i hheld
    rw [if_neg hheld] at h
    cases h

/-- A block that is not there was asked for. -/
theorem fillBy_of_nil {request : Inlet Script → Reply (Inlet Script)}
    (hrequest : ∀ inlet, (request inlet).next.held = inlet.held) {inlet : Inlet Script}
    (hgot : (inlet.fillBy request).got = []) :
    inlet.held = [] ∧ inlet.fillBy request = request inlet := by
  unfold fillBy at hgot ⊢
  by_cases hheld : inlet.held.isEmpty
  · rw [if_pos hheld] at hgot ⊢
    have hnil := List.isEmpty_iff.1 hheld
    have hnext : (request inlet).got = (request inlet).next.held :=
      hgot.trans (hnil.symm.trans (hrequest inlet).symm)
    refine ⟨hnil, ?_⟩
    generalize request inlet = reply at hnext ⊢
    obtain ⟨got, fault, held, reader, input⟩ := reply
    obtain rfl : got = held := hnext
    rfl
  · rw [if_neg hheld] at hgot
    exact absurd (List.isEmpty_iff.2 hgot) hheld

theorem got_fill_of_fault {inlet : Inlet Script} {error : IoError}
    (h : inlet.fill.fault = some error) : inlet.fill.got = [] :=
  got_fillBy_of_fault (fun _ _ => got_pull_of_fault) h

theorem got_takeUpTo_of_fault {count : Nat} {inlet : Inlet Script} {error : IoError}
    (h : (inlet.takeUpTo count).fault = some error) : (inlet.takeUpTo count).got = [] := by
  simp only [takeUpTo] at h ⊢
  rw [got_fill_of_fault h, List.take_nil]

/-- A unit of bytes that gives none is a request, with nothing held before. -/
theorem takeUpTo_of_nil {count : Nat} (hcount : count ≠ 0) {inlet : Inlet Script}
    (hgot : (inlet.takeUpTo count).got = []) :
    inlet.held = [] ∧ inlet.takeUpTo count = inlet.pull blockSize := by
  have hnil : inlet.fill.got = [] := (List.take_eq_nil_iff.1 hgot).resolve_left hcount
  obtain ⟨hheld, hfill⟩ := fillBy_of_nil (fun inlet => held_pull blockSize inlet) hnil
  have hpull : inlet.fill = inlet.pull blockSize := hfill
  have hempty : (inlet.pull blockSize).next.held = [] := (held_pull blockSize inlet).trans hheld
  rw [hpull] at hnil
  refine ⟨hheld, ?_⟩
  rw [takeUpTo, hpull]
  generalize inlet.pull blockSize = reply at hnil hempty ⊢
  obtain ⟨got, fault, held, reader, input⟩ := reply
  obtain rfl : got = [] := hnil
  obtain rfl : held = [] := hempty
  simp only [consume, List.take_nil, List.drop_nil]

theorem got_read_of_fault {room : Nat} {inlet : Inlet Script} {error : IoError}
    (h : (inlet.read room).fault = some error) : (inlet.read room).got = [] := by
  unfold Inlet.read at h ⊢
  split
  · rename_i hpast
    rw [if_pos hpast] at h
    exact got_pull_of_fault h
  · rename_i hpast
    rw [if_neg hpast] at h
    exact got_takeUpTo_of_fault h

theorem length_got_takeUpTo (count : Nat) (inlet : Inlet Script) :
    (inlet.takeUpTo count).got.length ≤ count :=
  List.length_take_le ..

theorem got_fillThrough_of_fault {inlet : Inlet Script} {error : IoError}
    (h : inlet.fillThrough.fault = some error) : inlet.fillThrough.got = [] :=
  got_fillBy_of_fault (fun _ _ => got_pullThrough_of_fault) h

/-- Where a request made again is the first request, so is the asking for a block. -/
theorem fillThrough_eq_fill {inlet : Inlet Script}
    (hread : ∀ script, inlet.reader = .script script → script.readThrough blockSize = script.read blockSize) :
    inlet.fillThrough = inlet.fill := by
  have hpull : inlet.pullThrough blockSize = inlet.pull blockSize := by
    obtain ⟨held, script | _, input⟩ := inlet
    · exact congrArg (ofScript _) (hread script rfl)
    · rfl
  unfold fillThrough fill fillBy
  rw [hpull]

end Inlet

namespace Inlet

/-! ## A line by its blocks -/

variable {stop : UInt8} {inlet : Inlet Script}

/-- A piece has at least the byte that ends it. -/
theorem ne_nil_of_splitThrough {stop : UInt8} {bytes line rest : Bytes}
    (h : splitThrough stop bytes = some (line, rest)) : line ≠ [] := by
  cases bytes with
  | nil => cases h
  | cons b bytes =>
    rw [splitThrough] at h
    split at h
    · cases h
      exact List.cons_ne_nil b []
    · obtain ⟨piece, -, hline⟩ := Option.map_eq_some_iff.1 h
      cases hline
      exact List.cons_ne_nil b _

theorem readUntil_of_end (hgot : inlet.fillThrough.got = []) :
    inlet.readUntil stop = inlet.fillThrough := by
  rw [readUntil, dif_pos hgot]

theorem readUntil_of_stop {line rest : Bytes}
    (hsplit : splitThrough stop inlet.fillThrough.got = some (line, rest)) :
    inlet.readUntil stop = ⟨line, none, { inlet.fillThrough.next with held := rest }⟩ := by
  have hgot : inlet.fillThrough.got ≠ [] := fun h => by rw [h] at hsplit; cases hsplit
  rw [readUntil, dif_neg hgot]
  simp only [hsplit]

theorem readUntil_of_block (hgot : inlet.fillThrough.got ≠ [])
    (hsplit : splitThrough stop inlet.fillThrough.got = none) :
    inlet.readUntil stop
      = (readUntil stop { inlet.fillThrough.next with held := [] }).after
          inlet.fillThrough.got := by
  rw [readUntil, dif_neg hgot]
  simp only [hsplit, Reply.after]

/-- A line that has no byte is a request, with nothing held before. -/
theorem readUntil_of_nil (hgot : (inlet.readUntil stop).got = []) :
    inlet.held = [] ∧ inlet.readUntil stop = inlet.pullThrough blockSize := by
  have hnil : inlet.fillThrough.got = [] := by
    cases hsplit : splitThrough stop inlet.fillThrough.got with
    | none =>
      refine Decidable.byContradiction fun hsome => ?_
      rw [readUntil_of_block hsome hsplit] at hgot
      exact hsome (List.append_eq_nil_iff.1 hgot).1
    | some found =>
      rw [readUntil_of_stop hsplit] at hgot
      exact absurd hgot (ne_nil_of_splitThrough hsplit)
  obtain ⟨hheld, hfill⟩ := fillBy_of_nil (fun inlet => held_pullThrough blockSize inlet) hnil
  exact ⟨hheld, (readUntil_of_end hnil).trans hfill⟩

/-! ## A text by the bytes of its line -/

section Text

variable {error : IoError} {text : String} {fault : Utf8.Fault}

theorem readText_of_fault (hfault : (inlet.readUntil newline).fault = some error) :
    inlet.readText = ⟨none, some error, (inlet.readUntil newline).next⟩ := by
  simp only [readText, hfault]

variable (hfault : (inlet.readUntil newline).fault = none)

include hfault

theorem readText_of_nil (hgot : (inlet.readUntil newline).got = []) :
    inlet.readText = ⟨none, none, (inlet.readUntil newline).next⟩ := by
  simp only [readText, hfault, hgot, List.isEmpty_nil, if_true]

variable (hgot : (inlet.readUntil newline).got ≠ [])

include hgot

theorem readText_of_text (hdecode : Utf8.decode (inlet.readUntil newline).got = .ok text) :
    inlet.readText = ⟨some text, none, (inlet.readUntil newline).next⟩ := by
  simp only [readText, hfault, List.isEmpty_iff, if_neg hgot, hdecode]

theorem readText_of_malformed (hdecode : Utf8.decode (inlet.readUntil newline).got = .error fault) :
    inlet.readText = ⟨none, some (.malformed fault), (inlet.readUntil newline).next⟩ := by
  simp only [readText, hfault, List.isEmpty_iff, if_neg hgot, hdecode]

omit hfault hgot

/-- There is no text and no failure only where there is no line. -/
theorem line_of_readText_nil (hfault : inlet.readText.fault = none) (hnone : inlet.readText.got = none) :
    (inlet.readUntil newline).fault = none ∧ (inlet.readUntil newline).got = [] := by
  cases hline : (inlet.readUntil newline).fault with
  | some error =>
    rw [readText_of_fault hline] at hfault
    cases hfault
  | none =>
    refine ⟨rfl, Decidable.byContradiction fun hgot => ?_⟩
    cases hdecode : Utf8.decode (inlet.readUntil newline).got with
    | ok text =>
      rw [readText_of_text hline hgot hdecode] at hnone
      cases hnone
    | error fault =>
      rw [readText_of_malformed hline hgot hdecode] at hfault
      cases hfault

end Text

end Inlet

/-! ## A unit by where the cursor stands -/

namespace Cursor

variable {unit : Inlet Script → Reply (Inlet Script)} {cursor : Cursor Script}

theorem crossing_of_exhausted (hphase : cursor.phase = .exhausted) :
    cursor.crossing unit = ⟨[], none, cursor⟩ := by
  rw [crossing]
  split <;> simp_all

section Active

variable {id : String} {held : Bytes} {reader : Reader Script}
  (hphase : cursor.phase = .active id held reader) {reply : Reply (Inlet Script)}
  (hreply : unit ⟨held, reader, cursor.world.input⟩ = reply)

include hphase hreply

theorem crossing_of_fault {error : IoError} (hfault : reply.fault = some error) :
    cursor.crossing unit
      = ⟨reply.got, some (.ofReading id error), cursor.withInlet id reply.next⟩ := by
  rw [crossing]
  split <;> simp_all

theorem crossing_of_end (hfault : reply.fault = none) (hgot : reply.got = []) :
    cursor.crossing unit = (cursor.withInlet id reply.next).close.crossing unit := by
  rw [crossing]
  split <;> simp_all

theorem crossing_of_got (hfault : reply.fault = none) (hgot : reply.got ≠ []) :
    cursor.crossing unit = ⟨reply.got, none, cursor.withInlet id reply.next⟩ := by
  rw [crossing]
  split <;> simp_all

/-- The source stays open unless it gives nothing and does not fail. -/
theorem next_crossing_of_active (hgave : reply.got ≠ [] ∨ reply.fault.isSome) :
    (cursor.crossing unit).next = cursor.withInlet id reply.next := by
  cases hfault : reply.fault with
  | some error => rw [crossing_of_fault hphase hreply hfault]
  | none =>
    rw [hfault] at hgave
    rw [crossing_of_got hphase hreply hfault (hgave.resolve_right Bool.noConfusion)]

end Active

section Idle

variable (hphase : cursor.phase = .idle)

include hphase

theorem crossing_of_no_source (hnext : cursor.sources.next? = none) :
    cursor.crossing unit = ⟨[], none, { cursor with phase := .exhausted }⟩ := by
  rw [crossing]
  split
  · simp_all
  · simp_all
  · split <;> simp_all

variable {source : Source Script} {rest : SourceList Script}
  (hnext : cursor.sources.next? = some (source, rest))

include hnext

theorem crossing_of_refused {error : IoError}
    (hopen : source.provider.opened cursor.world.files = .error error) :
    cursor.crossing unit = ⟨[], some (.ofOpening source.id error), cursor.refuse rest⟩ := by
  rw [crossing]
  split
  · simp_all
  · simp_all
  · split
    · simp_all
    · rename_i h
      obtain ⟨rfl, rfl⟩ := Prod.mk.inj (Option.some.inj (hnext.symm.trans h))
      simp only [hopen, Findable.nothing_bytes]

theorem crossing_of_opened {reader : Reader Script}
    (hopen : source.provider.opened cursor.world.files = .ok reader) :
    cursor.crossing unit = (cursor.enter source.id reader rest).crossing unit := by
  rw [crossing]
  split
  · simp_all
  · simp_all
  · split
    · simp_all
    · rename_i h
      obtain ⟨rfl, rfl⟩ := Prod.mk.inj (Option.some.inj (hnext.symm.trans h))
      simp only [hopen]

end Idle

/-- A held failure is all that a unit gives, and nothing else is touched. -/
theorem readUnit_of_pending {error : SourceError} (hpending : cursor.pending = some error) :
    cursor.readUnit unit = ⟨[], some error, { cursor with pending := none }⟩ := by
  rw [readUnit, hpending]
  rfl

theorem readUnit_of_none (hpending : cursor.pending = none) :
    cursor.readUnit unit = cursor.crossing unit := by
  rw [readUnit, hpending]

/-- A unit that gives nothing and does not fail has used up every source. -/
theorem phase_crossing_of_end (hgot : (cursor.crossing unit).got = [])
    (hfault : (cursor.crossing unit).fault = none) :
    (cursor.crossing unit).next.phase = .exhausted := by
  fun_induction crossing unit cursor with
  | case1 cursor hphase => exact hphase
  | case2 => cases hfault
  | case3 _ _ _ _ _ _ _ _ _ _ ih => exact ih hgot hfault
  | case4 _ _ _ _ _ _ _ _ hsome => exact absurd (List.isEmpty_iff.2 hgot) hsome
  | case5 => rfl
  | case6 => cases hfault
  | case7 _ _ _ _ _ _ _ _ ih => exact ih hgot hfault

/-- A unit counts no lines. -/
theorem lineno_crossing (unit : Inlet Script → Reply (Inlet Script)) (cursor : Cursor Script) :
    (cursor.crossing unit).next.lineno = cursor.lineno := by
  fun_induction crossing unit cursor with
  | case1 => rfl
  | case2 => rfl
  | case3 _ _ _ _ _ _ _ _ _ _ ih => exact ih
  | case4 => rfl
  | case5 => rfl
  | case6 => rfl
  | case7 _ _ _ _ _ _ _ _ ih => exact ih

theorem lineno_readUnit (unit : Inlet Script → Reply (Inlet Script)) (cursor : Cursor Script) :
    (cursor.readUnit unit).next.lineno = cursor.lineno := by
  unfold readUnit
  split
  · rfl
  · exact lineno_crossing unit cursor

theorem length_got_crossing {bound : Nat} (hunit : ∀ inlet, (unit inlet).got.length ≤ bound) :
    (cursor.crossing unit).got.length ≤ bound := by
  fun_induction crossing unit cursor with
  | case1 => exact Nat.zero_le bound
  | case2 => exact hunit _
  | case3 _ _ _ _ _ _ _ _ _ _ ih => exact ih
  | case4 => exact hunit _
  | case5 => exact Nat.zero_le bound
  | case6 => exact Nat.zero_le bound
  | case7 _ _ _ _ _ _ _ _ ih => exact ih

theorem length_got_readUnit {bound : Nat} (hunit : ∀ inlet, (unit inlet).got.length ≤ bound) :
    (cursor.readUnit unit).got.length ≤ bound := by
  unfold readUnit
  split
  · exact Nat.zero_le bound
  · exact length_got_crossing hunit

section Fault

variable (hunit : ∀ inlet error, (unit inlet).fault = some error → (unit inlet).got = [])
  {error : SourceError}

include hunit

theorem got_crossing_of_fault (hfault : (cursor.crossing unit).fault = some error) :
    (cursor.crossing unit).got = [] := by
  fun_induction crossing unit cursor with
  | case1 => rfl
  | case2 cursor id held reader hphase reply cursor' error' hfault' => exact hunit _ _ hfault'
  | case3 _ _ _ _ _ _ _ _ _ _ ih => exact ih hfault
  | case4 => cases hfault
  | case5 => rfl
  | case6 => rfl
  | case7 _ _ _ _ _ _ _ _ ih => exact ih hfault

/-- If a unit that fails gives no bytes, a read of such a unit that fails gives none. -/
theorem got_readUnit_of_fault (hfault : (cursor.readUnit unit).fault = some error) :
    (cursor.readUnit unit).got = [] := by
  unfold readUnit at hfault ⊢
  split
  · rfl
  · rename_i hpending
    rw [hpending] at hfault
    exact got_crossing_of_fault hunit hfault

end Fault

/-! ## Units gathered -/

theorem gather_zero (cursor : Cursor Script) : cursor.gather 0 = ⟨[], none, cursor⟩ := by
  rw [gather, dif_pos rfl]

theorem gather_of_nil {count : Nat} (hcount : count ≠ 0)
    (hgot : (cursor.readUnit (Inlet.takeUpTo count)).got = []) :
    cursor.gather count = cursor.readUnit (Inlet.takeUpTo count) := by
  rw [gather, dif_neg hcount]
  exact dif_pos hgot

theorem gather_of_got {count : Nat} (hcount : count ≠ 0)
    (hgot : (cursor.readUnit (Inlet.takeUpTo count)).got ≠ []) :
    cursor.gather count
      = ((cursor.readUnit (Inlet.takeUpTo count)).next.gather
          (count - (cursor.readUnit (Inlet.takeUpTo count)).got.length)).after
        (cursor.readUnit (Inlet.takeUpTo count)).got := by
  rw [gather, dif_neg hcount]
  exact dif_neg hgot

theorem gatherRest_of_stop (h : (cursor.readUnit Inlet.readRest).fault.isSome
      ∨ (cursor.readUnit Inlet.readRest).got = []) :
    cursor.gatherRest = cursor.readUnit Inlet.readRest := by
  rw [gatherRest]
  rcases h with h | h
  · exact if_pos h
  · rw [dif_pos h, ite_self]

theorem gatherRest_of_got (hfault : (cursor.readUnit Inlet.readRest).fault = none)
    (hgot : (cursor.readUnit Inlet.readRest).got ≠ []) :
    cursor.gatherRest = (cursor.readUnit Inlet.readRest).next.gatherRest.after
      (cursor.readUnit Inlet.readRest).got := by
  rw [gatherRest]
  simp only [hfault, Option.isSome_none, Bool.false_eq_true, if_false]
  exact dif_neg hgot

/-! ## Everything left, by where the cursor stands -/

theorem gatherRest_congr {cursor cursor' : Cursor Script}
    (h : cursor.readUnit Inlet.readRest = cursor'.readUnit Inlet.readRest) :
    cursor.gatherRest = cursor'.gatherRest := by
  by_cases hstop : (cursor.readUnit Inlet.readRest).fault.isSome
      ∨ (cursor.readUnit Inlet.readRest).got = []
  · rw [gatherRest_of_stop hstop, gatherRest_of_stop (h ▸ hstop), h]
  · obtain ⟨hfault, hgot⟩ := not_or.1 hstop
    have hnone := Option.not_isSome_iff_eq_none.1 hfault
    have hrest := @gatherRest_of_got cursor' (h ▸ hnone) (h ▸ hgot)
    rw [gatherRest_of_got hnone hgot, hrest, h]

theorem gatherRest_of_pending {error : SourceError} (hpending : cursor.pending = some error) :
    cursor.gatherRest = ⟨[], some error, { cursor with pending := none }⟩ := by
  have hunit := @readUnit_of_pending Inlet.readRest cursor error hpending
  rw [gatherRest_of_stop (Or.inl (by rw [hunit]; rfl)), hunit]

section Rest

variable (hpending : cursor.pending = none)

include hpending

theorem gatherRest_of_exhausted (hphase : cursor.phase = .exhausted) :
    cursor.gatherRest = ⟨[], none, cursor⟩ := by
  have hunit := (readUnit_of_none hpending).trans
    (@crossing_of_exhausted Inlet.readRest cursor hphase)
  rw [gatherRest_of_stop (Or.inr (by rw [hunit])), hunit]

theorem gatherRest_of_no_source (hphase : cursor.phase = .idle)
    (hnext : cursor.sources.next? = none) :
    cursor.gatherRest = ⟨[], none, { cursor with phase := .exhausted }⟩ := by
  have hunit := (readUnit_of_none hpending).trans
    (@crossing_of_no_source Inlet.readRest cursor hphase hnext)
  rw [gatherRest_of_stop (Or.inr (by rw [hunit])), hunit]

theorem gatherRest_of_refused {source : Source Script} {rest : SourceList Script}
    {error : IoError} (hphase : cursor.phase = .idle)
    (hnext : cursor.sources.next? = some (source, rest))
    (hopen : source.provider.opened cursor.world.files = .error error) :
    cursor.gatherRest = ⟨[], some (.ofOpening source.id error), cursor.refuse rest⟩ := by
  have hunit := (readUnit_of_none hpending).trans
    (@crossing_of_refused Inlet.readRest cursor hphase source rest hnext error hopen)
  rw [gatherRest_of_stop (Or.inr (by rw [hunit])), hunit]

theorem gatherRest_of_opened {source : Source Script} {rest : SourceList Script}
    {reader : Reader Script} (hphase : cursor.phase = .idle)
    (hnext : cursor.sources.next? = some (source, rest))
    (hopen : source.provider.opened cursor.world.files = .ok reader) :
    cursor.gatherRest = (cursor.enter source.id reader rest).gatherRest := by
  refine gatherRest_congr ?_
  rw [readUnit_of_none hpending, crossing_of_opened hphase hnext hopen]
  exact (@readUnit_of_none Inlet.readRest (cursor.enter source.id reader rest) hpending).symm

variable {id : String} {held : Bytes} {reader : Reader Script}
  (hphase : cursor.phase = .active id held reader) {reply : Reply (Inlet Script)}
  (hreply : Inlet.readRest ⟨held, reader, cursor.world.input⟩ = reply)

include hphase hreply

theorem gatherRest_of_fault {error : IoError} (hfault : reply.fault = some error) :
    cursor.gatherRest
      = ⟨reply.got, some (.ofReading id error), cursor.withInlet id reply.next⟩ := by
  have hunit := (readUnit_of_none hpending).trans (crossing_of_fault hphase hreply hfault)
  rw [gatherRest_of_stop (Or.inl (by rw [hunit]; rfl)), hunit]

theorem gatherRest_of_end (hfault : reply.fault = none) (hgot : reply.got = []) :
    cursor.gatherRest = (cursor.withInlet id reply.next).close.gatherRest := by
  refine gatherRest_congr ?_
  rw [readUnit_of_none hpending, crossing_of_end hphase hreply hfault hgot]
  exact (@readUnit_of_none Inlet.readRest (cursor.withInlet id reply.next).close hpending).symm

theorem gatherRest_of_more (hfault : reply.fault = none) (hgot : reply.got ≠ []) :
    cursor.gatherRest = (cursor.withInlet id reply.next).gatherRest.after reply.got := by
  have hunit := (readUnit_of_none hpending).trans (crossing_of_got hphase hreply hfault hgot)
  rw [gatherRest_of_got (by rw [hunit]) (by rw [hunit]; exact hgot), hunit]

end Rest

/-! ## A text is the bytes of a line, decoded -/

end Cursor

/-- The text of the bytes that were given. Bytes that are not UTF-8 are a failure of the source that is open then. -/
def Delivery.asText (delivery : Delivery Script) : Delivery Script (Option String) :=
  match delivery.fault with
  | some error => ⟨none, some error, delivery.next⟩
  | none =>
    if delivery.got.isEmpty then ⟨none, none, delivery.next⟩
    else
      match Utf8.decode delivery.got with
      | .ok text => ⟨some text, none, delivery.next⟩
      | .error fault =>
        ⟨none, some (.ofReading (delivery.next.currentId?.getD "") (.malformed fault)), delivery.next⟩

namespace Cursor

section Text

variable {cursor : Cursor Script}

section Active

variable {id : String} {held : Bytes} {reader : Reader Script} (hphase : cursor.phase = .active id held reader)
  {reply : Reply (Inlet Script) (Option String)} (hreply : Inlet.readText ⟨held, reader, cursor.world.input⟩ = reply)

include hphase hreply

/-- A text or a failure of the open source is what decoding makes of its line. -/
theorem asText_crossing_of_found (hfound : reply.fault ≠ none ∨ reply.got ≠ none) :
    (cursor.crossing (Inlet.readUntil newline)).asText
      = ⟨reply.got, reply.fault.map (.ofReading id), cursor.withInlet id reply.next⟩ := by
  cases hfault : (Inlet.readUntil newline ⟨held, reader, cursor.world.input⟩).fault with
  | some error =>
    rw [crossing_of_fault hphase rfl hfault, ← hreply, Inlet.readText_of_fault hfault]
    rfl
  | none =>
    by_cases hgot : (Inlet.readUntil newline ⟨held, reader, cursor.world.input⟩).got = []
    · rw [← hreply, Inlet.readText_of_nil hfault hgot] at hfound
      exact absurd hfound (by simp)
    · rw [crossing_of_got hphase rfl hfault hgot, ← hreply]
      simp only [Delivery.asText, List.isEmpty_iff, if_neg hgot]
      cases hdecode : Utf8.decode (Inlet.readUntil newline ⟨held, reader, cursor.world.input⟩).got with
      | ok text =>
        rw [Inlet.readText_of_text hfault hgot hdecode]
        rfl
      | error fault =>
        rw [Inlet.readText_of_malformed hfault hgot hdecode]
        rfl

/-- Where the open source has no text left, it has no line left, and both are looked for in the next. -/
theorem crossing_of_no_text (hfault : reply.fault = none) (hnone : reply.got = none) :
    cursor.crossing (Inlet.readUntil newline)
      = (cursor.withInlet id reply.next).close.crossing (Inlet.readUntil newline) := by
  subst hreply
  obtain ⟨hline, hgot⟩ := Inlet.line_of_readText_nil hfault hnone
  rw [crossing_of_end hphase rfl hline hgot, Inlet.readText_of_nil hline hgot]

end Active

/-- **To decode every line where it is looked for is to decode the line that is found.** In each turn of the
search the decoding unit gives nothing without a failure exactly if the source has no line left; a line that is
not UTF-8 ends the search as a failure of its source, which is the one that is open then. -/
theorem crossing_readText (cursor : Cursor Script) :
    cursor.crossing Inlet.readText = (cursor.crossing (Inlet.readUntil newline)).asText := by
  fun_induction crossing Inlet.readText cursor with
  | case1 cursor hphase =>
    rw [crossing_of_exhausted hphase]
    rfl
  | case2 cursor id held reader hphase reply cursor' error hfault =>
    have hfound : reply.fault ≠ none := by
      rw [hfault]
      exact Option.some_ne_none error
    rw [asText_crossing_of_found hphase rfl (.inl hfound), hfault]
    rfl
  | case3 cursor id held reader hphase reply cursor' hfault hnone _ ih =>
    rw [ih, crossing_of_no_text hphase rfl hfault (Option.isNone_iff_eq_none.1 hnone)]
  | case4 cursor id held reader hphase reply cursor' hfault hsome =>
    have hfound : reply.got ≠ none := fun hnone => hsome (Option.isNone_iff_eq_none.2 hnone)
    rw [asText_crossing_of_found hphase rfl (.inr hfound), hfault]
    rfl
  | case5 cursor hphase hnext =>
    rw [crossing_of_no_source hphase hnext]
    rfl
  | case6 cursor hphase source rest hnext error hopen =>
    rw [crossing_of_refused hphase hnext hopen]
    rfl
  | case7 cursor hphase source rest hnext reader hopen _ ih => rw [ih, crossing_of_opened hphase hnext hopen]

theorem readUnit_readText (cursor : Cursor Script) :
    cursor.readUnit Inlet.readText = (cursor.readUnit (Inlet.readUntil newline)).asText := by
  unfold readUnit
  split
  · rfl
  · exact crossing_readText cursor

/-- A line is read as text as if its bytes were read first and decoded then. -/
theorem readLine_eq_decoding (cursor : Cursor Script) :
    cursor.readLine =
      match (cursor.readUnit (Inlet.readUntil newline)).orFault with
      | (.error error, cursor) => (.error error, cursor)
      | (.ok line, cursor) =>
        if line.isEmpty then (.ok none, cursor)
        else
          match Utf8.decode line with
          | .ok text => (.ok (some text), cursor.countLine)
          | .error fault => (.error (.ofReading (cursor.currentId?.getD "") (.malformed fault)), cursor) := by
  rw [readLine, readUnit_readText]
  unfold Delivery.asText Delivery.orFault
  generalize cursor.readUnit (Inlet.readUntil newline) = delivery
  obtain ⟨_ | ⟨b, line⟩, _ | error, next⟩ := delivery
  · rfl
  · rfl
  · simp only [List.isEmpty_cons, Bool.false_eq_true, if_false]
    cases Utf8.decode (b :: line) <;> rfl
  · rfl

end Text

/-! ## A line by what its unit gives -/

section Line

variable {cursor : Cursor Script} {error : SourceError} {text : String} {fault : Utf8.Fault}

theorem readLine_of_fault (hfault : (cursor.readUnit (Inlet.readUntil newline)).fault = some error) :
    cursor.readLine = (.error error, (cursor.readUnit (Inlet.readUntil newline)).next) := by
  simp only [readLine_eq_decoding, Delivery.orFault, hfault]

theorem readLineBytes_of_fault
    (hfault : (cursor.readUnit (Inlet.readUntil newline)).fault = some error) :
    cursor.readLineBytes = (.error error, (cursor.readUnit (Inlet.readUntil newline)).next) := by
  simp only [readLineBytes, Delivery.orFault, hfault]

variable (hfault : (cursor.readUnit (Inlet.readUntil newline)).fault = none)

include hfault

theorem readLine_of_nil (hgot : (cursor.readUnit (Inlet.readUntil newline)).got = []) :
    cursor.readLine = (.ok none, (cursor.readUnit (Inlet.readUntil newline)).next) := by
  simp only [readLine_eq_decoding, Delivery.orFault, hfault, hgot, List.isEmpty_nil, if_true]

theorem readLineBytes_of_nil (hgot : (cursor.readUnit (Inlet.readUntil newline)).got = []) :
    cursor.readLineBytes = (.ok none, (cursor.readUnit (Inlet.readUntil newline)).next) := by
  simp only [readLineBytes, Delivery.orFault, hfault, hgot]
  rfl

variable (hgot : (cursor.readUnit (Inlet.readUntil newline)).got ≠ [])

include hgot

theorem readLineBytes_of_line :
    cursor.readLineBytes = (.ok (some (cursor.readUnit (Inlet.readUntil newline)).got),
      (cursor.readUnit (Inlet.readUntil newline)).next.countLine) := by
  simp only [readLineBytes, Delivery.orFault, hfault, List.isEmpty_iff, if_neg hgot]

theorem readLine_of_text
    (hdecode : Utf8.decode (cursor.readUnit (Inlet.readUntil newline)).got = .ok text) :
    cursor.readLine
      = (.ok (some text), (cursor.readUnit (Inlet.readUntil newline)).next.countLine) := by
  simp only [readLine_eq_decoding, Delivery.orFault, hfault, List.isEmpty_iff, if_neg hgot, hdecode]

/-- A line that is not UTF-8 is a failure of the source that is then open. -/
theorem readLine_of_malformed
    (hdecode : Utf8.decode (cursor.readUnit (Inlet.readUntil newline)).got = .error fault) :
    cursor.readLine
      = (.error (.ofReading
            ((cursor.readUnit (Inlet.readUntil newline)).next.currentId?.getD "") (.malformed fault)),
          (cursor.readUnit (Inlet.readUntil newline)).next) := by
  simp only [readLine_eq_decoding, Delivery.orFault, hfault, List.isEmpty_iff, if_neg hgot, hdecode]

end Line

variable {cursor : Cursor Script}

/-- Reading a line leaves the cursor where its unit was found; at most the line is counted. -/
theorem readLine_snd (cursor : Cursor Script) : ∃ lineno,
    cursor.readLine.2 = { (cursor.readUnit (Inlet.readUntil newline)).next with lineno } := by
  cases hfault : (cursor.readUnit (Inlet.readUntil newline)).fault with
  | some error => exact ⟨_, congrArg Prod.snd (readLine_of_fault hfault)⟩
  | none =>
    by_cases hgot : (cursor.readUnit (Inlet.readUntil newline)).got = []
    · exact ⟨_, congrArg Prod.snd (readLine_of_nil hfault hgot)⟩
    · cases hdecode : Utf8.decode (cursor.readUnit (Inlet.readUntil newline)).got with
      | ok text => exact ⟨_, congrArg Prod.snd (readLine_of_text hfault hgot hdecode)⟩
      | error fault => exact ⟨_, congrArg Prod.snd (readLine_of_malformed hfault hgot hdecode)⟩

theorem readLineBytes_snd (cursor : Cursor Script) : ∃ lineno,
    cursor.readLineBytes.2 = { (cursor.readUnit (Inlet.readUntil newline)).next with lineno } := by
  cases hfault : (cursor.readUnit (Inlet.readUntil newline)).fault with
  | some error => exact ⟨_, congrArg Prod.snd (readLineBytes_of_fault hfault)⟩
  | none =>
    by_cases hgot : (cursor.readUnit (Inlet.readUntil newline)).got = []
    · exact ⟨_, congrArg Prod.snd (readLineBytes_of_nil hfault hgot)⟩
    · exact ⟨_, congrArg Prod.snd (readLineBytes_of_line hfault hgot)⟩

/-! ## Lines gathered -/

theorem readLines_of_error {error : SourceError} {next : Cursor Script}
    (h : cursor.readLine = (.error error, next)) : cursor.readLines = (.error error, next) := by
  rw [readLines]
  split <;> simp_all

theorem readLines_of_end {next : Cursor Script} (h : cursor.readLine = (.ok none, next)) :
    cursor.readLines = (.ok [], next) := by
  rw [readLines]
  split <;> simp_all

theorem readLines_of_line {text : String} {next : Cursor Script}
    (h : cursor.readLine = (.ok (some text), next)) :
    cursor.readLines = next.readLines.map (Except.map (text :: ·)) id := by
  rw [readLines]
  split <;> simp_all [Prod.map]

end Cursor

end InputChain
