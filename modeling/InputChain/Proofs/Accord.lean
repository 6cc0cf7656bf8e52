import InputChain.Proofs.HeldFailure
import Mathlib.Data.List.Forall2

/-!
# Cursors in accord

What makes two cursors alike is left open here. If one unit is found alike by cursors that are alike,
so is everything that is gathered of units: every operation is answered alike by them, and so is every
run. One unit of one byte is enough to know about, since so many bytes are gathered as if byte by byte.

* `Cursor.gather_succ`: bytes gathered one by one.
* `Delivery.Agrees`, `Cursor.Agrees`: two deliveries, or two steps, give the same and leave cursors
  that are alike.
* `Cursor.Accord`, `Cursor.BlockAccord`: what is asked of a relation between cursors, for all
  operations and for those that show the blocks which readers give.
* **`Cursor.Accord.serve`**, **`Cursor.Accord.run`**: one operation, and a run.
-/

namespace InputChain

/-! ## Bytes gathered one by one -/

namespace Inlet

variable {inlet : Inlet Script}

/-- What a request for more bytes gives begins with what a request for one gives, and the rest of it
stays held after that one. -/
theorem takeUpTo_succ (count : Nat) (inlet : Inlet Script) :
    inlet.takeUpTo (count + 1)
      = ⟨(inlet.takeUpTo 1).got ++ (inlet.takeUpTo 1).next.held.take count,
          (inlet.takeUpTo 1).fault, (inlet.takeUpTo 1).next.consume count⟩ := by
  have hheld : inlet.fill.next.held = inlet.fill.got := held_fillBy
  simp only [takeUpTo, consume, hheld, List.drop_drop, Reply.mk.injEq, true_and]
  cases inlet.fill.got with
  | nil => simp
  | cons b rest => simp [Nat.add_comm]

/-- A request of which nothing is given leaves nothing held. -/
theorem held_takeUpTo_of_nil (hgot : (inlet.takeUpTo 1).got = []) :
    (inlet.takeUpTo 1).next.held = [] := by
  have hheld : inlet.fill.next.held = inlet.fill.got := held_fillBy
  have hnil : inlet.fill.got = [] := (List.take_eq_nil_iff.1 hgot).resolve_left Nat.one_ne_zero
  simp only [takeUpTo, consume, hheld, hnil, List.drop_nil]

theorem takeUpTo_of_held {count : Nat} (hheld : inlet.held ≠ []) :
    inlet.takeUpTo count = ⟨inlet.held.take count, none, inlet.consume count⟩ := by
  have hfill : inlet.fill = ⟨inlet.held, none, inlet⟩ := if_neg (by simpa using hheld)
  simp only [takeUpTo, hfill]

end Inlet

namespace Cursor

/-- A unit of more bytes and a unit of one byte find nothing alike, or the same source. -/
theorem crossing_takeUpTo_succ (count : Nat) (cursor : Cursor Script) :
    (cursor.crossing (Inlet.takeUpTo 1)).got = []
        ∧ cursor.crossing (Inlet.takeUpTo (count + 1)) = cursor.crossing (Inlet.takeUpTo 1)
      ∨ ∃ id held reader, (cursor.crossing (Inlet.takeUpTo 1)).got ≠ []
          ∧ (cursor.crossing (Inlet.takeUpTo 1)).next.phase = .active id held reader
          ∧ cursor.crossing (Inlet.takeUpTo (count + 1))
            = ⟨(cursor.crossing (Inlet.takeUpTo 1)).got ++ held.take count, none,
                { (cursor.crossing (Inlet.takeUpTo 1)).next with
                  phase := .active id (held.drop count) reader }⟩ := by
  fun_induction crossing (Inlet.takeUpTo 1) cursor with
  | case1 cursor hphase => exact Or.inl ⟨rfl, crossing_of_exhausted hphase⟩
  | case2 cursor id held reader hphase reply cursor' error hfault =>
    have hgot : reply.got = [] := Inlet.got_takeUpTo_of_fault hfault
    have hheld : reply.next.held = [] := Inlet.held_takeUpTo_of_nil hgot
    have hmore := Inlet.takeUpTo_succ count ⟨held, reader, cursor.world.input⟩
    refine Or.inl ⟨hgot, ?_⟩
    rw [crossing_of_fault hphase hmore hfault]
    simp only [cursor', reply] at hheld ⊢
    simp [hheld, Inlet.consume, withInlet]
  | case3 cursor id held reader hphase reply cursor' hfault hgot _ ih =>
    have hgot := List.isEmpty_iff.1 hgot
    have hheld : reply.next.held = [] := Inlet.held_takeUpTo_of_nil hgot
    have hmore := Inlet.takeUpTo_succ count ⟨held, reader, cursor.world.input⟩
    have hclosed : (cursor.withInlet id (reply.next.consume count)).close = cursor'.close := rfl
    rw [crossing_of_end hphase hmore hfault (by simp [reply] at hgot hheld ⊢; simp [hgot, hheld]),
      hclosed]
    exact ih
  | case4 cursor id held reader hphase reply cursor' hfault hgot =>
    have hsome : reply.got ≠ [] := fun hnil => hgot (List.isEmpty_iff.2 hnil)
    have hmore := Inlet.takeUpTo_succ count ⟨held, reader, cursor.world.input⟩
    refine Or.inr ⟨id, reply.next.held, reply.next.reader, hsome, rfl, ?_⟩
    rw [crossing_of_got hphase hmore hfault (List.append_ne_nil_of_left_ne_nil hsome _)]
    rfl
  | case5 cursor hphase hnext => exact Or.inl ⟨rfl, crossing_of_no_source hphase hnext⟩
  | case6 cursor hphase source rest hnext error hopen =>
    exact Or.inl ⟨rfl, crossing_of_refused hphase hnext hopen⟩
  | case7 cursor hphase source rest hnext reader hopen _ ih =>
    rw [crossing_of_opened hphase hnext hopen]
    exact ih

/-- What is held is taken first. -/
theorem gather_of_active {cursor : Cursor Script} {id : String} {held : Bytes}
    {reader : Reader Script} (hpending : cursor.pending = none)
    (hphase : cursor.phase = .active id held reader) (count : Nat) :
    cursor.gather count
      = ({ cursor with phase := .active id (held.drop count) reader }.gather
          (count - (held.take count).length)).after (held.take count) := by
  have hsame : { cursor with phase := .active id held reader } = cursor := by rw [← hphase]
  by_cases hcount : count = 0
  · subst hcount
    rw [List.take_zero, List.drop_zero, hsame]
    rfl
  · by_cases hheld : held = []
    · subst hheld
      rw [List.take_nil, List.drop_nil, hsame]
      rfl
    · have htake : held.take count ≠ [] := fun h =>
        (List.take_eq_nil_iff.1 h).elim hcount hheld
      have hunit := (readUnit_of_none hpending).trans
        (crossing_of_got hphase (Inlet.takeUpTo_of_held hheld) rfl htake)
      rw [gather_of_got hcount (by rw [hunit]; exact htake), hunit]
      rfl

/-- **So many bytes are gathered as if one byte were gathered, and then the others.** -/
theorem gather_succ (count : Nat) (cursor : Cursor Script) :
    cursor.gather (count + 1)
      = if (cursor.readUnit (Inlet.takeUpTo 1)).got = [] then cursor.readUnit (Inlet.takeUpTo 1)
        else ((cursor.readUnit (Inlet.takeUpTo 1)).next.gather count).after
          (cursor.readUnit (Inlet.takeUpTo 1)).got := by
  cases hpending : cursor.pending with
  | some error =>
    rw [gather_of_nil (Nat.succ_ne_zero count) (by rw [readUnit_of_pending hpending]),
      readUnit_of_pending hpending, readUnit_of_pending hpending, if_pos rfl]
  | none =>
    have hnext : (cursor.crossing (Inlet.takeUpTo 1)).next.pending = none :=
      (pending_crossing cursor).trans hpending
    rw [readUnit_of_none hpending]
    rcases crossing_takeUpTo_succ count cursor with
      ⟨hgot, hmore⟩ | ⟨id, held, reader, hgot, hphase, hmore⟩
    · have hunit := (readUnit_of_none hpending).trans hmore
      rw [gather_of_nil (Nat.succ_ne_zero count) (by rw [hunit, hgot]), hunit, if_pos hgot]
    · have hunit := (readUnit_of_none hpending).trans hmore
      have hsome := List.append_ne_nil_of_left_ne_nil hgot (held.take count)
      have hbound : (cursor.crossing (Inlet.takeUpTo 1)).got.length ≤ 1 :=
        length_got_crossing fun inlet => inlet.length_got_takeUpTo 1
      have hpos : 0 < (cursor.crossing (Inlet.takeUpTo 1)).got.length := List.length_pos_iff.2 hgot
      have hone : (cursor.crossing (Inlet.takeUpTo 1)).got.length = 1 := by omega
      have hleft : count + 1 - ((cursor.crossing (Inlet.takeUpTo 1)).got ++ held.take count).length
          = count - (held.take count).length := by
        rw [List.length_append, hone]
        omega
      rw [gather_of_got (Nat.succ_ne_zero count) (by rw [hunit]; exact hsome), hunit, hleft,
        if_neg hgot, ← Delivery.after_after]
      -- what the larger unit took in addition is what the smaller one takes next
      exact congrArg (Delivery.after _) (gather_of_active hnext hphase count).symm

end Cursor

/-! ## What is asked of a relation -/

/-- Two deliveries give the same, and the cursors behind them are alike. -/
structure Delivery.Agrees (alike : Cursor Script → Cursor Script → Prop)
    (left right : Delivery Script) : Prop where
  got : left.got = right.got
  fault : left.fault = right.fault
  next : alike left.next right.next

namespace Cursor

/-- Two steps answer the same, and the cursors behind them are alike. -/
structure Agrees {ρ : Type} (alike : Cursor Script → Cursor Script → Prop)
    (left right : ρ × Cursor Script) : Prop where
  answer : left.1 = right.1
  next : alike left.2 right.2

/-- A unit is found alike by cursors that are alike. -/
def FindsAlike (alike : Cursor Script → Cursor Script → Prop)
    (unit : Inlet Script → Reply (Inlet Script)) : Prop :=
  ∀ {left right : Cursor Script}, alike left right →
    (left.readUnit unit).Agrees alike (right.readUnit unit)

/-- Cursors that are alike have the same source open, stay alike in what reads nothing, and find units
alike. -/
structure Accord (alike : Cursor Script → Cursor Script → Prop) : Prop where
  currentId? : ∀ {left right}, alike left right → left.currentId? = right.currentId?
  setLineno : ∀ {left right} lineno, alike left right →
    alike (left.setLineno lineno) (right.setLineno lineno)
  countLine : ∀ {left right}, alike left right → alike left.countLine right.countLine
  hold : ∀ {left right} pending, alike left right →
    alike { left with pending } { right with pending }
  skip : ∀ {left right}, alike left right → alike left.skip right.skip
  byte : FindsAlike alike (Inlet.takeUpTo 1)
  line : FindsAlike alike (Inlet.readUntil newline)
  rest : FindsAlike alike Inlet.readRest

/-- The same of what shows the blocks that readers give. -/
structure BlockAccord (alike : Cursor Script → Cursor Script → Prop) : Prop where
  read : ∀ room, room ≠ 0 → FindsAlike alike (Inlet.read room)
  fill : FindsAlike alike Inlet.fill
  consume : ∀ {left right} count, alike left right →
    alike (Seamless.consume count left) (Seamless.consume count right)

variable {alike : Cursor Script → Cursor Script → Prop} {left right : Cursor Script}

/-! ## Several units -/

namespace Accord

theorem after {first second : Delivery Script} (got : Bytes) (h : first.Agrees alike second) :
    (first.after got).Agrees alike (second.after got) :=
  ⟨congrArg (got ++ ·) h.got, h.fault, h.next⟩

section Gathered

variable (accord : Accord alike)

include accord

theorem gather (count : Nat) (h : alike left right) :
    (left.gather count).Agrees alike (right.gather count) := by
  induction count generalizing left right with
  | zero =>
    rw [gather_zero, gather_zero]
    exact ⟨rfl, rfl, h⟩
  | succ count ih =>
    have hunit := accord.byte h
    rw [gather_succ, gather_succ, hunit.got]
    split
    · exact hunit
    · exact after _ (ih hunit.next)

theorem gatherRest (h : alike left right) : left.gatherRest.Agrees alike right.gatherRest := by
  fun_induction Cursor.gatherRest left generalizing right with
  | case1 left delivery =>
    rename_i hfault
    have hunit := accord.rest h
    rw [gatherRest_of_stop (Or.inl (hunit.fault ▸ hfault))]
    exact hunit
  | case2 left delivery hfault =>
    rename_i hgot
    have hunit := accord.rest h
    rw [gatherRest_of_stop (Or.inr (hunit.got ▸ hgot))]
    exact hunit
  | case3 left delivery hfault hgot _ =>
    rename_i ih
    have hunit := accord.rest h
    have hnone := Option.not_isSome_iff_eq_none.1 hfault
    have hright := @gatherRest_of_got right (hunit.fault.symm.trans hnone)
      fun hnil => hgot (hunit.got.trans hnil)
    rw [hright, ← hunit.got]
    exact after _ (ih hunit.next)

end Gathered

/-! ## Answers -/

theorem map {ρ π : Type} {first second : ρ × Cursor Script} (h : Agrees alike first second)
    (answer : ρ → π) : Agrees alike (first.map answer id) (second.map answer id) :=
  ⟨congrArg answer h.answer, h.next⟩

theorem holdBack (accord : Accord alike) {first second : Delivery Script}
    (h : first.Agrees alike second) : Agrees alike first.holdBack second.holdBack := by
  obtain ⟨got, fault, next⟩ := first
  obtain ⟨got', fault', next'⟩ := second
  obtain ⟨rfl, rfl, hnext⟩ := h
  cases fault with
  | none => exact ⟨rfl, hnext⟩
  | some error =>
    cases got with
    | nil => exact ⟨rfl, hnext⟩
    | cons b rest => exact ⟨rfl, accord.hold _ hnext⟩

theorem orFault {first second : Delivery Script} (h : first.Agrees alike second) :
    Agrees alike first.orFault second.orFault := by
  obtain ⟨got, fault, next⟩ := first
  obtain ⟨got', fault', next'⟩ := second
  obtain ⟨rfl, rfl, hnext⟩ := h
  cases fault <;> exact ⟨rfl, hnext⟩

theorem answer {first second : Delivery Script} (h : first.Agrees alike second) :
    Agrees alike first.answer second.answer := by
  obtain ⟨got, fault, next⟩ := first
  obtain ⟨got', fault', next'⟩ := second
  obtain ⟨rfl, rfl, hnext⟩ := h
  cases fault <;> exact ⟨rfl, hnext⟩

/-! ## Operations -/

section Operations

variable (accord : Accord alike) (h : alike left right)

include accord h

theorem readLineBytes : Agrees alike left.readLineBytes right.readLineBytes := by
  have hunit := orFault (accord.line h)
  unfold Cursor.readLineBytes
  generalize (left.readUnit (Inlet.readUntil newline)).orFault = first,
    (right.readUnit (Inlet.readUntil newline)).orFault = second at hunit ⊢
  obtain ⟨answer, next⟩ := first
  obtain ⟨answer', next'⟩ := second
  obtain ⟨rfl, hnext⟩ := hunit
  match answer with
  | .error error => exact ⟨rfl, hnext⟩
  | .ok [] => exact ⟨rfl, hnext⟩
  | .ok (b :: line) => exact ⟨rfl, accord.countLine hnext⟩

theorem readLine : Agrees alike left.readLine right.readLine := by
  have hunit := orFault (accord.line h)
  rw [readLine_eq_decoding, readLine_eq_decoding]
  generalize (left.readUnit (Inlet.readUntil newline)).orFault = first,
    (right.readUnit (Inlet.readUntil newline)).orFault = second at hunit ⊢
  obtain ⟨answer, next⟩ := first
  obtain ⟨answer', next'⟩ := second
  obtain ⟨rfl, hnext⟩ := hunit
  match answer with
  | .error error => exact ⟨rfl, hnext⟩
  | .ok [] => exact ⟨rfl, hnext⟩
  | .ok (b :: line) =>
    simp only [List.isEmpty_cons, Bool.false_eq_true, if_false, accord.currentId? hnext]
    cases Utf8.decode (b :: line) with
    | ok text => exact ⟨rfl, accord.countLine hnext⟩
    | error fault => exact ⟨rfl, hnext⟩

theorem eachLine (count : Nat) : Agrees alike (left.eachLine count) (right.eachLine count) := by
  induction count generalizing left right with
  | zero => exact ⟨rfl, h⟩
  | succ count ih =>
    have hread := accord.readLine h
    unfold Cursor.eachLine
    generalize left.readLine = first, right.readLine = second at hread ⊢
    obtain ⟨answer, next⟩ := first
    obtain ⟨answer', next'⟩ := second
    obtain ⟨rfl, hnext⟩ := hread
    rcases answer with error | _ | text
    · exact map (ih hnext) _
    · exact ⟨rfl, hnext⟩
    · exact map (ih hnext) _

theorem readLines : Agrees alike left.readLines right.readLines := by
  fun_induction Cursor.readLines left generalizing right with
  | case1 left error next hread =>
    have hread' := accord.readLine h
    rw [hread] at hread'
    rw [readLines_of_error (Prod.ext hread'.answer.symm rfl : right.readLine = (_, right.readLine.2))]
    exact ⟨rfl, hread'.next⟩
  | case2 left next hread =>
    have hread' := accord.readLine h
    rw [hread] at hread'
    rw [readLines_of_end (Prod.ext hread'.answer.symm rfl : right.readLine = (_, right.readLine.2))]
    exact ⟨rfl, hread'.next⟩
  | case3 left text next hread _ rest last hrest ih =>
    have hread' := accord.readLine h
    rw [hread] at hread'
    have hlines := map (ih hread'.next) (Except.map (text :: ·))
    rw [hrest] at hlines
    rw [readLines_of_line (Prod.ext hread'.answer.symm rfl : right.readLine = (_, right.readLine.2))]
    exact hlines

theorem read (count : Nat) : Agrees alike (left.read count) (right.read count) := by
  by_cases hcount : count = 0
  · subst hcount
    exact ⟨rfl, h⟩
  · rw [Cursor.read, if_neg hcount, Cursor.read, if_neg hcount]
    exact map (accord.holdBack (accord.gather count h)) _

theorem perform (operation : Operation) :
    Agrees alike (left.perform operation) (right.perform operation) := by
  match operation with
  | .read (some count) => exact map (accord.read h count) _
  | .read none => exact map (accord.holdBack (accord.gatherRest h)) _
  | .readToEnd => exact map (accord.holdBack (accord.gatherRest h)) _
  | .readByte => exact map (map (orFault (accord.byte h)) _) _
  | .readLine => exact map (accord.readLine h) _
  | .readLineBytes => exact map (accord.readLineBytes h) _
  | .skip => exact ⟨rfl, accord.skip h⟩

end Operations

end Accord

end Cursor

/-- Whether an operation shows the blocks that readers give. -/
def BlockingOperation.showsBlocks : BlockingOperation → Bool
  | .plainRead _ => true
  | .fill => true
  | .consume _ => true
  | _ => false

namespace Cursor.Accord

variable {alike : Cursor Script → Cursor Script → Prop} {left right : Cursor Script}
  (accord : Accord alike)

include accord

/-- **One operation is answered alike by cursors that are alike**, and leaves them alike. -/
theorem serve (operation : BlockingOperation) (hblocks : operation.showsBlocks → BlockAccord alike)
    (h : alike left right) : Agrees alike (left.serve operation) (right.serve operation) := by
  match operation with
  | .common operation => exact map (accord.perform h operation) _
  | .setLineno lineno => exact ⟨rfl, accord.setLineno lineno h⟩
  | .readLines =>
    rw [Cursor.serve, Cursor.serve]
    exact map (accord.readLines h) _
  | .nextLine =>
    rw [Cursor.serve, Cursor.serve]
    exact map (accord.eachLine h 1) _
  | .plainRead room =>
    refine answer ?_
    by_cases hroom : room = 0
    · subst hroom
      exact ⟨rfl, rfl, h⟩
    · rw [Seamless.read, if_neg hroom, Seamless.read, if_neg hroom]
      exact (hblocks rfl).read room hroom h
  | .fill => exact answer ((hblocks rfl).fill h)
  | .consume count => exact ⟨rfl, (hblocks rfl).consume count h⟩

/-- **A run is answered alike, step by step.** -/
theorem run (operations : List BlockingOperation)
    (hblocks : ∀ operation ∈ operations, operation.showsBlocks → BlockAccord alike)
    (h : alike left right) :
    List.Forall₂ (Agrees alike) (Run.trace Cursor.serve operations left)
      (Run.trace Cursor.serve operations right) := by
  induction operations generalizing left right with
  | nil => exact .nil
  | cons operation rest ih =>
    have hstep := accord.serve operation (hblocks operation List.mem_cons_self) h
    exact .cons hstep (ih (fun given hgiven => hblocks given (List.mem_cons_of_mem _ hgiven)) hstep.next)

end Cursor.Accord

end InputChain
