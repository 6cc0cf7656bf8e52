import InputChain.Proofs.Accord

/-!
# Cursors in step

Two cursors are in step if they stand alike and what each has open and has still to open is alike.
What counts as alike is left open here; if the units of the reads serve alike what is alike, two
cursors that are in step answer every operation alike and stay in step. The first may have taken more
sources than the second.

* `Likeness`, `Likeness.Serves`: what counts as alike, and the units that serve it alike.
* `Cursor.InStep`: two cursors that are in step.
* `Cursor.inStep_crossing`, `Cursor.inStep_readUnit`: units.
* `Cursor.accord_inStep`, `Cursor.blockAccord_inStep`: to be in step is an accord.
* **`Cursor.together_run`**: a run.
-/

namespace InputChain

/-! ## What counts as alike -/

/-- When two open sources count as alike, and when what they leave of standard input does. -/
structure Likeness where
  inlet : Inlet Script → Inlet Script → Prop
  input : StandardInput → StandardInput → Prop
  input_of_inlet : ∀ {left right : Inlet Script}, inlet left right → input left.input right.input

namespace Likeness

variable (like : Likeness)

/-- Two openings fail alike, or give readers that are alike as long as nothing is read of them. -/
inductive Openings : Except IoError (Reader Script) → Except IoError (Reader Script) → Prop where
  | failed (error : IoError) : Openings (.error error) (.error error)
  | opened {left right : Reader Script}
      (halike : ∀ {input input'}, like.input input input' →
        like.inlet ⟨[], left, input⟩ ⟨[], right, input'⟩) : Openings (.ok left) (.ok right)

/-- Two sources have the same identifier and open alike, each among its files. -/
structure Sources (files files' : FileTree) (left right : Source Script) : Prop where
  id : left.id = right.id
  openings : like.Openings (left.provider.opened files) (right.provider.opened files')

/-- Two cursors with these standard inputs stand alike. -/
inductive Phases (input input' : StandardInput) : Phase Script → Phase Script → Prop where
  | idle (h : like.input input input') : Phases input input' .idle .idle
  | active {id : String} {held held' : Bytes} {reader reader' : Reader Script}
      (h : like.inlet ⟨held, reader, input⟩ ⟨held', reader', input'⟩) :
      Phases input input' (.active id held reader) (.active id held' reader')
  | exhausted : Phases input input' .exhausted .exhausted

/-- Two replies give the same and leave inlets that are alike. -/
structure Replies (left right : Reply (Inlet Script)) : Prop where
  got : left.got = right.got
  fault : left.fault = right.fault
  next : like.inlet left.next right.next

/-- A unit serves alike what is alike. -/
def Serves (unit : Inlet Script → Reply (Inlet Script)) : Prop :=
  ∀ {left right : Inlet Script}, like.inlet left right → like.Replies (unit left) (unit right)

/-- The units of the reads whose answers show nothing of the blocks the readers give. -/
structure ServesReads : Prop where
  byte : like.Serves (Inlet.takeUpTo 1)
  line : like.Serves (Inlet.readUntil newline)
  rest : like.Serves Inlet.readRest

/-- The units of the reads that show the blocks. -/
structure ServesBlocks : Prop where
  read : ∀ room, room ≠ 0 → like.Serves (Inlet.read room)
  fill : like.Serves Inlet.fill
  consume : ∀ {left right} count, like.inlet left right →
    like.inlet (left.consume count) (right.consume count)

end Likeness

/-! ## Two cursors in step -/

/-- Two cursors stand alike, and what each has open and has still to open is alike. The first has
taken `ahead` sources more. -/
structure Cursor.InStep (like : Likeness) (ahead : Nat) (left right : Cursor Script) : Prop where
  position : left.sources.position = right.sources.position + ahead
  remaining : List.Forall₂ (like.Sources left.world.files right.world.files)
    left.remaining right.remaining
  phase : like.Phases left.world.input right.world.input left.phase right.phase
  lineno : left.lineno = right.lineno
  pending : left.pending = right.pending

/-- Two deliveries give the same, and the cursors behind them are in step. -/
structure Delivery.InStep (like : Likeness) (ahead : Nat) (left right : Delivery Script) :
    Prop where
  got : left.got = right.got
  fault : left.fault = right.fault
  next : left.next.InStep like ahead right.next

/-- Two steps answer the same, and the cursors behind them are in step. -/
structure Cursor.Together {ρ : Type} (like : Likeness) (ahead : Nat)
    (left right : ρ × Cursor Script) : Prop where
  answer : left.1 = right.1
  next : left.2.InStep like ahead right.2

namespace Cursor

variable {like : Likeness} {ahead : Nat} {left right : Cursor Script}

namespace InStep

variable (h : left.InStep like ahead right)

include h

theorem phase_exhausted (hphase : left.phase = .exhausted) : right.phase = .exhausted := by
  have hphases := h.phase
  rw [hphase] at hphases
  generalize right.phase = phase at hphases ⊢
  cases hphases
  rfl

theorem phase_idle (hphase : left.phase = .idle) :
    right.phase = .idle ∧ like.input left.world.input right.world.input := by
  have hphases := h.phase
  rw [hphase] at hphases
  generalize right.phase = phase at hphases ⊢
  cases hphases with
  | idle hinput => exact ⟨rfl, hinput⟩

theorem phase_active {id : String} {held : Bytes} {reader : Reader Script}
    (hphase : left.phase = .active id held reader) :
    ∃ held' reader', right.phase = .active id held' reader'
      ∧ like.inlet ⟨held, reader, left.world.input⟩ ⟨held', reader', right.world.input⟩ := by
  have hphases := h.phase
  rw [hphase] at hphases
  generalize right.phase = phase at hphases ⊢
  cases hphases with
  | active hinlet => exact ⟨_, _, rfl, hinlet⟩

theorem next?_none (hnext : left.sources.next? = none) : right.sources.next? = none := by
  have hremaining := h.remaining
  rw [show left.remaining = [] from SourceList.remaining_next?_none hnext,
    List.forall₂_nil_left_iff] at hremaining
  exact SourceList.next?_of_nil hremaining

/-- Both cursors have a source to open next, or neither has. -/
theorem next?_some {source : Source Script} {rest : SourceList Script}
    (hnext : left.sources.next? = some (source, rest)) :
    ∃ source' rest', right.sources.next? = some (source', rest')
      ∧ like.Sources left.world.files right.world.files source source'
      ∧ List.Forall₂ (like.Sources left.world.files right.world.files)
          rest.remaining rest'.remaining
      ∧ rest.position = rest'.position + ahead := by
  have hremaining := h.remaining
  rw [show left.remaining = source :: rest.remaining from SourceList.remaining_next? hnext,
    List.forall₂_cons_left_iff] at hremaining
  obtain ⟨source', behind, hsource, hbehind, hright⟩ := hremaining
  obtain ⟨rest', hnext', rfl⟩ := SourceList.next?_of_remaining hright
  refine ⟨source', rest', hnext', hsource, hbehind, ?_⟩
  have hposition := h.position
  rw [SourceList.position_next? hnext, SourceList.position_next? hnext']
  omega

/-! ### Steps that read nothing -/

theorem exhaust :
    InStep like ahead { left with phase := .exhausted } { right with phase := .exhausted } :=
  ⟨h.position, h.remaining, .exhausted, h.lineno, h.pending⟩

theorem setLineno (lineno : Nat) :
    (left.setLineno lineno).InStep like ahead (right.setLineno lineno) :=
  ⟨h.position, h.remaining, h.phase, rfl, h.pending⟩

theorem countLine : left.countLine.InStep like ahead right.countLine :=
  ⟨h.position, h.remaining, h.phase, congrArg (· + 1) h.lineno, h.pending⟩

theorem hold (pending : Option SourceError) :
    InStep like ahead { left with pending } { right with pending } :=
  ⟨h.position, h.remaining, h.phase, h.lineno, rfl⟩

theorem withInlet (id : String) {inlet inlet' : Inlet Script} (halike : like.inlet inlet inlet') :
    (left.withInlet id inlet).InStep like ahead (right.withInlet id inlet') :=
  ⟨h.position, h.remaining, .active halike, h.lineno, h.pending⟩

theorem close (hinput : like.input left.world.input right.world.input) :
    left.close.InStep like ahead right.close :=
  ⟨h.position, h.remaining, .idle hinput, h.lineno, h.pending⟩

theorem skip : left.skip.InStep like ahead right.skip := by
  unfold Cursor.skip
  match hphase : left.phase with
  | .idle => rw [(h.phase_idle hphase).1]; exact h
  | .exhausted => rw [h.phase_exhausted hphase]; exact h
  | .active id held reader =>
    obtain ⟨held', reader', hphase', hinlet⟩ := h.phase_active hphase
    rw [hphase']
    exact h.close (like.input_of_inlet hinlet)

theorem consume (count : Nat)
    (hconsume : ∀ {left right}, like.inlet left right →
      like.inlet (left.consume count) (right.consume count)) :
    (Seamless.consume count left).InStep like ahead (Seamless.consume count right) := by
  unfold Seamless.consume
  match hphase : left.phase with
  | .idle => rw [(h.phase_idle hphase).1]; exact h
  | .exhausted => rw [h.phase_exhausted hphase]; exact h
  | .active id held reader =>
    obtain ⟨held', reader', hphase', hinlet⟩ := h.phase_active hphase
    rw [hphase']
    exact ⟨h.position, h.remaining, .active (hconsume hinlet), h.lineno, h.pending⟩

/-! ### What is seen of them -/

theorem currentId? : left.currentId? = right.currentId? := by
  have hphases := h.phase
  unfold Cursor.currentId?
  generalize left.phase = phase, right.phase = phase' at hphases
  cases hphases <;> rfl

theorem isExhausted : left.isExhausted = right.isExhausted := by
  have hphases := h.phase
  unfold Cursor.isExhausted
  generalize left.phase = phase, right.phase = phase' at hphases
  cases hphases <;> rfl

theorem ids : SourceList.ids left.remaining = SourceList.ids right.remaining := by
  have hremaining := h.remaining
  generalize left.remaining = sources, right.remaining = sources' at hremaining
  induction hremaining with
  | nil => rfl
  | cons hsource _ ih => exact congrArg₂ List.cons hsource.id ih

end InStep

/-! ## One unit -/

section Unit

variable {unit : Inlet Script → Reply (Inlet Script)} (hunit : like.Serves unit)

include hunit

/-- **A unit is found alike by cursors in step.** -/
theorem inStep_crossing (h : left.InStep like ahead right) :
    (left.crossing unit).InStep like ahead (right.crossing unit) := by
  fun_induction crossing unit left generalizing right with
  | case1 left hphase =>
    rw [crossing_of_exhausted (h.phase_exhausted hphase)]
    exact ⟨rfl, rfl, h⟩
  | case2 left id held reader hphase reply left' error =>
    rename_i hfault
    obtain ⟨held', reader', hphase', hinlet⟩ := h.phase_active hphase
    obtain ⟨hgot, hfault', hnext⟩ := hunit hinlet
    rw [crossing_of_fault hphase' rfl (hfault'.symm.trans hfault)]
    exact ⟨hgot, rfl, h.withInlet id hnext⟩
  | case3 left id held reader hphase reply left' hfault hgot _ =>
    rename_i ih
    obtain ⟨held', reader', hphase', hinlet⟩ := h.phase_active hphase
    obtain ⟨hgot', hfault', hnext⟩ := hunit hinlet
    rw [crossing_of_end hphase' rfl (hfault'.symm.trans hfault)
      (hgot'.symm.trans (List.isEmpty_iff.1 hgot))]
    exact ih ((h.withInlet id hnext).close (like.input_of_inlet hnext))
  | case4 left id held reader hphase reply left' hfault =>
    rename_i hgot
    obtain ⟨held', reader', hphase', hinlet⟩ := h.phase_active hphase
    obtain ⟨hgot', hfault', hnext⟩ := hunit hinlet
    rw [crossing_of_got hphase' rfl (hfault'.symm.trans hfault)
      fun hnil => hgot (List.isEmpty_iff.2 (hgot'.trans hnil))]
    exact ⟨hgot', rfl, h.withInlet id hnext⟩
  | case5 left hphase hnext =>
    rw [crossing_of_no_source (h.phase_idle hphase).1 (h.next?_none hnext)]
    exact ⟨rfl, rfl, h.exhaust⟩
  | case6 left hphase source rest hnext error hopen =>
    obtain ⟨source', rest', hnext', hsource, hremaining, hposition⟩ := h.next?_some hnext
    obtain ⟨hphase', hinput⟩ := h.phase_idle hphase
    have hopenings := hsource.openings
    rw [hopen] at hopenings
    generalize hopen' : source'.provider.opened right.world.files = opening at hopenings
    cases hopenings with
    | failed =>
      rw [crossing_of_refused hphase' hnext' hopen', ← hsource.id]
      refine ⟨rfl, rfl, hposition, hremaining, ?_, h.lineno, h.pending⟩
      simp only [refuse, hphase, hphase']
      exact .idle hinput
  | case7 left hphase source rest hnext reader hopen _ ih =>
    obtain ⟨source', rest', hnext', hsource, hremaining, hposition⟩ := h.next?_some hnext
    obtain ⟨hphase', hinput⟩ := h.phase_idle hphase
    have hopenings := hsource.openings
    rw [hopen] at hopenings
    generalize hopen' : source'.provider.opened right.world.files = opening at hopenings
    cases hopenings with
    | opened halike =>
      rw [crossing_of_opened hphase' hnext' hopen', ← hsource.id]
      exact ih ⟨hposition, hremaining, .active (halike hinput), h.lineno, h.pending⟩

theorem inStep_readUnit (h : left.InStep like ahead right) :
    (left.readUnit unit).InStep like ahead (right.readUnit unit) := by
  cases hpending : left.pending with
  | none =>
    rw [readUnit_of_none hpending, readUnit_of_none (h.pending.symm.trans hpending)]
    exact inStep_crossing hunit h
  | some error =>
    rw [readUnit_of_pending hpending, readUnit_of_pending (h.pending.symm.trans hpending)]
    exact ⟨rfl, rfl, h.hold none⟩

end Unit

/-! ## Runs -/

/-- To be in step is kept by every operation, if the units of the reads serve alike what is alike. -/
theorem accord_inStep (hreads : like.ServesReads) : Accord (InStep like ahead) where
  currentId? h := h.currentId?
  setLineno lineno h := h.setLineno lineno
  countLine h := h.countLine
  hold pending h := h.hold pending
  skip h := h.skip
  byte h :=
    have hunit := inStep_readUnit hreads.byte h
    ⟨hunit.got, hunit.fault, hunit.next⟩
  line h :=
    have hunit := inStep_readUnit hreads.line h
    ⟨hunit.got, hunit.fault, hunit.next⟩
  rest h :=
    have hunit := inStep_readUnit hreads.rest h
    ⟨hunit.got, hunit.fault, hunit.next⟩

theorem blockAccord_inStep (hblocks : like.ServesBlocks) : BlockAccord (InStep like ahead) where
  read room hroom := fun h =>
    have hunit := inStep_readUnit (hblocks.read room hroom) h
    ⟨hunit.got, hunit.fault, hunit.next⟩
  fill h :=
    have hunit := inStep_readUnit hblocks.fill h
    ⟨hunit.got, hunit.fault, hunit.next⟩
  consume count h := h.consume count fun halike => hblocks.consume count halike

/-- **A run is answered alike by cursors in step, step by step**, and leaves them in step. -/
theorem together_run (hreads : like.ServesReads) (operations : List BlockingOperation)
    (hblocks : ∀ operation ∈ operations, operation.showsBlocks → like.ServesBlocks)
    (h : left.InStep like ahead right) :
    List.Forall₂ (Together like ahead) (Run.trace serve operations left)
      (Run.trace serve operations right) :=
  ((accord_inStep hreads).run operations
    (fun operation hmem hshows => blockAccord_inStep (hblocks operation hmem hshows)) h).imp
    fun _ _ hstep => ⟨hstep.answer, hstep.next⟩

end Cursor

end InputChain
