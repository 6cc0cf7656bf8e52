import InputChain.Proofs.Drawing
import InputChain.Proofs.NothingLost

/-!
# What is asked for a unit

A unit is looked for in one source after another. Until it is found, sources are opened and closed, and
every reader that is asked answers with nothing; so nothing is taken of a source that is passed, and
nothing that was held is dropped. What the unit asks then, it asks of the source where it is found.

* `Inquiry`, `Inquiry.served`: what is asked outside of a cursor, and the bytes served in answer.
* `Inlet.EndsBy`: units that give nothing only when one request is answered with nothing.
* `Cursor.Passes`: sources are passed, each at its end.
* `Cursor.Lands`, **`Cursor.crossing_lands`**: where a unit lands when the sources that give nothing
  have been passed.
-/

namespace InputChain

/-! ## What is asked -/

/-- What is asked outside of a cursor. -/
inductive Inquiry where
  /-- The entry at this index is asked to open. -/
  | opening (index : Nat)
  /-- The open reader is asked for a block, and answers so. -/
  | request (got : Bytes) (fault : Option IoError)
  deriving DecidableEq, Repr

namespace Inquiry

/-- The bytes served in answer. -/
def got : Inquiry → Bytes
  | .opening _ => []
  | .request got _ => got

/-- The bytes served in answer to everything asked. -/
def served (asked : List Inquiry) : Bytes :=
  asked.flatMap got

@[simp] theorem served_cons (first : Inquiry) (rest : List Inquiry) :
    served (first :: rest) = first.got ++ served rest :=
  List.flatMap_cons

@[simp] theorem served_append (front back : List Inquiry) :
    served (front ++ back) = served front ++ served back :=
  List.flatMap_append

end Inquiry

namespace Inlet

/-- A unit that gives nothing and does not fail held nothing, and a request was answered with nothing. -/
def EndsBy (request unit : Inlet Script → Reply (Inlet Script)) : Prop :=
  ∀ inlet, (unit inlet).got = [] → (unit inlet).fault = none →
    inlet.held = [] ∧ request inlet = ⟨[], none, (unit inlet).next⟩

theorem endsBy_takeUpTo {count : Nat} (hcount : count ≠ 0) : EndsBy (pull blockSize) (takeUpTo count) := by
  intro inlet hgot hfault
  obtain ⟨hheld, hpull⟩ := takeUpTo_of_nil hcount hgot
  exact ⟨hheld, hpull ▸ eq_of_end hgot hfault⟩

theorem endsBy_readUntil (stop : UInt8) : EndsBy (pullThrough blockSize) (readUntil stop) := by
  intro inlet hgot hfault
  obtain ⟨hheld, hpull⟩ := readUntil_of_nil hgot
  exact ⟨hheld, hpull ▸ eq_of_end hgot hfault⟩

end Inlet

namespace Cursor

/-! ## Sources that are passed -/

section Passes

variable (request : Inlet Script → Reply (Inlet Script))

/-- Asking these, a cursor passes sources: it closes the open one when a request is answered with nothing,
and opens the next. -/
inductive Passes : Cursor Script → List Inquiry → Cursor Script → Prop where
  | refl (cursor : Cursor Script) : Passes cursor [] cursor
  | ends {cursor there : Cursor Script} {id : String} {reader : Reader Script} {later : Inlet Script}
      {asked : List Inquiry} (hphase : cursor.phase = .active id [] reader)
      (hreply : request ⟨[], reader, cursor.world.input⟩ = ⟨[], none, later⟩)
      (hrest : Passes (cursor.withInlet id later).close asked there) :
      Passes cursor (.request [] none :: asked) there
  | opens {cursor there : Cursor Script} {source : Source Script} {rest : SourceList Script}
      {reader : Reader Script} {asked : List Inquiry} (hphase : cursor.phase = .idle)
      (hnext : cursor.sources.next? = some (source, rest))
      (hopen : source.provider.opened cursor.world.files = .ok reader)
      (hrest : Passes (cursor.enter source.id reader rest) asked there) :
      Passes cursor (.opening cursor.sources.position :: asked) there

end Passes

theorem block_of_active {cursor : Cursor Script} {id : String} {held : Bytes} {reader : Reader Script}
    (hphase : cursor.phase = .active id held reader) : cursor.block = held := by
  rw [block, hphase]

theorem block_of_idle {cursor : Cursor Script} (hphase : cursor.phase = .idle) : cursor.block = [] := by
  rw [block, hphase]

namespace Passes

variable {request : Inlet Script → Reply (Inlet Script)} {cursor there : Cursor Script}
  {asked : List Inquiry} (h : Passes request cursor asked there)

include h

/-- No byte is served. -/
theorem served : Inquiry.served asked = [] := by
  induction h with
  | refl => rfl
  | ends _ _ _ ih => exact ih
  | opens _ _ _ _ ih => exact ih

theorem lineno : there.lineno = cursor.lineno := by
  induction h with
  | refl => rfl
  | ends _ _ _ ih => exact ih
  | opens _ _ _ _ ih => exact ih

theorem pending : there.pending = cursor.pending := by
  induction h with
  | refl => rfl
  | ends _ _ _ ih => exact ih
  | opens _ _ _ _ ih => exact ih

/-- Nothing that was held is dropped. -/
theorem block_eq : there.block = cursor.block := by
  induction h with
  | refl => rfl
  | ends hphase _ _ ih => exact ih.trans (block_of_active hphase).symm
  | opens hphase _ _ _ ih => exact ih.trans (block_of_idle hphase).symm

/-- While something is held, no source is passed. -/
theorem eq_of_block (hblock : cursor.block ≠ []) : asked = [] ∧ there = cursor := by
  cases h with
  | refl => exact ⟨rfl, rfl⟩
  | ends hphase => exact absurd (block_of_active hphase) hblock
  | opens hphase => exact absurd (block_of_idle hphase) hblock

end Passes

/-! ## Where a unit lands -/

/-- Where a unit is found when no source can be passed any more: at the end of the list, at an entry that
does not open, or at an open source that gives something or fails. -/
inductive Lands (unit : Inlet Script → Reply (Inlet Script)) (there : Cursor Script) :
    Delivery Script → Prop where
  | exhausted (hphase : there.phase = .exhausted) : Lands unit there ⟨[], none, there⟩
  | no_source (hphase : there.phase = .idle) (hnext : there.sources.next? = none) :
      Lands unit there ⟨[], none, { there with phase := .exhausted }⟩
  | refused {source : Source Script} {rest : SourceList Script} {error : IoError}
      (hphase : there.phase = .idle) (hnext : there.sources.next? = some (source, rest))
      (hopen : source.provider.opened there.world.files = .error error) :
      Lands unit there ⟨[], some (.ofOpening source.id error), there.refuse rest⟩
  | reads {id : String} {held : Bytes} {reader : Reader Script}
      (hphase : there.phase = .active id held reader)
      (hgave : (unit ⟨held, reader, there.world.input⟩).got ≠ []
        ∨ (unit ⟨held, reader, there.world.input⟩).fault.isSome) :
      Lands unit there ⟨(unit ⟨held, reader, there.world.input⟩).got,
        (unit ⟨held, reader, there.world.input⟩).fault.map (.ofReading id),
        there.withInlet id (unit ⟨held, reader, there.world.input⟩).next⟩

/-- **A unit lands where the sources in front give nothing.** -/
theorem crossing_lands {request unit : Inlet Script → Reply (Inlet Script)}
    (hunit : Inlet.EndsBy request unit) (cursor : Cursor Script) :
    ∃ asked there, Passes request cursor asked there ∧ Lands unit there (cursor.crossing unit) := by
  fun_induction crossing unit cursor with
  | case1 cursor hphase => exact ⟨[], cursor, .refl cursor, .exhausted hphase⟩
  | case2 cursor id held reader hphase reply cursor' error hfault =>
    have hreads := @Lands.reads unit cursor id held reader hphase
      (Or.inr (by rw [show _ = some error from hfault]; rfl))
    rw [show (unit ⟨held, reader, cursor.world.input⟩).fault = some error from hfault] at hreads
    exact ⟨[], cursor, .refl cursor, hreads⟩
  | case3 cursor id held reader hphase reply cursor' hfault hgot _ ih =>
    obtain ⟨hheld, hreply⟩ := hunit _ (List.isEmpty_iff.1 hgot) hfault
    obtain rfl : held = [] := hheld
    obtain ⟨asked, there, hpasses, hlands⟩ := ih
    exact ⟨_, there, .ends hphase hreply hpasses, hlands⟩
  | case4 cursor id held reader hphase reply cursor' hfault hgot =>
    have hsome : reply.got ≠ [] := fun hnil => hgot (List.isEmpty_iff.2 hnil)
    have hreads := @Lands.reads unit cursor id held reader hphase (Or.inl hsome)
    rw [show (unit ⟨held, reader, cursor.world.input⟩).fault = none from hfault] at hreads
    exact ⟨[], cursor, .refl cursor, hreads⟩
  | case5 cursor hphase hnext => exact ⟨[], cursor, .refl cursor, .no_source hphase hnext⟩
  | case6 cursor hphase source rest hnext error hopen =>
    exact ⟨[], cursor, .refl cursor, .refused hphase hnext hopen⟩
  | case7 cursor hphase source rest hnext reader hopen _ ih =>
    obtain ⟨asked, there, hpasses, hlands⟩ := ih
    exact ⟨_, there, .opens hphase hnext hopen hpasses, hlands⟩

end Cursor

end InputChain
