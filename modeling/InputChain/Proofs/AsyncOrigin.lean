import InputChain.Proofs.AsyncMoments
import InputChain.Proofs.Drawing

/-!
# Where the open source of a cursor comes from whose readers can be not ready

At every moment the source that such a cursor has open is the entry of the list that was taken last, and what is
read of it comes through that entry's own reader. So a line that is read was served by the entry that is then open.

* `PolledInlet.suffix_add`: a portion leaves an end of standard input.
* `PolledInlet.AddedFrom`, `SourceList.HasPolledInlet`: what the inlet of an entry can have become.
* `Cursor.Rooted`, **`Cursor.Rooted.follows`**: the invariant, kept from one moment to the next.
* `AsyncCursor.ServedBy`, **`AsyncCursor.servedBy_readLineBytes`**: the entry that served a line.
-/

namespace InputChain

/-! ## What a portion leaves of standard input -/

namespace PolledInlet

variable (inlet : PolledInlet)

/-- A block asked for by one request, whichever it is, is drawn from the front of standard input. -/
theorem suffix_refillBy (request : PolledScript → Reply PolledScript) (room : Nat) :
    (inlet.refillBy (Inlet.pullBy request room)).2.input.left <:+ inlet.input.left := by
  unfold refillBy
  split
  · obtain ⟨held, script | _, input⟩ := inlet
    · exact List.suffix_rfl
    · exact input.suffix_read room
  · exact List.suffix_rfl

theorem suffix_addUpTo (count : Nat) (out : Bytes) :
    (inlet.addUpTo count out).next.input.left <:+ inlet.input.left := by
  have hfilled : inlet.refill.2.input.left <:+ inlet.input.left := inlet.suffix_refillBy _ blockSize
  unfold addUpTo
  generalize inlet.refill = filled at hfilled ⊢
  obtain ⟨_ | error, next⟩ := filled <;> exact hfilled

theorem suffix_addLine (out : Bytes) : (inlet.addLine out).next.input.left <:+ inlet.input.left := by
  fun_induction addLine out inlet with
  | case1 _ inlet => exact inlet.suffix_refillBy _ blockSize
  | case2 _ inlet => exact inlet.suffix_refillBy _ blockSize
  | case3 _ inlet => exact inlet.suffix_refillBy _ blockSize
  | case4 _ inlet _ _ _ _ ih => exact ih.trans (inlet.suffix_refillBy _ blockSize)

theorem suffix_addRest (out : Bytes) : (inlet.addRest out).next.input.left <:+ inlet.input.left := by
  obtain ⟨held, script | _, input⟩ := inlet
  · exact List.suffix_rfl
  · exact List.nil_suffix

/-- A portion leaves an end of standard input. -/
theorem suffix_add (portion : Portion) (out : Bytes) :
    (inlet.add portion out).next.input.left <:+ inlet.input.left := by
  cases portion with
  | upTo count => exact inlet.suffix_addUpTo count out
  | line => exact inlet.suffix_addLine out
  | rest => exact inlet.suffix_addRest out

/-- What an inlet can have become that began with this reader, with an end of these bytes left in standard input:
portions have been added from it. -/
inductive AddedFrom (reader : Reader PolledScript) (bytes : Bytes) : PolledInlet → Prop where
  | opened {input : StandardInput} (hleft : input.left <:+ bytes) : AddedFrom reader bytes ⟨[], reader, input⟩
  | added {inlet : PolledInlet} (portion : Portion) (out : Bytes) (h : AddedFrom reader bytes inlet) :
      AddedFrom reader bytes (inlet.add portion out).next

end PolledInlet

/-- The source stands at this index of the list, has opened in this world, and is now read through this inlet. -/
structure SourceList.HasPolledInlet (list : SourceList PolledScript) (world : World) (index : Nat)
    (source : Source PolledScript) (inlet : PolledInlet) : Prop where
  entry : list.sources[index]? = some source
  opened : ∃ reader, source.provider.opened world.files = .ok reader
    ∧ PolledInlet.AddedFrom reader world.input.left inlet

/-! ## The invariant -/

namespace Cursor

/-- The cursor goes through this list in what is left of this world, and what it has open is the entry it took
last. -/
structure Rooted (list : SourceList PolledScript) (world : World) (cursor : AsyncCursor) : Prop where
  sources : cursor.sources.sources = list.sources
  files : cursor.world.files = world.files
  input : cursor.world.input.left <:+ world.input.left
  position : list.position ≤ cursor.sources.position
  inlet : ∀ {id held reader}, cursor.phase = .active id held reader →
    ∃ index source, list.position ≤ index ∧ cursor.sources.position = index + 1 ∧ source.id = id
      ∧ list.HasPolledInlet world index source ⟨held, reader, cursor.world.input⟩

variable {list : SourceList PolledScript} {world : World} {cursor later : AsyncCursor}

theorem rooted_ofList (world : World) (list : SourceList PolledScript) : Rooted list world (ofList world list) :=
  ⟨rfl, rfl, List.suffix_rfl, Nat.le_refl _, nofun⟩

namespace Rooted

variable (h : cursor.Rooted list world)

include h

theorem position_next? {source : Source PolledScript} {rest : SourceList PolledScript}
    (hnext : cursor.sources.next? = some (source, rest)) : list.position ≤ rest.position := by
  rw [SourceList.position_next? hnext]
  exact Nat.le_succ_of_le h.position

theorem enter {source : Source PolledScript} {rest : SourceList PolledScript} {reader : Reader PolledScript}
    (hnext : cursor.sources.next? = some (source, rest))
    (hopen : source.provider.opened cursor.world.files = .ok reader) :
    (cursor.enter source.id reader rest).Rooted list world where
  sources := (SourceList.sources_next? hnext).trans h.sources
  files := h.files
  input := h.input
  position := h.position_next? hnext
  inlet := by
    rintro _ _ _ ⟨⟩
    exact ⟨cursor.sources.position, source, h.position, SourceList.position_next? hnext, rfl,
      h.sources ▸ SourceList.getElem?_next? hnext, reader, h.files ▸ hopen, .opened h.input⟩

theorem refuse {source : Source PolledScript} {rest : SourceList PolledScript} (hphase : cursor.phase = .idle)
    (hnext : cursor.sources.next? = some (source, rest)) : (cursor.refuse rest).Rooted list world where
  sources := (SourceList.sources_next? hnext).trans h.sources
  files := h.files
  input := h.input
  position := h.position_next? hnext
  inlet hactive := nomatch hphase.symm.trans hactive

theorem withInlet {id : String} {held : Bytes} {reader : Reader PolledScript}
    (hphase : cursor.phase = .active id held reader) (portion : Portion) (out : Bytes) :
    (cursor.withInlet id (PolledInlet.add portion out ⟨held, reader, cursor.world.input⟩).next).Rooted
      list world where
  sources := h.sources
  files := h.files
  input := (PolledInlet.suffix_add ⟨held, reader, cursor.world.input⟩ portion out).trans h.input
  position := h.position
  inlet := by
    rintro _ _ _ ⟨⟩
    obtain ⟨index, source, hindex, hposition, hid, hentry, opened, hopen, hadded⟩ := h.inlet hphase
    exact ⟨index, source, hindex, hposition, hid, hentry, opened, hopen, hadded.added portion out⟩

/-- **From one moment to the next** the open source stays the entry taken last. -/
theorem follows (hfollows : AsyncCursor.Follows cursor later) : later.Rooted list world := by
  cases hfollows with
  | opens _ hnext hopen => exact h.enter hnext hopen
  | refuses hphase hnext => exact h.refuse hphase hnext
  | exhausts => exact ⟨h.sources, h.files, h.input, h.position, nofun⟩
  | adds portion out hphase => exact h.withInlet hphase portion out
  | closes => exact ⟨h.sources, h.files, h.input, h.position, nofun⟩
  | notes => exact ⟨h.sources, h.files, h.input, h.position, h.inlet⟩

theorem comesOf (hcomes : AsyncCursor.ComesOf cursor later) : later.Rooted list world :=
  hcomes.keeps (fun hfollows hrooted => hrooted.follows hfollows) h

end Rooted

theorem rooted_last (world : World) (list : SourceList PolledScript) (operations : List Operation) :
    Rooted list world (Run.last AsyncCursor.perform operations (ofList world list)) :=
  Run.last_induction AsyncCursor.perform
    (fun operation cursor h => Rooted.comesOf h (AsyncCursor.comesOf_perform cursor operation)) operations
    (rooted_ofList world list)

end Cursor

/-! ## The entry that served a line -/

namespace AsyncCursor

open Cursor

/-- At some moment the entry at this index was open, the line is all that was added of it then, and so the cursor
came to be what it is; the entry is still the open one. -/
structure ServedBy (list : SourceList PolledScript) (world : World) (cursor next : AsyncCursor) (line : Bytes)
    (index : Nat) (source : Source PolledScript) : Prop where
  moment : ∃ before held reader, ComesOf cursor before ∧ before.phase = .active source.id held reader
    ∧ list.HasPolledInlet world index source ⟨held, reader, before.world.input⟩
    ∧ (PolledInlet.add .line [] ⟨held, reader, before.world.input⟩).got = line
    ∧ next = (before.withInlet source.id
        (PolledInlet.add .line [] ⟨held, reader, before.world.input⟩).next).countLine
  sourceIndex? : next.sourceIndex? = some index
  currentId? : next.currentId? = some source.id

variable {cursor next : AsyncCursor} {line : Bytes}

/-- Where a line is given, it is what was added, and one more line is counted. -/
theorem line_of_readLineBytes (hline : cursor.readLineBytes = (.ok (some line), next)) :
    cursor.pending = none ∧ line ≠ [] ∧ (crossing .line [] cursor).got = line
      ∧ next = (crossing .line [] cursor).next.countLine := by
  unfold readLineBytes nextLine add at hline
  cases hpending : cursor.pending with
  | some error =>
    rw [hpending] at hline
    simp [Delivery.orFault, Except.map] at hline
  | none =>
    rw [hpending] at hline
    generalize crossing .line [] cursor = delivery at hline ⊢
    obtain ⟨_ | ⟨b, got⟩, _ | error, there⟩ := delivery
    · simp [Delivery.orFault, Except.map] at hline
    · simp [Delivery.orFault, Except.map] at hline
    · cases hline
      exact ⟨rfl, List.cons_ne_nil b got, rfl, rfl⟩
    · simp [Delivery.orFault, Except.map] at hline

/-- **A line is served by the entry that is then open.** -/
theorem servedBy_readLineBytes {list : SourceList PolledScript} {world : World} (h : Cursor.Rooted list world cursor)
    (hline : cursor.readLineBytes = (.ok (some line), next)) :
    ∃ index source, ServedBy list world cursor next line index source := by
  obtain ⟨-, hsome, hgot, rfl⟩ := line_of_readLineBytes hline
  have hmore : ([] : Bytes).length < (crossing .line [] cursor).got.length := by
    rw [hgot]
    exact List.length_pos_iff.2 hsome
  obtain ⟨before, id, held, reader, hcomes, hphase, hfound⟩ := crossing_found hmore
  obtain ⟨index, source, -, hposition, rfl, hinlet⟩ := (h.comesOf hcomes).inlet hphase
  rw [hfound] at hgot ⊢
  refine ⟨index, source, ⟨before, held, reader, hcomes, hphase, hinlet, hgot, rfl⟩, ?_, rfl⟩
  show before.sourceIndex? = some index
  rw [sourceIndex?, hposition]

end AsyncCursor

end InputChain
