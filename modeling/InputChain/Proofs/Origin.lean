import InputChain.Proofs.Drawing

/-!
# Where the open source comes from

Whatever has been asked of a cursor, the source it has open is the entry of the list that was taken
last, and what is read of it comes through that entry's own reader: the inlet is what units and consumed
bytes have made of the reader that the entry opened to, with the end of standard input that was left.

* `Inlet.DrawnFrom`: what an inlet can have become since it was opened.
* `SourceList.HasInlet`: an inlet of an entry of the list.
* `Cursor.Anchored`: the invariant.
* `Cursor.Anchored.follows`, **`Cursor.anchored_serve`**: it is kept from one moment to the next, and by
  every operation.
-/

namespace InputChain

/-! ## Inlets and the readers they began with -/

namespace Inlet

/-- What an inlet can have become that began with this reader, with an end of these bytes left in
standard input: units have been read of it, and bytes that were held have been taken. -/
inductive DrawnFrom (reader : Reader Script) (bytes : Bytes) : Inlet Script → Prop where
  | opened {input : StandardInput} (hleft : input.left <:+ bytes) :
      DrawnFrom reader bytes ⟨[], reader, input⟩
  | unit {inlet : Inlet Script} {unit : Inlet Script → Reply (Inlet Script)} (hunit : IsUnit unit)
      (h : DrawnFrom reader bytes inlet) : DrawnFrom reader bytes (unit inlet).next
  | consume {inlet : Inlet Script} (count : Nat) (h : DrawnFrom reader bytes inlet) :
      DrawnFrom reader bytes (inlet.consume count)

namespace DrawnFrom

variable {reader : Reader Script} {bytes : Bytes} {inlet : Inlet Script}
  (h : DrawnFrom reader bytes inlet)

include h

/-- It reads standard input if it began so. -/
theorem standardInput_iff : inlet.reader = .standardInput ↔ reader = .standardInput := by
  induction h with
  | opened => exact Iff.rfl
  | @unit inlet unit hunit _ ih =>
    obtain ⟨taken, hdraws⟩ := hunit.draws inlet
    exact hdraws.same.reader.trans ih
  | consume _ _ ih => exact ih

/-- It holds no more than a block. -/
theorem length_held : inlet.held.length ≤ blockSize := by
  induction h with
  | opened => exact Nat.zero_le blockSize
  | @unit inlet unit hunit _ ih =>
    obtain ⟨taken, hdraws⟩ := hunit.draws inlet
    exact hdraws.bound ih
  | @consume inlet count _ ih =>
    have hdrop : (inlet.consume count).held.length = inlet.held.length - count := List.length_drop
    omega

end DrawnFrom

end Inlet

/-! ## Entries of a list -/

namespace SourceList

/-- The source stands at this index of the list, has opened in this world, and is now read through this
inlet. -/
structure HasInlet (list : SourceList Script) (world : World) (index : Nat) (source : Source Script)
    (inlet : Inlet Script) : Prop where
  entry : list.sources[index]? = some source
  opened : ∃ reader, source.provider.opened world.files = .ok reader
    ∧ inlet.DrawnFrom reader world.input.left

namespace HasInlet

variable {list : SourceList Script} {world : World} {index : Nat} {source : Source Script}
  {inlet : Inlet Script} (h : list.HasInlet world index source inlet)

include h

theorem unit {unit : Inlet Script → Reply (Inlet Script)} (hunit : Inlet.IsUnit unit) :
    list.HasInlet world index source (unit inlet).next := by
  obtain ⟨reader, hopen, hdrawn⟩ := h.opened
  exact ⟨h.entry, reader, hopen, hdrawn.unit hunit⟩

theorem consume (count : Nat) : list.HasInlet world index source (inlet.consume count) := by
  obtain ⟨reader, hopen, hdrawn⟩ := h.opened
  exact ⟨h.entry, reader, hopen, hdrawn.consume count⟩

end HasInlet

end SourceList

/-! ## The invariant -/

namespace Cursor

/-- The cursor goes through this list in what is left of this world, and what it has open is the entry it
took last. -/
structure Anchored (list : SourceList Script) (world : World) (cursor : Cursor Script) : Prop where
  sources : cursor.sources.sources = list.sources
  files : cursor.world.files = world.files
  input : cursor.world.input.left <:+ world.input.left
  position : list.position ≤ cursor.sources.position
  inlet : ∀ {id held reader}, cursor.phase = .active id held reader →
    ∃ index source, list.position ≤ index ∧ cursor.sources.position = index + 1 ∧ source.id = id
      ∧ list.HasInlet world index source ⟨held, reader, cursor.world.input⟩

variable {list : SourceList Script} {world : World} {cursor later : Cursor Script}

theorem anchored_ofList (world : World) (list : SourceList Script) :
    (ofList world list).Anchored list world :=
  ⟨rfl, rfl, List.suffix_rfl, Nat.le_refl _, nofun⟩

namespace Anchored

variable (h : cursor.Anchored list world)

include h

/-- The source to open next is the entry behind those taken. -/
theorem next? {source : Source Script} {rest : SourceList Script}
    (hnext : cursor.sources.next? = some (source, rest)) :
    list.sources[cursor.sources.position]? = some source :=
  h.sources ▸ SourceList.getElem?_next? hnext

theorem position_next? {source : Source Script} {rest : SourceList Script}
    (hnext : cursor.sources.next? = some (source, rest)) : list.position ≤ rest.position := by
  rw [SourceList.position_next? hnext]
  exact Nat.le_succ_of_le h.position

theorem enter {source : Source Script} {rest : SourceList Script} {reader : Reader Script}
    (hnext : cursor.sources.next? = some (source, rest))
    (hopen : source.provider.opened cursor.world.files = .ok reader) :
    (cursor.enter source.id reader rest).Anchored list world where
  sources := (SourceList.sources_next? hnext).trans h.sources
  files := h.files
  input := h.input
  position := h.position_next? hnext
  inlet := by
    rintro _ _ _ ⟨⟩
    exact ⟨cursor.sources.position, source, h.position, SourceList.position_next? hnext, rfl,
      h.next? hnext, reader, h.files ▸ hopen, .opened h.input⟩

theorem refuse {source : Source Script} {rest : SourceList Script} (hphase : cursor.phase = .idle)
    (hnext : cursor.sources.next? = some (source, rest)) :
    (cursor.refuse rest).Anchored list world where
  sources := (SourceList.sources_next? hnext).trans h.sources
  files := h.files
  input := h.input
  position := h.position_next? hnext
  inlet hactive := nomatch hphase.symm.trans hactive

theorem close : cursor.close.Anchored list world :=
  ⟨h.sources, h.files, h.input, h.position, nofun⟩

theorem exhaust : Anchored list world { cursor with phase := .exhausted } :=
  ⟨h.sources, h.files, h.input, h.position, nofun⟩

theorem note (lineno : Nat) (pending : Option SourceError) :
    Anchored list world { cursor with lineno, pending } :=
  ⟨h.sources, h.files, h.input, h.position, h.inlet⟩

/-- A source is closed when its reader has reported its end. -/
theorem ends {id : String} {held : Bytes} {reader : Reader Script} {later : Inlet Script}
    (hend : Inlet.ReportsEnd ⟨held, reader, cursor.world.input⟩ later) :
    (cursor.withInlet id later).close.Anchored list world where
  sources := h.sources
  files := h.files
  input := by
    obtain ⟨hheld, room, -, hpull⟩ := hend
    have hdraws := Inlet.draws_pullThrough room hheld
    rw [hpull] at hdraws
    exact hdraws.suffix.trans h.input
  position := h.position
  inlet := nofun

section Active

variable {id : String} {held : Bytes} {reader : Reader Script}
  (hphase : cursor.phase = .active id held reader)

include hphase

theorem withInlet {unit : Inlet Script → Reply (Inlet Script)} (hunit : Inlet.IsUnit unit) :
    (cursor.withInlet id (unit ⟨held, reader, cursor.world.input⟩).next).Anchored list world where
  sources := h.sources
  files := h.files
  input := by
    obtain ⟨taken, hdraws⟩ := hunit.draws ⟨held, reader, cursor.world.input⟩
    exact hdraws.suffix.trans h.input
  position := h.position
  inlet := by
    rintro _ _ _ ⟨⟩
    obtain ⟨index, source, hindex, hposition, hid, hinlet⟩ := h.inlet hphase
    exact ⟨index, source, hindex, hposition, hid, hinlet.unit hunit⟩

theorem consume (count : Nat) :
    Anchored list world { cursor with phase := .active id (held.drop count) reader } where
  sources := h.sources
  files := h.files
  input := h.input
  position := h.position
  inlet := by
    rintro _ _ _ ⟨⟩
    obtain ⟨index, source, hindex, hposition, hid, hinlet⟩ := h.inlet hphase
    exact ⟨index, source, hindex, hposition, hid, hinlet.consume count⟩

end Active

/-- **From one moment to the next** the open source stays the entry taken last. -/
theorem follows {operation : BlockingOperation} (hfollows : Follows operation cursor later) :
    later.Anchored list world := by
  cases hfollows with
  | opens _ _ hnext hopen => exact h.enter hnext hopen
  | refuses _ hphase hnext => exact h.refuse hphase hnext
  | exhausts => exact h.exhaust
  | reads _ hphase hunit => exact h.withInlet hphase hunit
  | ends _ _ hend => exact h.ends hend
  | skips => exact h.close
  | consumes _ hphase => exact h.consume hphase _
  | notes lineno pending => exact h.note lineno pending

theorem comesOf {operation : BlockingOperation} (hcomes : ComesOf operation cursor later) :
    later.Anchored list world := by
  induction hcomes with
  | refl => exact h
  | tail _ hfollows ih => exact ih.follows hfollows

/-- A unit leaves the open source the entry taken last. -/
theorem readUnit {unit : Inlet Script → Reply (Inlet Script)} (hunit : Inlet.IsUnit unit) :
    (cursor.readUnit unit).next.Anchored list world :=
  h.comesOf (@comesOf_readUnit .fill cursor rfl _ hunit)

end Anchored

/-- **Every operation leaves the open source the entry taken last.** -/
theorem anchored_serve (operation : BlockingOperation) (h : cursor.Anchored list world) :
    (cursor.serve operation).2.Anchored list world :=
  h.comesOf (comesOf_serve operation cursor)

end Cursor

end InputChain
