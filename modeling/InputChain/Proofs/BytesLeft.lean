import InputChain.Proofs.Accord
import InputChain.Proofs.Drawing
import InputChain.Proofs.LineSplitting

/-!
# The bytes that are left

Over sources that open and are read without failures, each reader ended for good when it first gives nothing,
what a cursor has still to give is so many bytes, whatever has been asked of it before; and as many bytes as are
asked for are taken from their front.

* `Plain`, `Inlet.IsUnit.plain`: courses of bytes alone stay such.
* `Cursor.ReadsOut`, **`Cursor.readsOut_run`**: a cursor over such sources stays one.
* `Cursor.BytesLeft`, `Delivery.GivesBytes`: the bytes that are left, and those that are taken from their front.
* `Cursor.givesBytes_gather`, **`Cursor.read_of_bytesLeft`**: so many bytes.
-/

namespace InputChain

/-! ## Courses of bytes alone -/

/-- Bytes, and then nothing for ever. -/
def Plain (course : Stream' Happening) : Prop :=
  ∃ content : Bytes, course = content.map .byte ++ₛ Stream'.const .nothing

namespace Plain

variable {course : Stream' Happening}

theorem tail (h : Plain course) : Plain course.tail := by
  obtain ⟨_ | ⟨b, content⟩, rfl⟩ := h
  · exact ⟨[], rfl⟩
  · exact ⟨content, rfl⟩

theorem of_append {front : List Happening} (h : Plain (front ++ₛ course)) : Plain course := by
  induction front with
  | nil => exact h
  | cons first front ih => exact ih h.tail

theorem of_upTo {stops : UInt8 → Bool} {got : Bytes} {fault : Option IoError}
    {rest : Stream' Happening} (h : Plain course) (hupTo : UpTo stops course got fault rest) :
    Plain rest := by
  induction hupTo with
  | stop => exact h.tail
  | byte _ _ _ ih => exact ih h.tail
  | fault => exact h.tail
  | nothing => exact h.tail

theorem uninterrupted (h : Plain course) : Uninterrupted course := by
  obtain ⟨content, rfl⟩ := h
  exact uninterrupted_of_content content

end Plain

namespace Inlet

variable {inlet : Inlet Script}

theorem plain_consume (h : Plain inlet.course) (count : Nat) : Plain (inlet.consume count).course := by
  unfold course at h
  rw [← List.take_append_drop count inlet.held, List.map_append, Stream'.append_append_stream] at h
  exact h.of_append

/-- What a fill shows is still to come. -/
theorem plain_fill (h : Plain inlet.course) : Plain inlet.fill.next.course := by
  by_cases hgot : inlet.fill.got = []
  · rw [course_fill_of_nil hgot] at h
    exact h.of_append
  · have hheld : inlet.fill.next.held = inlet.fill.got := held_fillBy
    have hnext : inlet.fill.next.course = inlet.course := by
      rw [course_fill_of_got hgot, ← hheld]
      rfl
    rwa [hnext]

/-- **Every unit leaves a course of bytes alone.** -/
theorem IsUnit.plain {unit : Inlet Script → Reply (Inlet Script)} (hunit : IsUnit unit)
    (h : Plain inlet.course) : Plain (unit inlet).next.course := by
  cases hunit with
  | takeUpTo => exact plain_consume (plain_fill h) _
  | readUntil stop => exact h.of_upTo (advances_readUntil stop h.uninterrupted).upTo
  | readRest => exact h.of_upTo (advances_readRest h.uninterrupted).upTo
  | @read room hroom =>
    unfold Inlet.read
    split
    · rename_i hpast
      rw [course_pull hroom (List.isEmpty_iff.1 hpast.1)] at h
      exact h.of_append
    · exact plain_consume (plain_fill h) room
  | fill => exact plain_fill h

/-- One byte is taken of what an inlet holds, or nothing at its end. -/
theorem takeUpTo_of_content {content : Bytes}
    (hcourse : inlet.course = content.map .byte ++ₛ Stream'.const .nothing) :
    (inlet.takeUpTo 1).fault = none ∧ inlet.SameSource (inlet.takeUpTo 1).next
      ∧ (inlet.takeUpTo 1).got = content.take 1
      ∧ (inlet.takeUpTo 1).next.course = (content.drop 1).map .byte ++ₛ Stream'.const .nothing := by
  obtain ⟨hupTo, hsame⟩ := advances_takeUpTo inlet
  rw [hcourse] at hupTo
  cases content with
  | nil =>
    obtain ⟨hgot, hfault, hrest⟩ := hupTo.unique (.nothing rfl)
    exact ⟨hfault, hsame, hgot, hrest⟩
  | cons b content =>
    obtain ⟨hgot, hfault, hrest⟩ := hupTo.unique (.stop rfl rfl)
    exact ⟨hfault, hsame, hgot, hrest⟩

end Inlet

namespace Cursor

/-! ## Cursors over sources that are read out -/

/-- The sources to come open and are read without failures, and so is the rest of the open one. -/
structure ReadsOut (cursor : Cursor Script) : Prop where
  sources : ∀ source ∈ cursor.remaining, source.ReadsOut cursor.world.files
  active : ∀ {id held reader}, cursor.phase = .active id held reader →
    Plain (Inlet.course ⟨held, reader, cursor.world.input⟩)

variable {cursor later : Cursor Script}

namespace ReadsOut

/-- **Whatever happens to such a cursor, it stays one.** -/
theorem follows {operation : BlockingOperation} (h : cursor.ReadsOut)
    (hfollows : Follows operation cursor later) : later.ReadsOut := by
  cases hfollows with
  | @opens source rest reader hasks hphase hnext hopen =>
    have hremaining : cursor.remaining = source :: rest.remaining := SourceList.remaining_next? hnext
    refine ⟨fun source hsource => h.sources source (hremaining ▸ List.mem_cons_of_mem _ hsource), ?_⟩
    intro id held reader' hactive
    obtain ⟨opened, hopen', hreads⟩ := h.sources source (hremaining ▸ List.mem_cons_self)
    cases hopen.symm.trans hopen'
    cases hactive
    exact ⟨_, hreads.course _⟩
  | @refuses source rest error hasks hphase hnext hopen =>
    have hremaining : cursor.remaining = source :: rest.remaining := SourceList.remaining_next? hnext
    obtain ⟨reader, hopen', -⟩ := h.sources source (hremaining ▸ List.mem_cons_self)
    cases hopen.symm.trans hopen'
  | exhausts => exact ⟨h.sources, nofun⟩
  | reads hasks hphase hunit =>
    refine ⟨h.sources, fun hactive => ?_⟩
    cases hactive
    exact hunit.plain (h.active hphase)
  | ends => exact ⟨h.sources, nofun⟩
  | skips => exact ⟨h.sources, nofun⟩
  | @consumes count id held reader hconsume hphase =>
    refine ⟨h.sources, fun hactive => ?_⟩
    cases hactive
    exact Inlet.plain_consume (h.active hphase) count
  | notes => exact ⟨h.sources, h.active⟩

theorem comesOf {operation : BlockingOperation} (h : cursor.ReadsOut)
    (hcomes : ComesOf operation cursor later) : later.ReadsOut := by
  induction hcomes with
  | refl => exact h
  | tail _ hfollows ih => exact ih.follows hfollows

end ReadsOut

/-- Nothing that is asked of such a cursor changes that. -/
theorem readsOut_run {world : World} {list : SourceList Script}
    (hreads : ∀ source ∈ list.remaining, source.ReadsOut world.files) (past : List BlockingOperation) :
    (Run.last Cursor.serve past (ofList world list)).ReadsOut := by
  have hstart : (ofList world list).ReadsOut := ⟨hreads, nofun⟩
  exact Run.last_induction Cursor.serve
    (fun operation cursor h => h.comesOf (comesOf_serve operation cursor)) past hstart

/-! ## The bytes that are left -/

/-- These bytes are left: no failure is to come, and they are what the sources hold. -/
structure BytesLeft (cursor : Cursor Script) (left : Bytes) : Prop where
  readsOut : ∀ source ∈ cursor.remaining, source.ReadsOut cursor.world.files
  holds : ∃ contents, cursor.Holds contents ∧ contents.flatMap Prod.snd = left

theorem ReadsOut.bytesLeft (h : cursor.ReadsOut) : ∃ left, cursor.BytesLeft left := by
  cases hphase : cursor.phase with
  | idle => exact ⟨_, h.sources, _, .idle hphase, rfl⟩
  | active id held reader =>
    obtain ⟨content, hcourse⟩ := h.active hphase
    exact ⟨_, h.sources, _, .active hphase hcourse, rfl⟩
  | exhausted => exact ⟨_, h.sources, _, .exhausted hphase, rfl⟩

end Cursor

/-- A delivery gives so many bytes from the front of these, fewer only if there are no more, and leaves the
others. -/
structure Delivery.GivesBytes (delivery : Delivery Script) (count : Nat) (left : Bytes) : Prop where
  got : delivery.got = left.take count
  fault : delivery.fault = none
  next : delivery.next.BytesLeft (left.drop count)

namespace Cursor

variable {cursor : Cursor Script} {left : Bytes}

/-- **A unit of one byte gives the first byte that is left.** -/
theorem givesBytes_crossing (h : cursor.BytesLeft left) :
    (cursor.crossing (Inlet.takeUpTo 1)).GivesBytes 1 left := by
  obtain ⟨hreadsOut, given, hholds, rfl⟩ := h
  fun_induction crossing (Inlet.takeUpTo 1) cursor generalizing given with
  | case1 cursor hphase =>
    rw [hholds.of_exhausted hphase]
    exact ⟨rfl, rfl, hreadsOut, [], .exhausted hphase, rfl⟩
  | case2 cursor id held reader hphase reply cursor' error =>
    rename_i hfault
    obtain ⟨content, hcourse, -⟩ := hholds.of_active hphase
    cases (Inlet.takeUpTo_of_content hcourse).1.symm.trans hfault
  | case3 cursor id held reader hphase reply cursor' hfault hgot _ =>
    rename_i ih
    obtain ⟨content, hcourse, rfl⟩ := hholds.of_active hphase
    obtain ⟨-, hsame, htake, hrest⟩ := Inlet.takeUpTo_of_content hcourse
    obtain rfl : content = [] :=
      (List.take_eq_nil_iff.1 (htake.symm.trans (List.isEmpty_iff.1 hgot))).resolve_left Nat.one_ne_zero
    rw [List.flatMap_cons, List.nil_append]
    exact ih hreadsOut _ (holds_close hsame hrest)
  | case4 cursor id held reader hphase reply cursor' hfault =>
    rename_i hgot
    obtain ⟨content, hcourse, rfl⟩ := hholds.of_active hphase
    obtain ⟨-, hsame, htake, hrest⟩ := Inlet.takeUpTo_of_content hcourse
    cases content with
    | nil => exact absurd (List.isEmpty_iff.2 htake) hgot
    | cons b content =>
      rw [List.flatMap_cons]
      exact ⟨htake, rfl, hreadsOut, _, holds_withInlet hsame hrest, List.flatMap_cons⟩
  | case5 cursor hphase hnext =>
    have hnil : cursor.remaining = [] := SourceList.remaining_next?_none hnext
    rw [hholds.of_idle hphase, hnil]
    exact ⟨rfl, rfl, hreadsOut, [], .exhausted rfl, rfl⟩
  | case6 cursor hphase source rest hnext error hopen =>
    have hremaining : cursor.remaining = source :: rest.remaining :=
      SourceList.remaining_next? hnext
    obtain ⟨reader, hopened, -⟩ := hreadsOut source (hremaining ▸ List.mem_cons_self)
    cases hopen.symm.trans hopened
  | case7 cursor hphase source rest hnext reader hopen _ ih =>
    have hremaining : cursor.remaining = source :: rest.remaining :=
      SourceList.remaining_next? hnext
    obtain ⟨reader', hopened, hreads⟩ := hreadsOut source (hremaining ▸ List.mem_cons_self)
    cases hopen.symm.trans hopened
    rw [hholds.of_idle hphase, hremaining, contents, hopen]
    refine ih (fun later hlater => ?_) _ (.active rfl (hreads.course _))
    exact hreadsOut later (hremaining ▸ List.mem_cons_of_mem source hlater)

/-- So many bytes are gathered from the front of what is left. -/
theorem givesBytes_gather (hpending : cursor.pending = none) (h : cursor.BytesLeft left) (count : Nat) :
    (cursor.gather count).GivesBytes count left := by
  induction count generalizing cursor left with
  | zero =>
    rw [gather_zero]
    exact ⟨List.take_zero.symm, rfl, h⟩
  | succ count ih =>
    have hunit := givesBytes_crossing h
    rw [← readUnit_of_none hpending] at hunit
    have hnone : (cursor.readUnit (Inlet.takeUpTo 1)).next.pending = none := pending_readUnit cursor
    rw [gather_succ]
    cases left with
    | nil =>
      have hgot : (cursor.readUnit (Inlet.takeUpTo 1)).got = [] := hunit.got
      rw [if_pos hgot]
      exact ⟨hgot, hunit.fault, hunit.next⟩
    | cons b later =>
      have hrest := ih hnone hunit.next
      have hgot : (cursor.readUnit (Inlet.takeUpTo 1)).got = [b] := hunit.got
      rw [if_neg (by rw [hgot]; exact List.cons_ne_nil b []), hgot]
      exact ⟨congrArg (b :: ·) hrest.got, hrest.fault, hrest.next⟩

/-- **So many bytes are read from the front of what is left**, and nothing just if nothing is left. -/
theorem read_of_bytesLeft {count : Nat} (hcount : count ≠ 0) (hpending : cursor.pending = none)
    (h : cursor.BytesLeft left) :
    (cursor.read count).1 = .ok (if left = [] then none else some (left.take count))
      ∧ (cursor.read count).2.pending = none ∧ (cursor.read count).2.BytesLeft (left.drop count) := by
  have hgather := givesBytes_gather hpending h count
  have hread : cursor.read count
      = (.ok (if (cursor.gather count).got.isEmpty then none else some (cursor.gather count).got),
          (cursor.gather count).next) := by
    rw [Cursor.read, if_neg hcount, Delivery.holdBack, hgather.fault]
    rfl
  rw [hread, hgather.got]
  refine ⟨?_, pending_gather hcount, hgather.next⟩
  by_cases hleft : left = []
  · rw [hleft, List.take_nil]
    rfl
  · have htake : left.take count ≠ [] := fun hnil =>
      (List.take_eq_nil_iff.1 hnil).elim hcount hleft
    rw [if_neg hleft, if_neg (by simpa using htake)]

end Cursor

end InputChain
