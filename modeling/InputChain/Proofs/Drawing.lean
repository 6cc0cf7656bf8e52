import InputChain.Proofs.Accesses
import InputChain.Proofs.Course

/-!
# Drawing on standard input

Whoever reads standard input draws on what all its readers share. What a unit takes of it, and what it
leaves in the held block, is gone from what the others can still read; and nothing else is gone.

* `Inlet.Draws`: a unit stays with its source and draws what it takes; the block it leaves is no longer
  than a block.
* `Inlet.draws_takeUpTo`, `Inlet.draws_readUntil`, `Inlet.draws_readRest`, `Inlet.draws_read`: such
  units take what they give.
* `Inlet.draws_fill`: what is only shown is not taken.
* **`Inlet.IsUnit.draws`**: every unit.
* `Inlet.IsUnit.unfailing`, `Inlet.left_of_reportsEnd`: standard input does not fail, and reports its end
  only when nothing is left of it.
-/

namespace InputChain

namespace StandardInput

variable (room : Nat) (input : StandardInput)

theorem length_got_read : (input.read room).1.length ≤ room := by
  unfold read
  split
  · exact List.length_take_le ..
  · exact List.length_take_le ..

/-- What is left after a request is the end of what was left before. -/
theorem suffix_read : (input.read room).2.left <:+ input.left :=
  ⟨(input.read room).1, input.read_append_left room⟩

/-- With nothing left it is as it was opened. -/
theorem eq_of_left {input : StandardInput} (hleft : input.left = []) : input = {} := by
  obtain ⟨held, untaken⟩ := input
  obtain ⟨rfl, rfl⟩ := List.append_eq_nil_iff.1 hleft
  rfl

end StandardInput

theorem Script.length_got_read (room : Nat) (script : Script) :
    (script.read room).got.length ≤ room := by
  unfold read
  split
  · exact Nat.zero_le room
  · split
    · exact Nat.zero_le room
    · exact Nat.zero_le room
    · split
      · rename_i hfits
        exact hfits
      · exact List.length_take_le ..

namespace Inlet

/-- A unit that took these bytes stays with its source. Of standard input it drew what it took, and
what it left held, and no other reader drew anything in between. -/
structure Draws (inlet : Inlet Script) (taken : Bytes) (next : Inlet Script) : Prop where
  same : inlet.SameSource next
  suffix : next.input.left <:+ inlet.input.left
  drawn : inlet.reader = .standardInput →
    inlet.held ++ inlet.input.left = taken ++ (next.held ++ next.input.left)
  /-- No more than a block is held. -/
  bound : inlet.held.length ≤ blockSize → next.held.length ≤ blockSize

namespace Draws

variable {inlet next last : Inlet Script} {taken more : Bytes}

theorem refl (inlet : Inlet Script) : inlet.Draws [] inlet :=
  ⟨.refl inlet, List.suffix_rfl, fun _ => rfl, id⟩

theorem trans (h : inlet.Draws taken next) (h' : next.Draws more last) :
    inlet.Draws (taken ++ more) last where
  same := h.same.trans h'.same
  suffix := h'.suffix.trans h.suffix
  drawn hreader := by
    rw [h.drawn hreader, h'.drawn (h.same.reader.2 hreader), List.append_assoc]
  bound := h'.bound ∘ h.bound

/-- What is held is taken from its front. -/
theorem consume (h : inlet.Draws [] next) (count : Nat) :
    inlet.Draws (next.held.take count) (next.consume count) where
  same := ⟨h.same.reader, h.same.input⟩
  suffix := h.suffix
  drawn hreader := by
    have hheld : next.held.take count ++ (next.consume count).held = next.held :=
      List.take_append_drop count next.held
    rw [h.drawn hreader, List.nil_append, ← List.append_assoc, hheld]
    rfl
  bound hheld := by
    have hdrop : (next.consume count).held.length = next.held.length - count := List.length_drop
    have hbound := h.bound hheld
    omega

end Draws

/-! ## One request -/

/-- A request to the reader, whether made again when it is interrupted or not. -/
theorem draws_pullBy {request : Script → Reply Script} {room : Nat} {inlet : Inlet Script}
    (hheld : inlet.held = []) :
    inlet.Draws (inlet.pullBy request room).got (inlet.pullBy request room).next := by
  obtain ⟨held, script | _, input⟩ := inlet
  · exact ⟨.of_script, List.suffix_rfl, nofun, id⟩
  · obtain rfl : held = [] := hheld
    exact ⟨.of_standardInput, input.suffix_read room, fun _ => (input.read_append_left room).symm, id⟩

theorem draws_pull (room : Nat) {inlet : Inlet Script} (hheld : inlet.held = []) :
    inlet.Draws (inlet.pull room).got (inlet.pull room).next := draws_pullBy hheld

theorem draws_pullThrough (room : Nat) {inlet : Inlet Script} (hheld : inlet.held = []) :
    inlet.Draws (inlet.pullThrough room).got (inlet.pullThrough room).next := draws_pullBy hheld

theorem length_got_pullBy {request : Script → Reply Script} {room : Nat}
    (hrequest : ∀ script, (request script).got.length ≤ room) (inlet : Inlet Script) :
    (inlet.pullBy request room).got.length ≤ room := by
  obtain ⟨held, script | _, input⟩ := inlet
  · exact hrequest script
  · exact input.length_got_read room

theorem length_got_pull (room : Nat) (inlet : Inlet Script) : (inlet.pull room).got.length ≤ room :=
  length_got_pullBy (Script.length_got_read room) inlet

theorem length_got_pullThrough (room : Nat) (inlet : Inlet Script) : (inlet.pullThrough room).got.length ≤ room :=
  length_got_pullBy (fun _ => Script.length_got_read room _) inlet

section Fill

variable {request : Inlet Script → Reply (Inlet Script)}
  (hdraws : ∀ {inlet : Inlet Script}, inlet.held = [] →
    inlet.Draws (request inlet).got (request inlet).next)
  (hheld : ∀ inlet, (request inlet).next.held = inlet.held)
  (hbound : ∀ inlet, (request inlet).got.length ≤ blockSize)

include hdraws hheld hbound

/-- What a request gave is held and not taken yet. -/
theorem draws_fillBy (inlet : Inlet Script) : inlet.Draws [] (inlet.fillBy request).next := by
  unfold fillBy
  split
  · rename_i hempty
    have hnil := List.isEmpty_iff.1 hempty
    have h := hdraws hnil
    refine ⟨⟨h.same.reader, h.same.input⟩, h.suffix, fun hreader => ?_, fun _ => hbound inlet⟩
    rw [h.drawn hreader, hheld, hnil]
    rfl
  · exact .refl inlet

end Fill

/-! ## The units -/

variable {inlet : Inlet Script}

/-- **What is only shown is not taken.** -/
theorem draws_fill (inlet : Inlet Script) : inlet.Draws [] inlet.fill.next :=
  draws_fillBy (draws_pull blockSize) (fun inlet => held_pull _ inlet)
    (fun inlet => length_got_pull _ inlet) inlet

theorem draws_fillThrough (inlet : Inlet Script) : inlet.Draws [] inlet.fillThrough.next :=
  draws_fillBy (draws_pullThrough blockSize) (fun inlet => held_pullThrough _ inlet)
    (fun inlet => length_got_pullThrough _ inlet) inlet

theorem draws_takeUpTo (count : Nat) (inlet : Inlet Script) :
    inlet.Draws (inlet.takeUpTo count).got (inlet.takeUpTo count).next := by
  have h := inlet.draws_fill.consume count
  rwa [show inlet.fill.next.held = inlet.fill.got from held_fillBy] at h

theorem draws_read (room : Nat) (inlet : Inlet Script) :
    inlet.Draws (inlet.read room).got (inlet.read room).next := by
  unfold read
  split
  · rename_i hpast
    exact draws_pull room (List.isEmpty_iff.1 hpast.1)
  · exact draws_takeUpTo room inlet

theorem draws_readUntil (stop : UInt8) (inlet : Inlet Script) :
    inlet.Draws (inlet.readUntil stop).got (inlet.readUntil stop).next := by
  fun_induction readUntil stop inlet with
  | case1 inlet filled hgot =>
    rw [hgot]
    exact inlet.draws_fillThrough
  | case2 inlet filled hgot line rest hsplit =>
    have hfill : inlet.Draws [] filled.next := inlet.draws_fillThrough
    have hheld : filled.next.held = line ++ rest :=
      held_fillBy.trans (append_of_splitThrough hsplit).symm
    refine ⟨⟨hfill.same.reader, hfill.same.input⟩, hfill.suffix, fun hreader => ?_, fun hbound => ?_⟩
    · rw [hfill.drawn hreader, hheld, List.nil_append, List.append_assoc]
    · have hfilled := hfill.bound hbound
      rw [hheld, List.length_append] at hfilled
      show rest.length ≤ blockSize
      omega
  | case3 inlet filled hgot hsplit _ more ih =>
    have hfill : inlet.Draws [] filled.next := inlet.draws_fillThrough
    have hheld : filled.next.held = filled.got := held_fillBy
    have hblock : inlet.Draws filled.got { filled.next with held := [] } := by
      refine ⟨⟨hfill.same.reader, hfill.same.input⟩, hfill.suffix, fun hreader => ?_,
        fun _ => Nat.zero_le blockSize⟩
      rw [hfill.drawn hreader, hheld]
      rfl
    exact hblock.trans ih

theorem draws_readRest (inlet : Inlet Script) :
    inlet.Draws inlet.readRest.got inlet.readRest.next := by
  obtain ⟨held, script | _, input⟩ := inlet
  · exact ⟨.of_script, List.suffix_rfl, nofun, fun _ => Nat.zero_le blockSize⟩
  · refine ⟨.of_standardInput, List.nil_suffix, fun _ => ?_, fun _ => Nat.zero_le blockSize⟩
    show held ++ input.left = held ++ input.left ++ []
    rw [List.append_nil]

namespace IsUnit

variable {unit : Inlet Script → Reply (Inlet Script)} (hunit : IsUnit unit)

include hunit

/-- **Every unit stays with its source, and draws what it takes.** -/
theorem draws (inlet : Inlet Script) : ∃ taken, inlet.Draws taken (unit inlet).next := by
  cases hunit with
  | takeUpTo => exact ⟨_, draws_takeUpTo _ inlet⟩
  | readUntil stop => exact ⟨_, draws_readUntil stop inlet⟩
  | readRest => exact ⟨_, draws_readRest inlet⟩
  | read => exact ⟨_, draws_read _ inlet⟩
  | fill => exact ⟨_, draws_fill inlet⟩

end IsUnit

/-! ## Standard input -/

theorem unfailing_fillBy {request : Inlet Script → Reply (Inlet Script)}
    (hrequest : (request inlet).fault = none) : (inlet.fillBy request).fault = none := by
  unfold fillBy
  split
  · exact hrequest
  · rfl

section StandardInput

variable (hreader : inlet.reader = .standardInput)

include hreader

theorem pullBy_of_standardInput (request : Script → Reply Script) (room : Nat) :
    inlet.pullBy request room = inlet.ofInput (inlet.input.read room) := by
  rw [pullBy, hreader]

theorem unfailing_pull (room : Nat) : (inlet.pull room).fault = none :=
  congrArg Reply.fault (pullBy_of_standardInput hreader _ room)

theorem unfailing_pullThrough (room : Nat) : (inlet.pullThrough room).fault = none :=
  congrArg Reply.fault (pullBy_of_standardInput hreader _ room)

theorem unfailing_takeUpTo (count : Nat) : (inlet.takeUpTo count).fault = none :=
  unfailing_fillBy (unfailing_pull hreader blockSize)

theorem unfailing_readUntil (stop : UInt8) : (inlet.readUntil stop).fault = none := by
  fun_induction readUntil stop inlet with
  | case1 inlet filled hgot => exact unfailing_fillBy (unfailing_pullThrough hreader blockSize)
  | case2 => rfl
  | case3 inlet filled hgot hsplit _ more ih =>
    exact ih (inlet.draws_fillThrough.same.reader.2 hreader)

/-- Standard input does not fail. -/
theorem IsUnit.unfailing {unit : Inlet Script → Reply (Inlet Script)} (hunit : IsUnit unit) :
    (unit inlet).fault = none := by
  cases hunit with
  | takeUpTo => exact unfailing_takeUpTo hreader _
  | readUntil stop => exact unfailing_readUntil hreader stop
  | readRest =>
    unfold Inlet.readRest
    rw [hreader]
    rfl
  | @read room hroom =>
    unfold Inlet.read
    split
    · exact unfailing_pull hreader room
    · exact unfailing_takeUpTo hreader room
  | fill => exact unfailing_fillBy (unfailing_pull hreader blockSize)

/-- It reports its end only when nothing is left of it. -/
theorem left_of_reportsEnd {later : Inlet Script} (hend : inlet.ReportsEnd later) :
    inlet.held = [] ∧ inlet.input.left = [] ∧ later = { inlet with input := {} } := by
  obtain ⟨hheld, room, hroom, hpull⟩ := hend
  have hread : inlet.pullThrough room = inlet.ofInput (inlet.input.read room) :=
    pullBy_of_standardInput hreader _ room
  have hnone : (inlet.input.read room).1 = [] := congrArg Reply.got (hread.symm.trans hpull)
  have hleft := inlet.input.left_read_of_nil hroom hnone
  refine ⟨hheld, ?_, ?_⟩
  · rw [← inlet.input.read_append_left room, hnone, hleft]
    rfl
  · rw [← StandardInput.eq_of_left hleft]
    exact (congrArg Reply.next (hread.symm.trans hpull)).symm

/-- It gives nothing only when nothing is left of it. -/
theorem IsUnit.left_of_nil {unit : Inlet Script → Reply (Inlet Script)} (hunit : IsUnit unit)
    (hgot : (unit inlet).got = []) :
    inlet.held = [] ∧ inlet.input.left = [] ∧ (unit inlet).next = { inlet with input := {} } :=
  left_of_reportsEnd hreader (hunit.meetsEnd inlet hgot (hunit.unfailing hreader))

end StandardInput

end Inlet

end InputChain
