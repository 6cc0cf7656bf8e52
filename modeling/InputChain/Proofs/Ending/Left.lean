import InputChain.Proofs.Ending.Kept

/-!
# What is left of a stream

Over readers that never fail and have no end in front of an answer, every read takes the front of what
is left, and gives nothing only when nothing is left.

* `Script.Unbroken`: readers that never fail and come to no end in front of an answer.
* `Reply.Fronts`, `Inlet.fronts_takeUpTo`, `Inlet.fronts_readUntil`, `Inlet.fronts_readRest`: units
  that take the front of what is left of a source.
* `Cursor.left`, `Delivery.Fronts`: what is left of a stream, and its front.
* `Cursor.fronts_readUnit`, `Cursor.fronts_gather`, **`Cursor.gatherRest_of_whole`**: deliveries.
-/

namespace InputChain

/-! ## Readers that never fail -/

namespace Script

/-- The reader never fails, and comes to no end in front of an answer. -/
def Unbroken (script : Script) : Prop :=
  script.thereafter = none
    ∧ ∀ answer ∈ script.answers, ∃ content, content ≠ [] ∧ answer = .bytes content

variable {script : Script} {answer : Answer} {rest : List Answer} {thereafter : Option IoError}

theorem Unbroken.unfailing (h : script.Unbroken) : script.Unfailing :=
  ⟨h.1, fun answer hanswer => (h.2 answer hanswer).imp fun _ hcontent => hcontent.2⟩

theorem Unbroken.tail (h : Unbroken ⟨answer :: rest, thereafter⟩) : Unbroken ⟨rest, thereafter⟩ :=
  ⟨h.1, fun given hgiven => h.2 given (List.mem_cons_of_mem answer hgiven)⟩

theorem Unbroken.cons {content : Bytes} (h : Unbroken ⟨rest, thereafter⟩) (hcontent : content ≠ []) :
    Unbroken ⟨.bytes content :: rest, thereafter⟩ := by
  refine ⟨h.1, fun given hgiven => ?_⟩
  rcases List.mem_cons.1 hgiven with rfl | hgiven
  · exact ⟨content, hcontent, rfl⟩
  · exact h.2 given hgiven

/-- Cut at its first end, a reader that never fails comes to no other. -/
theorem Unfailing.cut (h : script.Unfailing) : script.cut.Unbroken := by
  obtain ⟨answers, thereafter⟩ := script
  induction answers with
  | nil => exact ⟨h.1, fun answer hanswer => (nomatch hanswer)⟩
  | cons answer rest ih =>
    obtain ⟨content, rfl⟩ := h.2 answer List.mem_cons_self
    by_cases hcontent : content = []
    · subst hcontent
      exact ⟨rfl, fun answer hanswer => (nomatch hanswer)⟩
    · rw [cut_bytes hcontent]
      exact (ih h.tail).cons hcontent

/-- What is cut off is behind the first end. -/
theorem Unfailing.drain_cut (h : script.Unfailing) : script.cut.drain.got = script.drain.got := by
  obtain ⟨answers, thereafter⟩ := script
  induction answers with
  | nil => rfl
  | cons answer rest ih =>
    obtain ⟨content, rfl⟩ := h.2 answer List.mem_cons_self
    by_cases hcontent : content = []
    · subst hcontent
      rfl
    · rw [cut_bytes hcontent, drain_bytes hcontent, drain_bytes hcontent]
      exact congrArg (content ++ ·) (ih h.tail)

theorem Unbroken.next_drain (h : script.Unbroken) : script.drain.next = ⟨[], none⟩ := by
  obtain ⟨answers, thereafter⟩ := script
  induction answers with
  | nil =>
    obtain rfl : thereafter = none := h.1
    rfl
  | cons answer rest ih =>
    obtain ⟨content, hcontent, rfl⟩ := h.2 answer List.mem_cons_self
    rw [drain_bytes hcontent]
    exact ih h.tail

/-- A request takes the front of what is read to the end. -/
theorem Unbroken.read {room : Nat} (hroom : room ≠ 0) (h : script.Unbroken) :
    (script.read room).fault = none ∧ (script.read room).next.Unbroken
      ∧ script.drain.got = (script.read room).got ++ (script.read room).next.drain.got
      ∧ ((script.read room).got = [] → script.drain.got = []) := by
  obtain ⟨answers, thereafter⟩ := script
  unfold Script.read
  rw [if_neg hroom]
  match answers with
  | [] => exact ⟨h.1, h, rfl, fun _ => rfl⟩
  | answer :: rest =>
    obtain ⟨content, hcontent, rfl⟩ := h.2 answer List.mem_cons_self
    by_cases hfits : content.length ≤ room
    · simp only [if_pos hfits]
      refine ⟨trivial, h.tail, ?_, fun hgot => absurd hgot hcontent⟩
      rw [drain_bytes hcontent]
      rfl
    · simp only [if_neg hfits]
      have hdrop : content.drop room ≠ [] := by simpa using hfits
      have htake : content.take room ≠ [] := by simp [hroom, hcontent]
      refine ⟨trivial, h.tail.cons hdrop, ?_, fun hgot => absurd hgot htake⟩
      rw [drain_bytes hcontent, drain_bytes hdrop]
      show content ++ _ = content.take room ++ (content.drop room ++ _)
      rw [← List.append_assoc, List.take_append_drop]

end Script

/-! ## Units that take the front of what is left of a source -/

/-- A request that gives nothing finds nothing left. -/
theorem StandardInput.read_of_end {room : Nat} (hroom : room ≠ 0) {input : StandardInput}
    (h : (input.read room).1 = []) : (input.read room).2 = {} := by
  obtain ⟨held, untaken⟩ := input
  cases held with
  | nil =>
    by_cases hdirect : blockSize ≤ room
    · simp only [read, List.isEmpty_nil, hdirect, and_self, if_true] at h ⊢
      obtain rfl := (List.take_eq_nil_iff.1 h).resolve_left hroom
      rw [List.drop_nil]
    · simp only [read, hdirect, and_false, if_false, refill, List.isEmpty_nil, if_true] at h ⊢
      have hblock := (List.take_eq_nil_iff.1 h).resolve_left hroom
      obtain rfl := (List.take_eq_nil_iff.1 hblock).resolve_left (by decide)
      simp
  | cons b rest =>
    simp only [read, List.isEmpty_cons, Bool.false_eq_true, false_and, if_false, refill] at h
    exact absurd ((List.take_eq_nil_iff.1 h).resolve_left hroom) (List.cons_ne_nil b rest)

/-- What the reader gives never fails, and comes to no end but its last. -/
def Reader.Unbroken : Reader Script → Prop
  | .script answers => answers.Unbroken
  | .standardInput => True

/-- Of what is left of an inlet, the reply takes these bytes in front. After a reply that gives nothing,
nothing was left. -/
structure Reply.Fronts (taken : Bytes) (inlet : Inlet Script) (reply : Reply (Inlet Script)) :
    Prop where
  fault : reply.fault = none
  reader : reply.next.reader.Unbroken
  left : inlet.readRest.got = taken ++ reply.next.readRest.got
  input : reply.next.readRest.next.input = inlet.readRest.next.input
  ended : reply.got = [] →
    inlet.readRest.got = [] ∧ reply.next.input = inlet.readRest.next.input

namespace Inlet

/-- Held bytes are read first. -/
theorem readRest_of_held {front rest : Bytes} {inlet : Inlet Script}
    (hheld : inlet.held = front ++ rest) :
    inlet.readRest = (readRest { inlet with held := rest }).after front := by
  obtain ⟨held, reader, input⟩ := inlet
  subst hheld
  cases reader <;> simp only [readRest, ofScript, ofInput, Reply.after, List.append_assoc]

variable {inlet : Inlet Script} (h : inlet.reader.Unbroken)

include h

/-- The held block is still left. -/
theorem fronts_fill : inlet.fill.Fronts [] inlet := by
  obtain ⟨held, reader, input⟩ := inlet
  cases held with
  | cons b rest => exact ⟨rfl, h, rfl, rfl, fun hgot => (nomatch hgot)⟩
  | nil =>
    cases reader with
    | script script =>
      obtain ⟨hfault, hnext, hgot, hended⟩ :=
        Script.Unbroken.read (show blockSize ≠ 0 by decide) (show script.Unbroken from h)
      exact ⟨hfault, hnext, hgot, rfl, fun hnil => ⟨hended hnil, rfl⟩⟩
    | standardInput =>
      have hleft := input.read_append_left blockSize
      refine ⟨rfl, trivial, hleft.symm, rfl, fun hnil => ?_⟩
      have hend := StandardInput.read_of_end (show blockSize ≠ 0 by decide) hnil
      refine ⟨hleft.symm.trans ?_, hend⟩
      rw [hend]
      exact List.append_eq_nil_iff.2 ⟨hnil, rfl⟩

theorem fronts_takeUpTo {count : Nat} (hcount : count ≠ 0) :
    (inlet.takeUpTo count).Fronts (inlet.takeUpTo count).got inlet := by
  obtain ⟨hfault, hreader, hleft, hinput, hended⟩ := fronts_fill h
  have hheld : inlet.fill.next.held = inlet.fill.got := held_fillBy
  have htake := readRest_of_held (List.take_append_drop count inlet.fill.next.held).symm
  have hfront : (inlet.takeUpTo count).got = inlet.fill.next.held.take count := by
    rw [hheld]
    rfl
  rw [htake, ← hfront] at hleft
  refine ⟨hfault, hreader, hleft, (congrArg (·.next.input) htake).symm.trans hinput, fun hgot => ?_⟩
  exact hended ((List.take_eq_nil_iff.1 hgot).resolve_left hcount)

/-- Nothing interrupts a request. -/
theorem fillThrough_of_unbroken : inlet.fillThrough = inlet.fill := by
  refine fillThrough_eq_fill fun script hscript => ?_
  rw [hscript] at h
  have hawake : script.awake = script := (Script.Unbroken.unfailing h).awake
  exact congrArg (Script.read blockSize) hawake

theorem fronts_readUntil (stop : UInt8) :
    (inlet.readUntil stop).Fronts (inlet.readUntil stop).got inlet := by
  fun_induction readUntil stop inlet with
  | case1 inlet filled =>
    rename_i hgot
    obtain ⟨hfault, hreader, hleft, hinput, hended⟩ := fillThrough_of_unbroken h ▸ fronts_fill h
    exact ⟨hfault, hreader, hgot.symm ▸ hleft, hinput, hended⟩
  | case2 inlet filled hgot line rest =>
    rename_i hsplit
    obtain ⟨-, hreader, hleft, hinput, -⟩ := fillThrough_of_unbroken h ▸ fronts_fill h
    have hheld : inlet.fillThrough.next.held = inlet.fillThrough.got := held_fillBy
    have hline := readRest_of_held (hheld.trans (append_of_splitThrough hsplit).symm)
    rw [hline] at hleft hinput
    exact ⟨rfl, hreader, hleft, hinput, fun hnil => absurd hnil (ne_nil_of_splitThrough hsplit)⟩
  | case3 inlet filled hgot hsplit _ more =>
    rename_i ih
    obtain ⟨-, hreader, hleft, hinput, -⟩ := fillThrough_of_unbroken h ▸ fronts_fill h
    have hheld : inlet.fillThrough.next.held = inlet.fillThrough.got := held_fillBy
    have hblock := @readRest_of_held _ [] _ (hheld.trans (List.append_nil _).symm)
    rw [hblock] at hleft hinput
    obtain ⟨hfault', hreader', hleft', hinput', -⟩ := ih hreader
    refine ⟨hfault', hreader', ?_, hinput'.trans hinput, fun hnil => ?_⟩
    · have hmore := congrArg (inlet.fillThrough.got ++ ·) hleft'
      exact hleft.trans (hmore.trans (List.append_assoc ..).symm)
    · exact absurd (List.append_eq_nil_iff.1 hnil).1 hgot

theorem fronts_readRest : inlet.readRest.Fronts inlet.readRest.got inlet := by
  obtain ⟨held, script | _, input⟩ := inlet
  · have hnext : script.drain.next = ⟨[], none⟩ := Script.Unbroken.next_drain h
    have hrest : readRest ⟨[], .script script.drain.next, input⟩
        = ⟨[], none, ⟨[], .script ⟨[], none⟩, input⟩⟩ := by
      rw [hnext]
      rfl
    refine ⟨(Script.Unbroken.unfailing h).drain.1, ?_, ?_, rfl, fun hgot => ⟨hgot, rfl⟩⟩
    · show script.drain.next.Unbroken
      rw [hnext]
      exact ⟨rfl, fun answer hanswer => (nomatch hanswer)⟩
    · show _ = _ ++ (readRest ⟨[], .script script.drain.next, input⟩).got
      rw [hrest, List.append_nil]
  · exact ⟨rfl, trivial, (List.append_nil _).symm, rfl, fun hgot => ⟨hgot, rfl⟩⟩

end Inlet

/-! ## What is left of a stream -/

namespace Cursor

/-- What is left of sources that are opened one after another. -/
def leftOf (files : FileTree) : StandardInput → List (Source Script) → Bytes
  | _, [] => []
  | input, source :: rest =>
    match source.provider.opened files with
    | .error _ => leftOf files input rest
    | .ok reader =>
      let reply := Inlet.readRest ⟨[], reader, input⟩
      reply.got ++ leftOf files reply.next.input rest

/-- What is left of a stream. -/
def left (cursor : Cursor Script) : Bytes :=
  match cursor.phase with
  | .exhausted => []
  | .idle => leftOf cursor.world.files cursor.world.input cursor.remaining
  | .active _ held reader =>
    let reply := Inlet.readRest ⟨held, reader, cursor.world.input⟩
    reply.got ++ leftOf cursor.world.files reply.next.input cursor.remaining

/-- Every source opens, and every reader is unbroken. -/
structure Whole (files : FileTree) (cursor : Cursor Script) : Prop where
  fits : cursor.Over files (·.reader.Unbroken)
  opens : ∀ source ∈ cursor.remaining, ∃ reader, source.provider.opened files = .ok reader
  pending : cursor.pending = none

variable {files : FileTree} {cursor : Cursor Script}

theorem left_exhausted (hphase : cursor.phase = .exhausted) : cursor.left = [] := by
  rw [left, hphase]

theorem left_idle (hphase : cursor.phase = .idle) :
    cursor.left = leftOf cursor.world.files cursor.world.input cursor.remaining := by
  rw [left, hphase]

theorem left_active {id : String} {held : Bytes} {reader : Reader Script}
    (hphase : cursor.phase = .active id held reader) :
    cursor.left = (Inlet.readRest ⟨held, reader, cursor.world.input⟩).got
      ++ leftOf cursor.world.files (Inlet.readRest ⟨held, reader, cursor.world.input⟩).next.input
        cursor.remaining := by
  rw [left, hphase]

end Cursor

/-- The delivery takes the front of what is left of a stream. -/
structure Delivery.Fronts (files : FileTree) (cursor : Cursor Script) (delivery : Delivery Script) :
    Prop where
  fault : delivery.fault = none
  next : delivery.next.Whole files
  left : cursor.left = delivery.got ++ delivery.next.left

namespace Cursor

variable {files : FileTree} {cursor : Cursor Script}

section Unit

variable {unit : Inlet Script → Reply (Inlet Script)}
  (hunit : ∀ {inlet : Inlet Script}, inlet.reader.Unbroken → (unit inlet).Fronts (unit inlet).got inlet)

include hunit

theorem fronts_crossing (h : cursor.Whole files) : (cursor.crossing unit).Fronts files cursor := by
  fun_induction crossing unit cursor with
  | case1 cursor hphase => exact ⟨rfl, h, rfl⟩
  | case2 cursor id held reader hphase reply cursor' error hfault =>
    have hnone := (hunit (h.fits.active hphase)).fault
    rw [show (unit ⟨held, reader, cursor.world.input⟩).fault = some error from hfault] at hnone
    cases hnone
  | case3 cursor id held reader hphase reply cursor' hfault hgot _ ih =>
    have hfronts := hunit (h.fits.active hphase)
    obtain ⟨hnil, hinput⟩ := hfronts.ended (List.isEmpty_iff.1 hgot)
    obtain ⟨hfault', hnext, hleft⟩ := ih
      ⟨⟨h.fits.world, fun hactive => (by cases hactive), h.fits.sources⟩, h.opens, h.pending⟩
    refine ⟨hfault', hnext, Eq.trans ?_ hleft⟩
    rw [left_active hphase, hnil, List.nil_append, ← hinput]
    rfl
  | case4 cursor id held reader hphase reply cursor' hfault hgot =>
    have hfronts := hunit (h.fits.active hphase)
    refine ⟨rfl, ⟨h.fits.withInlet hfronts.reader, h.opens, h.pending⟩, ?_⟩
    rw [left_active hphase, hfronts.left, ← hfronts.input]
    exact List.append_assoc ..
  | case5 cursor hphase hnext =>
    refine ⟨rfl, ⟨⟨h.fits.world, fun hactive => (by cases hactive), h.fits.sources⟩, h.opens,
      h.pending⟩, ?_⟩
    have hnil : cursor.remaining = [] := SourceList.remaining_next?_none hnext
    rw [left_idle hphase, hnil]
    rfl
  | case6 cursor hphase source rest hnext error hopen =>
    have hremaining : cursor.remaining = source :: rest.remaining :=
      SourceList.remaining_next? hnext
    obtain ⟨reader, hreader⟩ := h.opens source (hremaining ▸ List.mem_cons_self)
    cases (h.fits.world ▸ hopen).symm.trans hreader
  | case7 cursor hphase source rest hnext reader hopen _ ih =>
    have hremaining : cursor.remaining = source :: rest.remaining :=
      SourceList.remaining_next? hnext
    have hentered : (cursor.enter source.id reader rest).Whole files :=
      ⟨h.fits.enter hremaining (h.fits.world ▸ hopen),
        fun given hgiven => h.opens given (hremaining ▸ List.mem_cons_of_mem _ hgiven), h.pending⟩
    obtain ⟨hfault', hnext', hleft⟩ := ih hentered
    refine ⟨hfault', hnext', Eq.trans ?_ hleft⟩
    rw [left_idle hphase, hremaining, leftOf, hopen]
    rfl

theorem fronts_readUnit (h : cursor.Whole files) : (cursor.readUnit unit).Fronts files cursor := by
  rw [readUnit_of_none h.pending]
  exact fronts_crossing hunit h

/-- A unit that gives nothing finds nothing left. -/
theorem left_of_readUnit_nil (h : cursor.Whole files) (hgot : (cursor.readUnit unit).got = []) :
    cursor.left = [] := by
  obtain ⟨hfault, -, hleft⟩ := fronts_readUnit hunit h
  rw [readUnit_of_none h.pending] at hgot hfault hleft
  rw [hleft, hgot, left_exhausted (phase_crossing_of_end hgot hfault)]
  rfl

end Unit

theorem fronts_gather {count : Nat} (h : cursor.Whole files) :
    (cursor.gather count).Fronts files cursor := by
  fun_induction gather count cursor with
  | case1 cursor => exact ⟨rfl, h, rfl⟩
  | case2 count cursor hcount delivery hgot =>
    exact fronts_readUnit (fun hreader => Inlet.fronts_takeUpTo hreader hcount) h
  | case3 count cursor hcount delivery hgot _ ih =>
    obtain ⟨-, hnext, hleft⟩ :=
      fronts_readUnit (fun hreader => Inlet.fronts_takeUpTo hreader hcount) h
    obtain ⟨hfault', hnext', hleft'⟩ := ih hnext
    refine ⟨hfault', hnext', ?_⟩
    rw [hleft, hleft']
    exact (List.append_assoc ..).symm

theorem left_of_gather_nil {count : Nat} (hcount : count ≠ 0) (h : cursor.Whole files)
    (hgot : (cursor.gather count).got = []) : cursor.left = [] := by
  refine left_of_readUnit_nil (fun hreader => Inlet.fronts_takeUpTo hreader hcount) h ?_
  refine Decidable.not_not.1 fun hsome => ?_
  rw [gather_of_got hcount hsome] at hgot
  exact hsome (List.append_eq_nil_iff.1 hgot).1

/-- A read to the end gives everything left. -/
theorem gatherRest_of_whole (h : cursor.Whole files) :
    cursor.gatherRest.fault = none ∧ cursor.gatherRest.got = cursor.left := by
  fun_induction gatherRest cursor with
  | case1 cursor delivery hfault =>
    have hnone := (fronts_readUnit Inlet.fronts_readRest h).fault
    rw [show (cursor.readUnit Inlet.readRest).fault = none from hnone] at hfault
    cases hfault
  | case2 cursor delivery hfault hgot =>
    refine ⟨(fronts_readUnit Inlet.fronts_readRest h).fault, ?_⟩
    exact hgot.trans (left_of_readUnit_nil Inlet.fronts_readRest h hgot).symm
  | case3 cursor delivery hfault hgot _ ih =>
    obtain ⟨-, hnext, hleft⟩ := fronts_readUnit Inlet.fronts_readRest h
    obtain ⟨hfault', hrest⟩ := ih hnext
    refine ⟨hfault', ?_⟩
    rw [hleft, ← hrest]
    rfl

end Cursor

end InputChain
