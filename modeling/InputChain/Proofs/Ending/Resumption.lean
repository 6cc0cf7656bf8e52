import InputChain.Proofs.Ending.Kept
import Mathlib.Data.List.TakeDrop

/-!
# Readers that resume

A reader that resumes is given away: from the source that resumes last, single reads lead to where
bytes are in hand right in front of an end behind which there is more, and there a read to the end, or
a read of a line and a fill, shows more than it does over the readers cut at their ends.

* `Source.resumes`: a source whose reader resumes.
* `Cursor.Indistinct`: no run of operations shows whether the readers were cut.
* `Cursor.MovedOn`, `Cursor.movedOn_crossing`, `Cursor.movedOn_gatherRest`: reads only move on.
* `Cursor.not_indistinct_of_goesOnThrough`, `Cursor.not_indistinct_of_goesOn`: right in front of an
  end a reader that goes on is found out.
* `Cursor.not_indistinct_of_active`, `Cursor.not_indistinct_of_idle`: so it is from further away.
* **`Cursor.indistinct_iff`**: nothing shows whether the readers were cut just if none resumes.
-/

namespace InputChain

/-- Whether the source opens to a reader that some read goes on past an end of. -/
def Source.resumes (files : FileTree) (source : Source Script) : Bool :=
  match source.provider.opened files with
  | .ok (.script answers) => answers.resumes
  | _ => false

namespace Cursor

variable {files : FileTree} {cursor : Cursor Script}

/-- What a caller sees of a run. -/
def observations (operations : List BlockingOperation) (cursor : Cursor Script) :
    List (Except Failure Response × Standing × Nat) :=
  (Run.trace serve operations cursor).map observe

/-- No run of operations shows whether the readers were cut at their first ends. -/
def Indistinct (files : FileTree) (cursor : Cursor Script) : Prop :=
  ∀ operations, (cursor.cut files).observations operations = cursor.observations operations

/-- What keeps every end leads from one such cursor to another. -/
theorem Indistinct.serve (h : cursor.Indistinct files) (hworld : cursor.world.files = files)
    (operation : BlockingOperation) (hkeeps : operation.keepsEnds) :
    (cursor.serve operation).2.Indistinct files := by
  intro operations
  have hstep := serve_cut_of_keepsEnds servedInBytes_of_all
    ⟨hworld, fun _ => trivial, fun _ _ _ _ _ => trivial⟩ hkeeps
  have hrun := h (operation :: operations)
  rw [observations, observations, Run.trace, Run.trace, List.map_cons, List.map_cons, hstep.eq] at hrun
  exact (List.cons.inj hrun).2

theorem Indistinct.observe (h : cursor.Indistinct files) (operation : BlockingOperation) :
    Cursor.observe ((cursor.cut files).serve operation) = Cursor.observe (cursor.serve operation) :=
  (List.cons.inj (h [operation])).1

/-- If no reader resumes, nothing does. -/
theorem Over.indistinct (h : cursor.Over files (Inlet.resumes · = false)) :
    cursor.Indistinct files := by
  intro operations
  induction operations generalizing cursor with
  | nil => rfl
  | cons operation rest ih =>
    have hstep := serve_cut h operation
    have hobserve := observe_map Reader.cut (Source.id_cut files) (cursor.serve operation)
    rw [observations, observations, Run.trace, Run.trace, List.map_cons, List.map_cons, hstep.eq]
    exact List.cons_eq_cons.2 ⟨hobserve, ih hstep.fits⟩

/-! ## Reads only move on -/

theorem position_crossing {unit : Inlet Script → Reply (Inlet Script)} :
    cursor.sources.position ≤ (cursor.crossing unit).next.sources.position := by
  fun_induction crossing unit cursor with
  | case1 => exact Nat.le_refl _
  | case2 => exact Nat.le_refl _
  | case3 _ _ _ _ _ _ _ _ _ _ ih => exact ih
  | case4 => exact Nat.le_refl _
  | case5 => exact Nat.le_refl _
  | case6 cursor hphase source rest hnext =>
    have hposition := SourceList.position_next? hnext
    show cursor.sources.position ≤ rest.position
    omega
  | case7 cursor hphase source rest hnext reader hopen _ ih =>
    have hposition := SourceList.position_next? hnext
    have hentered : rest.position
        ≤ ((cursor.enter source.id reader rest).crossing unit).next.sources.position := ih
    omega

/-- Nothing more is to come of the sources a cursor had been handed out. -/
def MovedOn (before after : Cursor Script) : Prop :=
  after.isExhausted ∨ before.sources.position < after.sources.position

/-- Where a cursor stands shows how many sources were handed out. -/
theorem position_of_standing {left right : Cursor Script} (h : left.standing = right.standing) :
    left.sources.position = right.sources.position := by
  have hindex : left.sourceIndex? = right.sourceIndex? := congrArg Standing.sourceIndex? h
  unfold sourceIndex? at hindex
  split at hindex <;> split at hindex <;> simp_all

theorem MovedOn.of_standing {before left right : Cursor Script} (h : before.MovedOn left)
    (hstanding : left.standing = right.standing) : before.MovedOn right := by
  have hexhausted : left.isExhausted = right.isExhausted :=
    congrArg Standing.isExhausted hstanding
  rwa [MovedOn, hexhausted, position_of_standing hstanding] at h

/-- An open source that was not passed is still to be read. -/
theorem not_movedOn_of_active {next : Cursor Script} {id : String} {held : Bytes}
    {reader : Reader Script} (hphase : next.phase = .active id held reader)
    (hposition : next.sources.position = cursor.sources.position) : ¬cursor.MovedOn next := by
  rintro (hexhausted | hlater)
  · rw [isExhausted, hphase] at hexhausted
    cases hexhausted
  · exact absurd (hposition ▸ hlater) (Nat.lt_irrefl _)

/-- With no source open, a unit is of a later source, or there is none. -/
theorem movedOn_crossing {unit : Inlet Script → Reply (Inlet Script)}
    (hphase : cursor.phase = .idle) : cursor.MovedOn (cursor.crossing unit).next := by
  cases hnext : cursor.sources.next? with
  | none =>
    rw [crossing_of_no_source hphase hnext]
    exact Or.inl rfl
  | some next =>
    obtain ⟨source, rest⟩ := next
    have hposition := SourceList.position_next? hnext
    suffices hlater : rest.position ≤ (cursor.crossing unit).next.sources.position from
      Or.inr (by omega)
    cases hopen : source.provider.opened cursor.world.files with
    | error error =>
      rw [crossing_of_refused hphase hnext hopen]
      exact Nat.le_refl _
    | ok reader =>
      rw [crossing_of_opened hphase hnext hopen]
      exact @position_crossing (cursor.enter source.id reader rest) unit

theorem position_readUnit {unit : Inlet Script → Reply (Inlet Script)} :
    cursor.sources.position ≤ (cursor.readUnit unit).next.sources.position := by
  unfold readUnit
  split
  · exact Nat.le_refl _
  · exact position_crossing

theorem position_gatherRest :
    cursor.sources.position ≤ cursor.gatherRest.next.sources.position := by
  fun_induction gatherRest cursor with
  | case1 cursor => exact position_readUnit
  | case2 cursor => exact position_readUnit
  | case3 cursor delivery _ _ _ ih => exact Nat.le_trans position_readUnit ih

theorem movedOn_gatherRest (hphase : cursor.phase = .idle) (hpending : cursor.pending = none) :
    cursor.MovedOn cursor.gatherRest.next := by
  cases hnext : cursor.sources.next? with
  | none =>
    rw [gatherRest_of_no_source hpending hphase hnext]
    exact Or.inl rfl
  | some next =>
    obtain ⟨source, rest⟩ := next
    have hposition := SourceList.position_next? hnext
    suffices hlater : rest.position ≤ cursor.gatherRest.next.sources.position from
      Or.inr (by omega)
    cases hopen : source.provider.opened cursor.world.files with
    | error error =>
      rw [gatherRest_of_refused hpending hphase hnext hopen]
      exact Nat.le_refl _
    | ok reader =>
      rw [gatherRest_of_opened hpending hphase hnext hopen]
      exact @position_gatherRest (cursor.enter source.id reader rest)

/-! ## Right in front of an end -/

section Active

variable {id : String} {held : Bytes} {script : Script}

/-- Read to the end, an open source fails, or all of it is given in front of what comes behind it. -/
theorem gatherRest_active (hphase : cursor.phase = .active id held (.script script))
    (hpending : cursor.pending = none) :
    (¬cursor.MovedOn cursor.gatherRest.next ∧ ¬script.Unfailing)
      ∨ ∃ extra, cursor.gatherRest = cursor.close.gatherRest.after extra
          ∧ (held ++ script.drain.got ≠ [] ∨ script.drain.fault.isSome → extra ≠ []) := by
  -- each read to the end leaves less for the next
  induction hsupply : script.supply + held.length using Nat.strongRecOn
    generalizing cursor held script with
  | ind supply ih =>
    have hread : Inlet.readRest ⟨held, .script script, cursor.world.input⟩
        = ⟨held ++ script.drain.got, script.drain.fault,
            ⟨[], .script script.drain.next, cursor.world.input⟩⟩ := rfl
    have hclosed : (cursor.withInlet id ⟨[], .script script.drain.next, cursor.world.input⟩).close
        = cursor.close := rfl
    cases hfault : script.drain.fault with
    | some error =>
      rw [gatherRest_of_fault hpending hphase hread hfault]
      refine Or.inl ⟨not_movedOn_of_active rfl rfl, fun h => ?_⟩
      cases hfault.symm.trans h.drain.1
    | none =>
      by_cases hgot : held ++ script.drain.got = []
      · rw [gatherRest_of_end hpending hphase hread hfault hgot, hclosed]
        refine Or.inr ⟨[], rfl, fun hsome => ?_⟩
        rcases hsome with hsome | hsome
        · exact absurd hgot hsome
        · cases hsome
      · rw [gatherRest_of_more hpending hphase hread hfault hgot]
        have hless : script.drain.next.supply + ([] : Bytes).length < supply := by
          have hdrain := script.supply_drain
          have hlength := List.length_pos_iff.2 hgot
          rw [List.length_append] at hlength
          rw [List.length_nil]
          omega
        rcases @ih _ hless
          (cursor.withInlet id ⟨[], .script script.drain.next, cursor.world.input⟩) []
          script.drain.next rfl hpending rfl with ⟨hstays, hfails⟩ | ⟨extra, hrest, -⟩
        · exact Or.inl ⟨hstays, fun h => hfails h.drain.2⟩
        · refine Or.inr ⟨held ++ script.drain.got ++ extra, ?_, fun _ hnil => ?_⟩
          · rw [hrest, hclosed, Delivery.after_after]
          · exact hgot (List.append_eq_nil_iff.1 hnil).1

end Active

variable {files : FileTree} {cursor : Cursor Script} {id : String} {held : Bytes} {script : Script}
  {rest : List Answer}

theorem Over.of_not_resumes (hworld : cursor.world.files = files) (hphase : cursor.phase = .idle)
    (hlater : ∀ source ∈ cursor.remaining, source.resumes files = false) :
    cursor.Over files (Inlet.resumes · = false) where
  world := hworld
  active hactive := by cases hphase.symm.trans hactive
  sources source hsource reader hopen input := by
    have hresumes := hlater source hsource
    rw [Source.resumes, hopen] at hresumes
    cases reader with
    | script answers => exact hresumes
    | standardInput => rfl

/-- Bytes in hand are given, whatever else is met. -/
theorem readToEnd_of_after {delivery : Delivery Script} (hheld : held ≠ [])
    (hrest : cursor.gatherRest = delivery.after held) :
    observe (cursor.serve (.common .readToEnd))
      = (.ok (.bytes (some (held ++ delivery.got))), delivery.next.standing,
          delivery.next.openings) := by
  rw [serve, perform, readToEnd, hrest]
  obtain ⟨got, _ | error, next⟩ := delivery
  · rfl
  · have hgot : (held ++ got).isEmpty = false := by
      rw [List.isEmpty_eq_false_iff]
      exact List.append_ne_nil_of_left_ne_nil hheld got
    simp only [Delivery.holdBack, Delivery.after, hgot]
    rfl

section Front

variable (hphase : cursor.phase = .active id held (.script script))
  (hpending : cursor.pending = none) (hheld : held ≠ [])
  (hends : script.awake.answers = .bytes [] :: rest)

include hphase hpending hheld hends

/-- Behind the end the reader itself is read on. -/
theorem gatherRest_of_front :
    ∃ behind : Cursor Script, behind.phase = .active id [] (.script ⟨rest, script.thereafter⟩)
      ∧ behind.pending = none ∧ behind.sources = cursor.sources ∧ behind.close = cursor.close
      ∧ cursor.gatherRest = behind.gatherRest.after held := by
  have hread : Inlet.readRest ⟨held, .script script, cursor.world.input⟩
      = ⟨held, none, ⟨[], .script ⟨rest, script.thereafter⟩, cursor.world.input⟩⟩ := by
    simp only [Inlet.readRest, Inlet.ofScript, Script.drain_of_awake hends, List.append_nil]
  refine ⟨cursor.withInlet id ⟨[], .script ⟨rest, script.thereafter⟩, cursor.world.input⟩,
    rfl, hpending, rfl, rfl, ?_⟩
  exact gatherRest_of_more hpending hphase hread rfl hheld

/-- The reader cut there is closed. -/
theorem gatherRest_cut_of_front (hclosed : cursor.close.Over files (Inlet.resumes · = false)) :
    (cursor.cut files).gatherRest = (cursor.close.gatherRest.cut files).after held := by
  have hread : Inlet.readRest ⟨held, .script script.cut, cursor.world.input⟩
      = ⟨held, none, ⟨[], .script ⟨[], none⟩, cursor.world.input⟩⟩ := by
    simp only [Inlet.readRest, Inlet.ofScript, Script.drain_cut_of_awake hends, List.append_nil]
  have hspent : Inlet.Spent ⟨[], .script ⟨[], none⟩, cursor.world.input⟩ := ⟨rfl, rfl, rfl⟩
  have hpending' : (cursor.cut files).pending = none := hpending
  rw [gatherRest_of_more hpending' (phase_cut_active hphase) hread rfl hheld,
    gatherRest_of_spent hpending' hspent, ← (gatherRest_cut hclosed hpending).1]
  refine congrArg (fun closed => (gatherRest closed).after held) ?_
  exact (cursor.close_map (Source.cut files) Reader.cut).symm

/-- A read to the end finds out what is behind an end, if it is more than interruptions. -/
theorem not_indistinct_of_goesOnThrough (hworld : cursor.world.files = files)
    (hlater : ∀ source ∈ cursor.remaining, source.resumes files = false)
    (hgoes : Script.goesOnThrough ⟨rest, script.thereafter⟩) : ¬cursor.Indistinct files := by
  intro hindistinct
  have hclosed : cursor.close.Over files (Inlet.resumes · = false) :=
    Over.of_not_resumes hworld rfl hlater
  obtain ⟨behind, hactive, hpending', hsources, hclose, hfront⟩ :=
    gatherRest_of_front hphase hpending hheld hends
  have hfrontCut := gatherRest_cut_of_front hphase hpending hheld hends hclosed
  have hsame := hindistinct.observe (.common .readToEnd)
  rw [readToEnd_of_after hheld hfront, readToEnd_of_after hheld hfrontCut] at hsame
  obtain ⟨hgot, hstanding⟩ := Prod.mk.inj hsame
  have hgot : held ++ cursor.close.gatherRest.got = held ++ behind.gatherRest.got :=
    Option.some.inj (Response.bytes.inj (Except.ok.inj hgot))
  have hstanding : cursor.close.gatherRest.next.standing = behind.gatherRest.next.standing :=
    (standing_map Reader.cut _ (Source.id_cut files)).symm.trans (Prod.mk.inj hstanding).1
  -- the cut reader was left behind, so the reader itself was too, and it gave something more
  rcases gatherRest_active hactive hpending' with ⟨hstays, -⟩ | ⟨extra, hrest, hextra⟩
  · have hmoved := (@movedOn_gatherRest cursor.close rfl hpending).of_standing hstanding
    exact hstays (by rwa [MovedOn, hsources])
  · rw [hrest, hclose] at hgot
    have hlength := congrArg List.length hgot
    have hpos := List.length_pos_iff.2 (hextra (Script.drain_of_goesOnThrough hgoes))
    simp only [Delivery.after, List.length_append] at hlength
    omega

end Front

/-- A line of which one byte is in hand is cut short by an end. -/
theorem serve_line_of_front {last : UInt8} {next : Script}
    (hphase : cursor.phase = .active id [last] (.script script))
    (hpending : cursor.pending = none) (hlast : last ≠ newline)
    (hread : script.awake.read blockSize = ⟨[], none, next⟩) :
    ∃ behind : Cursor Script, (cursor.serve (.common .readLineBytes)).2 = behind
      ∧ behind.phase = .active id [] (.script next) ∧ behind.pending = none
      ∧ behind.sources = cursor.sources := by
  have hfill : Inlet.fillThrough ⟨[], .script script, cursor.world.input⟩
      = ⟨[], none, ⟨[], .script next, cursor.world.input⟩⟩ := by
    show Reply.mk (script.awake.read blockSize).got (script.awake.read blockSize).fault
      (Inlet.mk (script.awake.read blockSize).got
        (.script (script.awake.read blockSize).next) cursor.world.input) = _
    rw [hread]
  have hsplit : Inlet.splitThrough newline [last] = none := by
    rw [Inlet.splitThrough, if_neg hlast]
    rfl
  have hline : Inlet.readUntil newline ⟨[last], .script script, cursor.world.input⟩
      = ⟨[last], none, ⟨[], .script next, cursor.world.input⟩⟩ := by
    have hheld : (Inlet.fillThrough ⟨[last], .script script, cursor.world.input⟩).got ≠ [] :=
      List.cons_ne_nil last []
    rw [Inlet.readUntil_of_block hheld hsplit]
    show (Inlet.readUntil newline ⟨[], .script script, cursor.world.input⟩).after [last] = _
    rw [Inlet.readUntil_of_end (by rw [hfill]), hfill]
    rfl
  refine ⟨(cursor.withInlet id ⟨[], .script next, cursor.world.input⟩).countLine,
    ?_, rfl, hpending, rfl⟩
  rw [serve, perform, readLineBytes, readUnit_of_none hpending,
    crossing_of_got hphase hline rfl (List.cons_ne_nil last [])]
  rfl

theorem serve_fill (hpending : cursor.pending = none) :
    (cursor.serve .fill).2 = (cursor.crossing Inlet.fill).next := by
  rw [← readUnit_of_none hpending]
  show (Seamless.fill cursor).answer.2 = (Seamless.fill cursor).next
  unfold Delivery.answer
  split <;> rfl

/-- A fill stays with a source that goes on. -/
theorem serve_fill_of_goesOn (hphase : cursor.phase = .active id [] (.script script))
    (hpending : cursor.pending = none) (hgoes : script.goesOn) :
    (cursor.serve .fill).2
      = cursor.withInlet id (Inlet.fill ⟨[], .script script, cursor.world.input⟩).next := by
  have hread : (Inlet.fill ⟨[], .script script, cursor.world.input⟩).got ≠ []
      ∨ (Inlet.fill ⟨[], .script script, cursor.world.input⟩).fault.isSome :=
    Script.read_of_goesOn (by decide) hgoes
  rw [serve_fill hpending, next_crossing_of_active hphase rfl hread]

/-- A fill goes on to the next source if the open one has ended. -/
theorem movedOn_serve_fill (hphase : cursor.phase = .active id [] (.script ⟨[], none⟩))
    (hpending : cursor.pending = none) : cursor.MovedOn (cursor.serve .fill).2 := by
  have hend : Inlet.fill ⟨[], .script ⟨[], none⟩, cursor.world.input⟩
      = ⟨[], none, ⟨[], .script ⟨[], none⟩, cursor.world.input⟩⟩ := rfl
  rw [serve_fill hpending, crossing_of_end hphase hend rfl rfl]
  exact @movedOn_crossing
    (cursor.withInlet id ⟨[], .script ⟨[], none⟩, cursor.world.input⟩).close Inlet.fill rfl

/-- A read of a line and a fill find out what is behind an end. -/
theorem not_indistinct_of_goesOn {last : UInt8}
    (hphase : cursor.phase = .active id [last] (.script script))
    (hpending : cursor.pending = none) (hlast : last ≠ newline)
    (hends : script.awake.answers = .bytes [] :: rest)
    (hgoes : Script.goesOn ⟨rest, script.thereafter⟩) : ¬cursor.Indistinct files := by
  intro hindistinct
  have hread : script.awake.read blockSize = ⟨[], none, ⟨rest, script.thereafter⟩⟩ := by
    rw [Script.awake_of_answers hends]
    rfl
  have hreadCut : script.cut.awake.read blockSize = ⟨[], none, ⟨[], none⟩⟩ := by
    rw [← Script.cut_awake, Script.awake_of_answers hends]
    rfl
  obtain ⟨behind, hbehind, hactive, hpending₁, hsources⟩ :=
    serve_line_of_front hphase hpending hlast hread
  obtain ⟨behindCut, hbehindCut, hactiveCut, hpendingCut, hsourcesCut⟩ :=
    @serve_line_of_front (cursor.cut files) id _ _ _ (phase_cut_active hphase) hpending hlast hreadCut
  -- the line is the same for both, but the fill stays with a reader that goes on
  have hrun := hindistinct [.common .readLineBytes, .fill]
  have hfills := (List.cons.inj (List.cons.inj hrun).2).1
  rw [hbehind, hbehindCut] at hfills
  have hstanding := (Prod.mk.inj (Prod.mk.inj hfills).2).1
  have hmoved := (movedOn_serve_fill hactiveCut hpendingCut).of_standing hstanding
  rw [serve_fill_of_goesOn hactive hpending₁ hgoes] at hmoved
  refine not_movedOn_of_active rfl ?_ hmoved
  rw [hsourcesCut]
  show behind.sources.position = cursor.sources.position
  rw [hsources]

/-! ## A source that resumes -/

theorem serve_consume (count : Nat) (hphase : cursor.phase = .active id held (.script script)) :
    (cursor.serve (.consume count)).2
      = { cursor with phase := .active id (held.drop count) (.script script) } := by
  show Seamless.consume count cursor = _
  rw [Seamless.consume, hphase]

/-- **An open source that resumes is found out** if none behind it does. -/
theorem not_indistinct_of_active (hphase : cursor.phase = .active id held (.script script))
    (hpending : cursor.pending = none) (hworld : cursor.world.files = files)
    (hlater : ∀ source ∈ cursor.remaining, source.resumes files = false)
    (hresumes : script.resumesAfter held.getLast?) : ¬cursor.Indistinct files := by
  intro hindistinct
  -- single blocks are asked for and taken until the end is right behind the bytes in hand
  induction hsupply : 2 * script.supply + held.length using Nat.strongRecOn
    generalizing cursor held script with
  | ind supply ih =>
    subst hsupply
    by_cases hheld : held = []
    · subst hheld
      have hgoes : script.goesOn := Script.goesOn_of_resumes hresumes
      have hnext := serve_fill_of_goesOn hphase hpending hgoes
      have hresumes' := Script.resumesAfter_read (by decide)
        (Script.read_of_goesOn (show blockSize ≠ 0 by decide) hgoes)
      refine ih _ (Script.supply_read_lt (show blockSize ≠ 0 by decide) hgoes hresumes) ?_ ?_ ?_ ?_
        (hresumes'.trans hresumes) (hindistinct.serve hworld .fill rfl) rfl
      all_goals rw [hnext]
      · rfl
      · exact hpending
      · exact hworld
      · exact hlater
    · have hlast := List.getLast?_eq_some_getLast hheld
      rw [hlast] at hresumes
      rcases Script.resumesAfter_some hresumes with ⟨rest, hends, hpasses⟩ | hresumes
      · rcases Bool.or_eq_true_iff.1 hpasses with hgoes | hgoes
        · exact not_indistinct_of_goesOnThrough hphase hpending hheld hends hworld hlater hgoes
            hindistinct
        · obtain ⟨hline, hgoes⟩ := Bool.and_eq_true_iff.1 hgoes
          have hnext := serve_consume (held.length - 1) hphase
          rw [List.drop_length_sub_one hheld] at hnext
          refine @not_indistinct_of_goesOn files _ id script rest (held.getLast hheld) ?_ ?_
            (by simpa using hline) hends hgoes
            (hindistinct.serve hworld (.consume (held.length - 1)) rfl)
          all_goals rw [hnext]
          exact hpending
      · have hnext := serve_consume held.length hphase
        rw [List.drop_length] at hnext
        have hpos := List.length_pos_iff.2 hheld
        refine @ih (2 * script.supply) (by omega) _ [] script ?_ ?_ ?_ ?_ hresumes
          (hindistinct.serve hworld (.consume held.length) rfl) rfl
        all_goals rw [hnext]
        · exact hpending
        · exact hworld
        · exact hlater

/-! ## A list with a source that resumes -/

section Idle

variable {source : Source Script} {sources : SourceList Script} (hphase : cursor.phase = .idle)
  (hpending : cursor.pending = none) (hworld : cursor.world.files = files)
  (hnext : cursor.sources.next? = some (source, sources))

include hphase hpending hworld hnext

/-- A source can be passed: what is found out behind it is found out. -/
theorem not_indistinct_of_passed (hbehind : ∀ behind : Cursor Script, behind.phase = .idle →
      behind.pending = none → behind.world.files = files → behind.sources = sources →
      ¬(behind.serve .fill).2.Indistinct files) :
    ¬(cursor.serve .fill).2.Indistinct files := by
  intro hindistinct
  rw [serve_fill hpending] at hindistinct
  cases hopen : source.provider.opened cursor.world.files with
  | error error =>
    rw [crossing_of_refused hphase hnext hopen] at hindistinct
    exact hbehind (cursor.refuse sources) hphase hpending hworld rfl
      (hindistinct.serve hworld .fill rfl)
  | ok reader =>
    rw [crossing_of_opened hphase hnext hopen] at hindistinct
    have hentered : (cursor.enter source.id reader sources).phase = .active source.id [] reader := rfl
    generalize hreply : Inlet.fill ⟨[], reader, cursor.world.input⟩ = reply
    by_cases hgave : reply.got ≠ [] ∨ reply.fault.isSome
    · rw [next_crossing_of_active hentered hreply hgave] at hindistinct
      have hskipped := hindistinct.serve hworld (.common .skip) rfl
      exact hbehind ((cursor.enter source.id reader sources).withInlet source.id reply.next).close
        rfl hpending hworld rfl (hskipped.serve hworld .fill rfl)
    · obtain ⟨hgot, hfault⟩ := not_or.1 hgave
      rw [crossing_of_end hentered hreply (Option.not_isSome_iff_eq_none.1 hfault)
        (Decidable.not_not.1 hgot)] at hindistinct
      have hfills := @serve_fill
        ((cursor.enter source.id reader sources).withInlet source.id reply.next).close hpending
      rw [← hfills] at hindistinct
      exact hbehind ((cursor.enter source.id reader sources).withInlet source.id reply.next).close
        rfl hpending hworld rfl hindistinct

/-- **A source that resumes is found out** if none behind it does. -/
theorem not_indistinct_of_last (hresumes : source.resumes files)
    (hlater : ∀ later ∈ sources.remaining, later.resumes files = false) :
    ¬(cursor.serve .fill).2.Indistinct files := by
  rw [← hworld, Source.resumes] at hresumes
  split at hresumes
  · rename_i answers hopen
    have hgoes := Script.goesOn_of_resumes hresumes
    have hstays : (cursor.serve .fill).2 = (cursor.enter source.id (.script answers) sources).withInlet
        source.id (Inlet.fill ⟨[], .script answers, cursor.world.input⟩).next := by
      rw [serve_fill hpending, crossing_of_opened hphase hnext hopen]
      exact next_crossing_of_active rfl rfl (Script.read_of_goesOn (by decide) hgoes)
    have hread := Script.resumesAfter_read (by decide)
      (Script.read_of_goesOn (show blockSize ≠ 0 by decide) hgoes)
    rw [hstays]
    exact not_indistinct_of_active rfl hpending hworld hlater (hread.trans hresumes)
  · cases hresumes

end Idle

/-- **Some source that resumes is found out.** -/
theorem not_indistinct_of_idle (hphase : cursor.phase = .idle) (hpending : cursor.pending = none)
    (hworld : cursor.world.files = files)
    (hresumes : ∃ source ∈ cursor.remaining, source.resumes files) :
    ¬(cursor.serve .fill).2.Indistinct files := by
  -- the last of them is the one to look at, so that what is behind it does not matter
  induction hlist : cursor.remaining generalizing cursor with
  | nil =>
    obtain ⟨source, hmem, -⟩ := hresumes
    rw [hlist] at hmem
    cases hmem
  | cons source rest ih =>
    obtain ⟨list, hnext, hbehind⟩ := SourceList.next?_of_remaining hlist
    by_cases hlater : ∃ later ∈ rest, later.resumes files
    · refine not_indistinct_of_passed hphase hpending hworld hnext fun behind hidle hnone hfiles hrest => ?_
      have hremaining : behind.remaining = rest := by
        rw [remaining, hrest, hbehind]
      exact ih hidle hnone hfiles (hremaining.symm ▸ hlater) hremaining
    · have hnone : ∀ later ∈ rest, later.resumes files = false := fun later hmem =>
        Bool.eq_false_iff.2 fun h => hlater ⟨later, hmem, h⟩
      refine not_indistinct_of_last hphase hpending hworld hnext ?_ (hbehind.symm ▸ hnone)
      obtain ⟨given, hmem, hgiven⟩ := hresumes
      rw [hlist] at hmem
      rcases List.mem_cons.1 hmem with rfl | hmem
      · exact hgiven
      · exact absurd ⟨given, hmem, hgiven⟩ hlater

/-- **The first end of every reader is kept just if no reader resumes.** -/
theorem indistinct_iff (hphase : cursor.phase = .idle) (hpending : cursor.pending = none)
    (hworld : cursor.world.files = files) :
    cursor.Indistinct files ↔ ∀ source ∈ cursor.remaining, source.resumes files = false := by
  constructor
  · intro hindistinct source hmem
    refine Bool.eq_false_iff.2 fun hresumes => ?_
    exact not_indistinct_of_idle hphase hpending hworld ⟨source, hmem, hresumes⟩
      (hindistinct.serve hworld .fill rfl)
  · exact fun hresumes => (Over.of_not_resumes hworld hphase hresumes).indistinct

end Cursor

end InputChain
