import InputChain.Proofs.Requests
import InputChain.Proofs.Skipping
import InputChain.Proofs.TextLines

/-!
# Lines that are cut off

A line that a failure of its reader cuts off is lost, and nothing else is: the cursor goes on as if the
reader had neither answered with what there was of the line nor failed. An entry that does not open costs
nothing but itself.

* `Script.Raises`, `Script.raises_readThrough`, `Script.Raises.of_readThrough`: what a reader serves in
  front of a failure, and how it goes on behind it.
* `Inlet.readUntil_of_fault`: what a line that fails has taken of its source.
* `Cursor.CutOff`, `Cursor.PassesOver`: a line that is cut off, and an entry that is passed over.
* **`cut_line_lost_alone`**: one or the other, wherever a line fails.
-/

namespace InputChain

/-! ## What comes in front of a failure -/

namespace Script

/-- Asked until it fails, and again when it is interrupted, a reader serves these bytes, raises this failure
and goes on so behind it. -/
inductive Raises (error : IoError) : Script → Bytes → Script → Prop where
  | now {rest : List Answer} {thereafter : Option IoError} :
      Raises error ⟨.fault error :: rest, thereafter⟩ [] ⟨rest, thereafter⟩
  | thereafter : Raises error ⟨[], some error⟩ [] ⟨[], some error⟩
  | interrupted {other : IoError} {rest : List Answer} {thereafter : Option IoError} {served : Bytes}
      {behind : Script} (hother : other.isInterrupted = true)
      (hrest : Raises error ⟨rest, thereafter⟩ served behind) :
      Raises error ⟨.fault other :: rest, thereafter⟩ served behind
  | bytes {content : Bytes} {rest : List Answer} {thereafter : Option IoError} {served : Bytes}
      {behind : Script} (hcontent : content ≠ [])
      (hrest : Raises error ⟨rest, thereafter⟩ served behind) :
      Raises error ⟨.bytes content :: rest, thereafter⟩ (content ++ served) behind

variable {room : Nat} {script : Script} {error : IoError}

theorem readThrough_interrupted {other : IoError} {rest : List Answer} {thereafter : Option IoError}
    (hother : other.isInterrupted = true) :
    readThrough room ⟨.fault other :: rest, thereafter⟩ = readThrough room ⟨rest, thereafter⟩ := by
  simp only [readThrough, isInterruption, hother, List.dropWhile_cons_of_pos]

theorem readThrough_fault {other : IoError} {rest : List Answer} {thereafter : Option IoError}
    (hroom : room ≠ 0) (hother : other.isInterrupted = false) :
    readThrough room ⟨.fault other :: rest, thereafter⟩ = ⟨[], some other, ⟨rest, thereafter⟩⟩ := by
  simp [readThrough, isInterruption, hother, read, hroom]

/-- A request that fails has raised its failure, with nothing served in front of it. -/
theorem raises_readThrough (hroom : room ≠ 0) (hquiet : error.isInterrupted = false)
    (hfault : (script.readThrough room).fault = some error) :
    script.Raises error [] (script.readThrough room).next := by
  obtain ⟨answers, thereafter⟩ := script
  induction answers with
  | nil =>
    have hread : readThrough room ⟨[], thereafter⟩ = ⟨[], thereafter, ⟨[], thereafter⟩⟩ := if_neg hroom
    rw [hread] at hfault ⊢
    obtain rfl : thereafter = some error := hfault
    exact .thereafter
  | cons answer rest ih =>
    cases answer with
    | fault other =>
      cases hother : other.isInterrupted with
      | true =>
        rw [readThrough_interrupted hother] at hfault ⊢
        exact .interrupted hother (ih hfault)
      | false =>
        rw [readThrough_fault hroom hother] at hfault ⊢
        obtain rfl : other = error := Option.some.inj hfault
        exact .now
    | bytes content =>
      have hread : readThrough room ⟨.bytes content :: rest, thereafter⟩
          = read room ⟨.bytes content :: rest, thereafter⟩ := rfl
      rw [hread, read, if_neg hroom] at hfault
      by_cases hfits : content.length ≤ room <;> simp [hfits] at hfault

/-- What a request was answered with comes in front of what is served behind it. -/
theorem Raises.of_readThrough {served : Bytes} {behind : Script} (hroom : room ≠ 0)
    (hgot : (script.readThrough room).got ≠ [])
    (h : (script.readThrough room).next.Raises error served behind) :
    script.Raises error ((script.readThrough room).got ++ served) behind := by
  obtain ⟨answers, thereafter⟩ := script
  induction answers with
  | nil => exact absurd (by rw [readThrough, List.dropWhile_nil, read, if_neg hroom]) hgot
  | cons answer rest ih =>
    cases answer with
    | fault other =>
      cases hother : other.isInterrupted with
      | true =>
        rw [readThrough_interrupted hother] at hgot h ⊢
        exact .interrupted hother (ih hgot h)
      | false =>
        rw [readThrough_fault hroom hother] at hgot
        exact absurd rfl hgot
    | bytes content =>
      have hread : readThrough room ⟨.bytes content :: rest, thereafter⟩
          = read room ⟨.bytes content :: rest, thereafter⟩ := rfl
      rw [hread, read, if_neg hroom] at hgot h ⊢
      by_cases hfits : content.length ≤ room
      · simp only [if_pos hfits] at hgot h ⊢
        exact .bytes hgot h
      · -- the answer is handed out in two pieces, and what is left of it is an answer as well
        simp only [if_neg hfits] at hgot h ⊢
        have hcontent : content ≠ [] := by
          rintro rfl
          exact hfits (Nat.zero_le room)
        cases h with
        | bytes hdrop hrest =>
          rw [← List.append_assoc, List.take_append_drop]
          exact .bytes hcontent hrest

end Script

/-! ## A line that fails -/

namespace Inlet

variable {stop : UInt8} {inlet : Inlet Script} {error : IoError}

/-- A block that is not there because its request failed. -/
theorem fillThrough_of_fault (hquiet : error.isInterrupted = false)
    (hfault : inlet.fillThrough.fault = some error) :
    ∃ script behind, inlet = ⟨[], .script script, inlet.input⟩ ∧ script.Raises error [] behind
      ∧ inlet.fillThrough = ⟨[], some error, ⟨[], .script behind, inlet.input⟩⟩ := by
  have hgot := got_fillThrough_of_fault hfault
  obtain ⟨hheld, hfill⟩ := fillBy_of_nil (fun inlet => held_pullThrough blockSize inlet) hgot
  have hpull : inlet.fillThrough = inlet.pullThrough blockSize := hfill
  rw [hpull] at hgot hfault ⊢
  obtain ⟨held, script | _, input⟩ := inlet
  · obtain rfl : held = [] := hheld
    refine ⟨script, _, rfl, Script.raises_readThrough (by decide) hquiet hfault, ?_⟩
    generalize hreply : pullThrough blockSize ⟨[], .script script, input⟩ = reply at hgot hfault ⊢
    obtain ⟨got, fault, next⟩ := reply
    obtain rfl : got = [] := hgot
    obtain rfl : fault = some error := hfault
    rw [show next = _ from (congrArg Reply.next hreply).symm]
    rfl
  · cases hfault

/-- What is behind a block is behind what was asked for it. -/
theorem raises_of_fillThrough {script behind : Script} {served : Bytes}
    (hgot : inlet.fillThrough.got ≠ []) (hreader : inlet.fillThrough.next.reader = .script script)
    (h : script.Raises error served behind) :
    ∃ before front, inlet.reader = .script before ∧ inlet.fillThrough.got = inlet.held ++ front
      ∧ before.Raises error (front ++ served) behind
      ∧ inlet.fillThrough.next.input = inlet.input := by
  unfold fillThrough fillBy at hgot hreader ⊢
  by_cases hheld : inlet.held.isEmpty
  · simp only [if_pos hheld] at hgot hreader ⊢
    obtain ⟨held, before | _, input⟩ := inlet
    · obtain rfl : held = [] := List.isEmpty_iff.1 hheld
      obtain rfl : (before.readThrough blockSize).next = script := Reader.script.inj hreader
      exact ⟨before, _, rfl, rfl, .of_readThrough (by decide) hgot h, rfl⟩
    · cases hreader
  · simp only [if_neg hheld] at hreader ⊢
    exact ⟨script, [], hreader, (List.append_nil _).symm, h, trivial⟩

/-- **A line that fails** has taken what was held and what the reader served up to the failure, none of it a
line end, and leaves the reader as it goes on behind the failure. -/
theorem readUntil_of_fault (hquiet : error.isInterrupted = false)
    (hfault : (inlet.readUntil stop).fault = some error) :
    ∃ script served behind, inlet.reader = .script script ∧ script.Raises error served behind
      ∧ (inlet.readUntil stop).got = inlet.held ++ served ∧ stop ∉ inlet.held ++ served
      ∧ (inlet.readUntil stop).next = ⟨[], .script behind, inlet.input⟩ := by
  fun_induction readUntil stop inlet with
  | case1 inlet filled hgot =>
    obtain ⟨script, behind, hinlet, hraises, hfill⟩ := fillThrough_of_fault hquiet hfault
    have hfilled : filled = _ := hfill
    have hheld : inlet.held = [] := congrArg Inlet.held hinlet
    rw [hfilled, hheld]
    exact ⟨script, [], behind, congrArg Inlet.reader hinlet, hraises, rfl, List.not_mem_nil, rfl⟩
  | case2 => cases hfault
  | case3 inlet filled hgot hsplit _ more ih =>
    obtain ⟨script, served, behind, hreader, hraises, hmore, hstop, hnext⟩ := ih hfault
    obtain ⟨before, front, hbefore, hfront, hraises', hinput⟩ :=
      raises_of_fillThrough hgot hreader hraises
    have hall : filled.got ++ more.got = inlet.held ++ (front ++ served) := by
      rw [show more.got = _ from hmore, show filled.got = _ from hfront, List.append_assoc]
      rfl
    have hblock : stop ∉ filled.got := fun hmem =>
      ne_of_beq_false (not_stop_of_splitThrough hsplit stop hmem) rfl
    refine ⟨before, front ++ served, behind, hbefore, hraises', hall, ?_, ?_⟩
    · rw [← hall, show more.got = _ from hmore]
      exact fun hmem => (List.mem_append.1 hmem).elim hblock hstop
    · rw [show more.next = _ from hnext]
      exact congrArg (Inlet.mk [] (.script behind)) hinput

end Inlet

namespace Cursor

variable {cursor there next : Cursor Script} {asked : List Inquiry} {error : SourceError}

/-! ## What a failure costs -/

/-- Passing sources leaves of standard input what was left of it. -/
theorem Passes.left_eq (h : Passes (Inlet.pullThrough blockSize) cursor asked there) :
    there.world.input.left = cursor.world.input.left := by
  induction h with
  | refl => rfl
  | opens _ _ _ _ ih => exact ih
  | @ends cursor there id reader later asked hphase hreply hrest ih =>
    refine ih.trans ?_
    obtain ⟨held, reader', input⟩ := later
    have hdraws := @Inlet.draws_pullThrough blockSize ⟨[], reader, cursor.world.input⟩ rfl
    have hheld := Inlet.held_pullThrough blockSize ⟨[], reader, cursor.world.input⟩
    rw [hreply] at hdraws hheld
    obtain rfl : held = [] := hheld
    by_cases hreader : reader = .standardInput
    · exact (hdraws.drawn hreader).symm
    · exact congrArg StandardInput.left (hdraws.same.input hreader)

/-- A failure of the reader has cut off a line. Sources were passed, each at its end; of the open one were
taken what was held and what its reader served up to the failure, which is no whole line. The cursor is where
it would be if the reader had gone on behind the failure at once, with no line counted, no failure held and
the source still open, so that whatever is asked of it later comes out as if it were. -/
structure CutOff (cursor : Cursor Script) (error : SourceError) (next : Cursor Script) : Prop where
  lineno : next.lineno = cursor.lineno
  pending : next.pending = none
  currentId? : next.currentId? = some error.target
  moment : ∃ asked there held script served fault behind,
    Passes (Inlet.pullThrough blockSize) cursor asked there
      ∧ there.phase = .active error.target held (.script script)
      ∧ script.Raises fault served behind ∧ error = .ofReading error.target fault
      ∧ newline ∉ held ++ served
      ∧ next = { there with phase := .active error.target [] (.script behind) }

/-- An entry that does not open was passed over. Nothing was held and nothing was served, and of standard
input is left what was left of it. The cursor stands in front of the entry behind: it answers whatever it is
asked as a new cursor over what is left would, or, if nothing is left, that the stream has ended. -/
structure PassesOver (cursor : Cursor Script) (error : SourceError) (next : Cursor Script) : Prop where
  lineno : next.lineno = cursor.lineno
  pending : next.pending = none
  currentId? : next.currentId? = none
  block : cursor.block = []
  left : next.world.input.left = cursor.world.input.left
  moment : ∃ asked there source rest fault,
    Passes (Inlet.pullThrough blockSize) cursor asked there ∧ Inquiry.served asked = []
      ∧ there.phase = .idle ∧ there.sources.next? = some (source, rest)
      ∧ source.provider.opened there.world.files = .error fault
      ∧ error = .ofOpening source.id fault ∧ next = there.refuse rest
  anew : next.remaining ≠ [] → ∀ later,
    List.Forall₂ (Ahead next.sources.position) (Run.trace serve later next)
      (Run.trace serve later next.anew)
  ended : next.remaining = [] → ∀ later operation, operation.asksForData →
    ∃ response : Response, ((Run.last serve later next).serve operation).1 = .ok response
      ∧ response.reportsEnd operation

theorem anew_of_idle (hphase : next.phase = .idle) (hremaining : next.remaining ≠ [])
    (later : List BlockingOperation) :
    List.Forall₂ (Ahead next.sources.position) (Run.trace serve later next)
      (Run.trace serve later next.anew) := by
  have hstart := inStep_anew hphase hremaining
  have hrun := together_run Likeness.servesReads_same later (fun _ _ _ => Likeness.servesBlocks_same) hstart
  exact hrun.imp fun _ _ => Together.ahead

theorem ended_of_spent (h : next.Spent) (later : List BlockingOperation) {operation : BlockingOperation}
    (hasks : operation.asksForData) :
    ∃ response : Response, ((Run.last serve later next).serve operation).1 = .ok response
      ∧ response.reportsEnd operation := by
  have hlater := Run.last_induction serve (fun operation _ h => h.serve operation) later h
  exact (hlater.serve_of_asks hasks).1

section Failure

variable (hpending : cursor.pending = none)

include hpending

/-- A line whose bytes cannot be read failed where its unit landed. -/
theorem lands_of_readLineBytes (hline : cursor.readLineBytes = (.error error, next)) :
    ∃ asked there got, Passes (Inlet.pullThrough blockSize) cursor asked there
      ∧ Lands (Inlet.readUntil newline) there ⟨got, some error, next⟩ := by
  obtain ⟨asked, there, hpasses, hlands⟩ :=
    crossing_lands (Inlet.endsBy_readUntil newline) cursor
  rw [readLineBytes, readUnit_of_none hpending] at hline
  generalize cursor.crossing (Inlet.readUntil newline) = delivery at hline hlands
  obtain ⟨got, _ | fault, after⟩ := delivery
  · simp only [Delivery.orFault] at hline
    split at hline <;> cases hline
  · cases hline
    exact ⟨asked, there, got, hpasses, hlands⟩

theorem cutOff_of_readLineBytes (hline : cursor.readLineBytes = (.error error, next))
    (hstage : error.stage = .reading) (hquiet : error.isInterrupted = false) :
    cursor.CutOff error next := by
  obtain ⟨asked, there, got, hpasses, hlands⟩ := lands_of_readLineBytes hpending hline
  generalize hfault : some error = fault at hlands
  cases hlands with
  | exhausted => cases hfault
  | no_source => cases hfault
  | refused =>
    cases hfault
    cases hstage
  | @reads id held reader hphase =>
    obtain ⟨fault, hunit, rfl⟩ := Option.map_eq_some_iff.1 hfault.symm
    obtain ⟨script, served, behind, hreader, hraises, -, hstop, hnext⟩ :=
      Inlet.readUntil_of_fault hquiet hunit
    obtain rfl : reader = .script script := hreader
    rw [hnext]
    refine ⟨hpasses.lineno, hpasses.pending.trans hpending, rfl, asked, there, held, script, served, fault,
      behind, hpasses, hphase, hraises, rfl, hstop, rfl⟩

theorem passesOver_of_readLineBytes (hline : cursor.readLineBytes = (.error error, next))
    (hstage : error.stage = .opening) : cursor.PassesOver error next := by
  obtain ⟨asked, there, got, hpasses, hlands⟩ := lands_of_readLineBytes hpending hline
  generalize hfault : some error = fault at hlands
  cases hlands with
  | exhausted => cases hfault
  | no_source => cases hfault
  | @refused source rest fault hphase hnext hopen =>
    cases hfault
    have hidle : (there.refuse rest).phase = .idle := hphase
    have hclosed : (there.refuse rest).currentId? = none := by rw [Cursor.currentId?, hidle]
    have hnone : (there.refuse rest).pending = none := hpasses.pending.trans hpending
    exact {
      lineno := hpasses.lineno
      pending := hnone
      currentId? := hclosed
      block := hpasses.block_eq.symm.trans (block_of_idle hphase)
      left := hpasses.left_eq
      moment := ⟨asked, there, source, rest, fault, hpasses, hpasses.served, hphase, hnext, hopen, rfl, rfl⟩
      anew := anew_of_idle hidle
      ended := fun hremaining later operation => ended_of_spent ⟨hclosed, hremaining, hnone⟩ later }
  | reads =>
    obtain ⟨fault, -, rfl⟩ := Option.map_eq_some_iff.1 hfault.symm
    cases hstage

end Failure

/-- A line that fails as text fails as bytes too, unless it is not UTF-8. -/
theorem readLineBytes_of_readLine (hline : cursor.readLine = (.error error, next)) :
    cursor.readLineBytes = (.error error, next)
      ∨ error.stage = .reading ∧ ∃ line, cursor.readLineBytes.1 = .ok (some line) := by
  rw [readLine_eq_decoded] at hline
  generalize cursor.readLineBytes = step at hline ⊢
  obtain ⟨_ | _ | line, after⟩ := step
  · cases hline
    exact Or.inl rfl
  · cases hline
  · refine Or.inr ⟨?_, line, rfl⟩
    simp only [decoded] at hline
    cases hdecode : Utf8.decode line <;> rw [hdecode] at hline <;> cases hline
    rfl

/-- An operation reports a failure of a source just if what it performs does. -/
theorem report_eq_error_iff {ρ : Type} {step : Except SourceError ρ × Cursor Script} {answer : ρ → Response} :
    (step.map (Except.map answer) id).map (Except.mapError Failure.source) id
        = (.error (Failure.source error), next)
      ↔ step = (.error error, next) := by
  obtain ⟨_ | given, after⟩ := step
  · simp [Except.map, Except.mapError]
  · simp [Except.map, Except.mapError]

theorem serve_readLine_error_iff : cursor.serve (.common .readLine) = (.error (.source error), next)
    ↔ cursor.readLine = (.error error, next) := by
  rw [serve, perform]
  exact report_eq_error_iff

theorem serve_readLineBytes_error_iff :
    cursor.serve (.common .readLineBytes) = (.error (.source error), next)
      ↔ cursor.readLineBytes = (.error error, next) := by
  rw [serve, perform]
  exact report_eq_error_iff

/-- A failure to read a line by what becomes of its bytes. -/
theorem readLineBytes_of_serve {operation : Operation}
    (hoperation : operation = .readLine ∨ operation = .readLineBytes)
    (hserve : cursor.serve (.common operation) = (.error (.source error), next)) :
    cursor.readLineBytes = (.error error, next)
      ∨ error.stage = .reading ∧ ∃ line, cursor.readLineBytes.1 = .ok (some line) := by
  rcases hoperation with rfl | rfl
  · exact readLineBytes_of_readLine (serve_readLine_error_iff.1 hserve)
  · exact Or.inl (serve_readLineBytes_error_iff.1 hserve)

end Cursor

/-- **A line that is cut off is lost, and nothing else is.** With no failure held, a line is asked for, as
text or as bytes, and a failure is reported. If a reader raised it, which it did if the bytes of the line fail
with it too, what there was of the line is gone and the cursor goes on behind the failure. If an entry did not
open, not a byte is gone and the cursor goes on with the entry behind. -/
theorem cut_line_lost_alone (cursor : Cursor Script) (hpending : cursor.pending = none)
    (operation : Operation) (hoperation : operation = .readLine ∨ operation = .readLineBytes)
    (error : SourceError) (next : Cursor Script)
    (hserve : cursor.serve (.common operation) = (.error (.source error), next)) :
    (error.stage = .reading → error.isInterrupted = false →
        (cursor.serve (.common .readLineBytes)).1 = .error (.source error) → cursor.CutOff error next)
      ∧ (error.stage = .opening → cursor.PassesOver error next) := by
  rcases Cursor.readLineBytes_of_serve hoperation hserve with hline | ⟨hstage, line, hline⟩
  · exact ⟨fun hreading hquiet _ => Cursor.cutOff_of_readLineBytes hpending hline hreading hquiet,
      Cursor.passesOver_of_readLineBytes hpending hline⟩
  · constructor
    · intro _ _ hraised
      have hbytes := Cursor.serve_readLineBytes_error_iff.1 (Prod.ext hraised rfl)
      cases hline.symm.trans (congrArg Prod.fst hbytes)
    · intro hopening
      cases hstage.symm.trans hopening

/-- A line is cut off behind an interruption in its second block, with the line in front of it in the first;
behind it comes an entry that does not open, and then another line. -/
theorem cut_line_lost_alone_between_lines :
    let failing : Script :=
      ⟨[.bytes [120, 10, 121], .fault (.bare .interrupted), .bytes [122], .fault (.bare .other),
        .bytes [119, 10]], none⟩
    let cursor := Run.last Cursor.serve [.common .readLine] (Cursor.ofSources {}
      [⟨"a", .scripted "a" (.ok failing)⟩, ⟨"b", .scripted "b" (.error (.bare .notFound))⟩,
        ⟨"c", .memory "c" [118]⟩])
    let cut := cursor.readLine.2
    let second := cut.readLine.2
    cursor.pending = none
      ∧ cursor.CutOff (.ofReading "a" (.bare .other)) cut
      ∧ cut.readLine.1 = .ok (some "w\n")
      ∧ second.PassesOver (.ofOpening "b" (.bare .notFound)) second.readLineBytes.2 := by
  intro failing cursor cut second
  have hpending : cursor.pending = none := by decide +kernel
  have hcut : cursor.serve (.common .readLine) = (.error (.source (.ofReading "a" (.bare .other))), cut) := by
    have hline : cursor.readLine.1 = .error (.ofReading "a" (.bare .other)) := by decide +kernel
    exact Cursor.serve_readLine_error_iff.2 (Prod.ext hline rfl)
  have hraised : cursor.readLineBytes.1 = .error (.ofReading "a" (.bare .other)) := by decide +kernel
  have hraised' := Cursor.serve_readLineBytes_error_iff.2
    (Prod.ext hraised rfl : cursor.readLineBytes = (_, cursor.readLineBytes.2))
  have hsecond : second.pending = none := by decide +kernel
  have hopen : second.serve (.common .readLineBytes)
      = (.error (.source (.ofOpening "b" (.bare .notFound))), second.readLineBytes.2) := by
    have hline : second.readLineBytes.1 = .error (.ofOpening "b" (.bare .notFound)) := by decide +kernel
    exact Cursor.serve_readLineBytes_error_iff.2 (Prod.ext hline rfl)
  obtain ⟨hcutOff, -⟩ := cut_line_lost_alone cursor hpending .readLine (Or.inl rfl)
    (.ofReading "a" (.bare .other)) cut hcut
  obtain ⟨-, hpasses⟩ := cut_line_lost_alone second hsecond .readLineBytes (Or.inr rfl)
    (.ofOpening "b" (.bare .notFound)) second.readLineBytes.2 hopen
  exact ⟨hpending, hcutOff rfl rfl (congrArg Prod.fst hraised'), by decide +kernel, hpasses rfl⟩

end InputChain
