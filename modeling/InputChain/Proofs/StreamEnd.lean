import InputChain.Proofs.Accesses

/-!
# The end of the stream

The end of the stream is reported only where it is: every source has been taken and closed, and no
failure is held. From then on it is final: whatever is asked, the end is reported again, and nothing
but the number of lines can change.

* `BlockingOperation.answerAtEnd`: what each operation answers at the end.
* `Cursor.Spent`, `Cursor.Spent.answer_of_asks`, `Cursor.Spent.answer_of_quiet`: with no source left, every
  operation gives that answer.
* `Cursor.phase_serve_of_reportsEnd`: an operation that reports the end leaves the cursor at it.
* `Cursor.LeftBeforeEnd`, `Cursor.leftBeforeEnd_comesOf`: the invariant that no source is left at the end.
* **`end_of_stream_final`**: the end is true and final, after every run.
-/

namespace InputChain

/-! ## The answers at the end -/

namespace BlockingOperation

/-- What an operation answers at the end of the stream. -/
def answerAtEnd : BlockingOperation → Response
  | .common (.read (some 0)) => .bytes (some [])
  | .common (.read (some _)) => .bytes none
  | .common (.read none) => .bytes (some [])
  | .common .readToEnd => .bytes (some [])
  | .common .readByte => .byte none
  | .common .readLine => .line none
  | .common .readLineBytes => .bytes none
  | .common .skip => .done
  | .setLineno _ => .done
  | .readLines => .lines []
  | .nextLine => .item none
  | .plainRead _ => .slice []
  | .fill => .slice []
  | .consume _ => .done

theorem answerAtEnd_read {count : Nat} (hcount : count ≠ 0) :
    answerAtEnd (.common (.read (some count))) = .bytes none := by
  cases count with
  | zero => exact absurd rfl hcount
  | succ count => rfl

/-- What asks for data reports the end there. -/
theorem reportsEnd_answerAtEnd {operation : BlockingOperation} (hasks : operation.asksForData) :
    operation.answerAtEnd.reportsEnd operation := by
  match operation with
  | .common (.read (some count)) =>
    have hcount : count ≠ 0 := by simpa [asksForData] using hasks
    rw [answerAtEnd_read hcount]
    rfl
  | .plainRead room => simpa [asksForData, answerAtEnd, Response.reportsEnd] using hasks
  | .common (.read none) | .common .readToEnd | .common .readByte | .common .readLine
  | .common .readLineBytes | .readLines | .nextLine | .fill => rfl

end BlockingOperation

namespace Cursor

/-! ## No source open -/

section Closed

variable {σ : Type} {cursor : Cursor σ} (hclosed : cursor.currentId? = none)

include hclosed

theorem not_active_of_closed {id : String} {held : Bytes} {reader : Reader σ} :
    cursor.phase ≠ .active id held reader := by
  intro hphase
  rw [currentId?, hphase] at hclosed
  cases hclosed

theorem skip_of_closed : cursor.skip = cursor := by
  unfold skip
  split
  · rename_i hphase
    exact absurd hphase (not_active_of_closed hclosed)
  · rfl

end Closed

theorem consume_of_closed {cursor : Cursor Script} (hclosed : cursor.currentId? = none) (count : Nat) :
    Seamless.consume count cursor = cursor := by
  unfold Seamless.consume
  split
  · rename_i hphase
    exact absurd hphase (not_active_of_closed hclosed)
  · rfl

/-! ## No source left -/

/-- No source is open or left, and no failure is held. -/
structure Spent (cursor : Cursor Script) : Prop where
  closed : cursor.currentId? = none
  remaining : cursor.remaining = []
  pending : cursor.pending = none

variable {cursor : Cursor Script}

namespace Spent

variable (h : cursor.Spent)

include h

theorem exhaust : Spent { cursor with phase := .exhausted } :=
  ⟨rfl, h.remaining, h.pending⟩

theorem setLineno (lineno : Nat) : (cursor.setLineno lineno).Spent :=
  ⟨h.closed, h.remaining, h.pending⟩

theorem readUnit (unit : Inlet Script → Reply (Inlet Script)) :
    cursor.readUnit unit = ⟨[], none, { cursor with phase := .exhausted }⟩ := by
  rw [readUnit_of_none h.pending]
  cases hphase : cursor.phase with
  | active id held reader => exact absurd hphase (not_active_of_closed h.closed)
  | exhausted => rw [crossing_of_exhausted hphase, ← hphase]
  | idle =>
    exact crossing_of_no_source hphase (SourceList.next?_of_nil h.remaining)

theorem readLine : cursor.readLine = (.ok none, { cursor with phase := .exhausted }) := by
  rw [readLine_eq_decoding, h.readUnit]
  rfl

/-- **What asks for data gives its answer at the end**, and the cursor stands there. -/
theorem answer_of_asks {operation : BlockingOperation} (hasks : operation.asksForData) :
    cursor.serve operation = (.ok operation.answerAtEnd, { cursor with phase := .exhausted }) := by
  have hrest : cursor.gatherRest = ⟨[], none, { cursor with phase := .exhausted }⟩ := by
    rw [gatherRest_of_stop (Or.inr (by rw [h.readUnit])), h.readUnit]
  match operation with
  | .common (.read (some count)) =>
    have hcount : count ≠ 0 := by simpa [BlockingOperation.asksForData] using hasks
    have hgather : cursor.gather count = ⟨[], none, { cursor with phase := .exhausted }⟩ := by
      rw [gather_of_nil hcount (by rw [h.readUnit]), h.readUnit]
    rw [serve, perform, read, if_neg hcount, hgather, BlockingOperation.answerAtEnd_read hcount]
    rfl
  | .common (.read none) =>
    rw [serve, perform, readToEnd, hrest]
    rfl
  | .common .readToEnd =>
    rw [serve, perform, readToEnd, hrest]
    rfl
  | .common .readByte =>
    rw [serve, perform, readByte, h.readUnit]
    rfl
  | .common .readLine =>
    rw [serve, perform, h.readLine]
    rfl
  | .common .readLineBytes =>
    rw [serve, perform, readLineBytes, h.readUnit]
    rfl
  | .readLines =>
    rw [serve, readLines_of_end h.readLine]
    rfl
  | .nextLine =>
    rw [serve, eachLine, h.readLine]
    rfl
  | .plainRead room =>
    have hroom : room ≠ 0 := by simpa [BlockingOperation.asksForData] using hasks
    rw [serve, Seamless.read, if_neg hroom, h.readUnit]
    rfl
  | .fill =>
    rw [serve, Seamless.fill, h.readUnit]
    rfl

/-- What asks for data reports the end of the stream. -/
theorem serve_of_asks {operation : BlockingOperation} (hasks : operation.asksForData) :
    (∃ response : Response, (cursor.serve operation).1 = .ok response
        ∧ response.reportsEnd operation)
      ∧ (cursor.serve operation).2 = { cursor with phase := .exhausted } := by
  rw [h.answer_of_asks hasks]
  exact ⟨⟨_, rfl, BlockingOperation.reportsEnd_answerAtEnd hasks⟩, rfl⟩

/-- What asks for no data gives its answer at the end too, and changes at most the number of lines. -/
theorem answer_of_quiet {operation : BlockingOperation} (hquiet : operation.asksForData = false) :
    ∃ lineno, cursor.serve operation = (.ok operation.answerAtEnd, cursor.setLineno lineno) := by
  match operation with
  | .common (.read (some count)) =>
    obtain rfl : count = 0 := by simpa [BlockingOperation.asksForData] using hquiet
    exact ⟨cursor.lineno, rfl⟩
  | .common .skip =>
    refine ⟨cursor.lineno, ?_⟩
    rw [serve, perform, skip_of_closed h.closed]
    rfl
  | .setLineno lineno => exact ⟨lineno, rfl⟩
  | .plainRead room =>
    obtain rfl : room = 0 := by simpa [BlockingOperation.asksForData] using hquiet
    exact ⟨cursor.lineno, rfl⟩
  | .consume count =>
    refine ⟨cursor.lineno, ?_⟩
    rw [serve, consume_of_closed h.closed]
    rfl

/-- **A cursor with no source left stays so**, whatever is asked of it. -/
theorem serve (operation : BlockingOperation) : (cursor.serve operation).2.Spent := by
  cases hasks : operation.asksForData with
  | true =>
    rw [h.answer_of_asks hasks]
    exact h.exhaust
  | false =>
    obtain ⟨lineno, hserve⟩ := h.answer_of_quiet hasks
    rw [hserve]
    exact ⟨h.closed, h.remaining, h.pending⟩

end Spent

/-- At the end, one operation gives its answer there and changes at most the number of lines. -/
theorem serve_at_end (h : cursor.Spent) (hphase : cursor.phase = .exhausted)
    (operation : BlockingOperation) :
    ∃ lineno, cursor.serve operation = (.ok operation.answerAtEnd, cursor.setLineno lineno) := by
  cases hasks : operation.asksForData with
  | true =>
    refine ⟨cursor.lineno, ?_⟩
    rw [h.answer_of_asks hasks, ← hphase]
    rfl
  | false => exact h.answer_of_quiet hasks

/-- At the end, a run changes at most the number of lines. -/
theorem run_at_end (h : cursor.Spent) (hphase : cursor.phase = .exhausted)
    (operations : List BlockingOperation) :
    ∃ lineno, Run.last serve operations cursor = cursor.setLineno lineno := by
  have hstep : ∀ operation later, (∃ lineno, later = cursor.setLineno lineno) →
      ∃ lineno, (serve operation later).2 = cursor.setLineno lineno := by
    rintro operation _ ⟨lineno, rfl⟩
    obtain ⟨lineno', hserve⟩ := serve_at_end (h.setLineno lineno) hphase operation
    exact ⟨lineno', congrArg Prod.snd hserve⟩
  exact Run.last_induction serve hstep operations ⟨cursor.lineno, rfl⟩

/-! ## What reports the end -/

section ReportsEnd

variable {unit : Inlet Script → Reply (Inlet Script)}

/-- A unit that gives nothing and does not fail stands at the end of the stream. -/
theorem phase_readUnit_of_end (hgot : (cursor.readUnit unit).got = [])
    (hfault : (cursor.readUnit unit).fault = none) :
    (cursor.readUnit unit).next.phase = .exhausted := by
  cases hpending : cursor.pending with
  | some error =>
    rw [readUnit_of_pending hpending] at hfault
    cases hfault
  | none =>
    rw [readUnit_of_none hpending] at hgot hfault ⊢
    exact phase_crossing_of_end hgot hfault

theorem phase_gather_of_end {count : Nat} (hcount : count ≠ 0) (hgot : (cursor.gather count).got = [])
    (hfault : (cursor.gather count).fault = none) :
    (cursor.gather count).next.phase = .exhausted := by
  by_cases hunit : (cursor.readUnit (Inlet.takeUpTo count)).got = []
  · rw [gather_of_nil hcount hunit] at hgot hfault ⊢
    exact phase_readUnit_of_end hgot hfault
  · rw [gather_of_got hcount hunit] at hgot
    exact absurd (List.append_eq_nil_iff.1 hgot).1 hunit

theorem phase_gatherRest_of_end (hfault : cursor.gatherRest.fault = none) :
    cursor.gatherRest.next.phase = .exhausted := by
  fun_induction gatherRest cursor with
  | case1 cursor delivery hsome =>
    rw [hfault] at hsome
    cases hsome
  | case2 cursor delivery hsome hgot => exact phase_readUnit_of_end hgot hfault
  | case3 cursor delivery hsome hgot _ ih => exact ih hfault

end ReportsEnd

/-- A delivery whose bytes are given and are none has not failed. -/
theorem holdBack_of_nil {delivery : Delivery Script} (h : delivery.holdBack.1 = .ok []) :
    delivery.got = [] ∧ delivery.fault = none ∧ delivery.holdBack.2 = delivery.next := by
  obtain ⟨got, _ | error, next⟩ := delivery
  · simp only [Delivery.holdBack, Except.ok.injEq] at h
    exact ⟨h, rfl, rfl⟩
  · cases got <;> simp [Delivery.holdBack] at h

theorem orFault_of_nil {delivery : Delivery Script} (h : delivery.orFault.1 = .ok []) :
    delivery.got = [] ∧ delivery.fault = none ∧ delivery.orFault.2 = delivery.next := by
  obtain ⟨got, _ | error, next⟩ := delivery
  · simp only [Delivery.orFault, Except.ok.injEq] at h
    exact ⟨h, rfl, rfl⟩
  · simp [Delivery.orFault] at h

theorem phase_readToEnd_of_end (h : cursor.readToEnd.1 = .ok []) :
    cursor.readToEnd.2.phase = .exhausted := by
  obtain ⟨-, hfault, hnext⟩ := holdBack_of_nil h
  rw [readToEnd, hnext]
  exact phase_gatherRest_of_end hfault

theorem phase_readLine_of_end (h : cursor.readLine.1 = .ok none) :
    cursor.readLine.2.phase = .exhausted := by
  have hunit := @phase_readUnit_of_end cursor (Inlet.readUntil newline)
  rw [readLine_eq_decoding] at h ⊢
  unfold Delivery.orFault at h ⊢
  generalize cursor.readUnit (Inlet.readUntil newline) = delivery at h hunit ⊢
  obtain ⟨_ | ⟨b, got⟩, _ | error, next⟩ := delivery
  · exact hunit rfl rfl
  · simp at h
  · simp only [List.isEmpty_cons, Bool.false_eq_true, if_false] at h
    split at h <;> simp at h
  · simp at h

theorem phase_readLineBytes_of_end (h : cursor.readLineBytes.1 = .ok none) :
    cursor.readLineBytes.2.phase = .exhausted := by
  have hunit := @phase_readUnit_of_end cursor (Inlet.readUntil newline)
  unfold readLineBytes Delivery.orFault at h ⊢
  generalize cursor.readUnit (Inlet.readUntil newline) = delivery at h hunit ⊢
  obtain ⟨_ | ⟨b, got⟩, _ | error, next⟩ := delivery
  · exact hunit rfl rfl
  all_goals simp at h

/-- A line has at least one byte. -/
theorem readLineBytes_ne_nil : cursor.readLineBytes.1 ≠ .ok (some []) := by
  intro h
  unfold readLineBytes at h
  generalize (cursor.readUnit (Inlet.readUntil newline)).orFault = step at h
  obtain ⟨_ | _ | ⟨b, line⟩, next⟩ := step <;> simp at h

theorem phase_readLines_of_end {texts : List String} (h : cursor.readLines.1 = .ok texts) :
    cursor.readLines.2.phase = .exhausted := by
  fun_induction readLines cursor generalizing texts with
  | case1 cursor error next hread => cases h
  | case2 cursor next hread =>
    have hphase := @phase_readLine_of_end cursor
    rw [hread] at hphase
    exact hphase rfl
  | case3 cursor text next hread _ rest last hrest ih =>
    rw [hrest] at ih
    cases rest with
    | error error => cases h
    | ok rest => exact ih rfl

/-- A delivery of the seamless view that gives no bytes stands at the end. -/
theorem phase_answer_of_end {unit : Inlet Script → Reply (Inlet Script)} {response : Response}
    {operation : BlockingOperation}
    (hanswer : (cursor.readUnit unit).answer.1 = .ok response) (hend : response.reportsEnd operation) :
    (cursor.readUnit unit).answer.2.phase = .exhausted := by
  have hunit := @phase_readUnit_of_end cursor unit
  unfold Delivery.answer at hanswer ⊢
  generalize cursor.readUnit unit = delivery at hanswer hunit ⊢
  obtain ⟨_ | ⟨b, got⟩, _ | error, next⟩ := delivery
  · exact hunit rfl rfl
  · cases hanswer
  · cases hanswer
    cases hend
  · cases hanswer

theorem phase_read_of_end {count : Nat} (hcount : count ≠ 0) (h : (cursor.read count).1 = .ok none) :
    (cursor.read count).2.phase = .exhausted := by
  have hback := @holdBack_of_nil (cursor.gather count)
  rw [read, if_neg hcount] at h ⊢
  generalize (cursor.gather count).holdBack = step at h hback ⊢
  obtain ⟨_ | _ | ⟨b, got⟩, next⟩ := step
  · cases h
  · obtain ⟨hgot, hfault, rfl⟩ := hback rfl
    exact phase_gather_of_end hcount hgot hfault
  · cases h

/-- A read with room gives some bytes or reports the end. -/
theorem read_ne_nil {count : Nat} (hcount : count ≠ 0) : (cursor.read count).1 ≠ .ok (some []) := by
  intro h
  rw [read, if_neg hcount] at h
  generalize (cursor.gather count).holdBack = step at h
  obtain ⟨_ | _ | ⟨b, got⟩, next⟩ := step <;> cases h

theorem phase_readByte_of_end (h : cursor.readByte.1 = .ok none) :
    cursor.readByte.2.phase = .exhausted := by
  have hback := @orFault_of_nil (cursor.readUnit (Inlet.takeUpTo 1))
  have hunit := @phase_readUnit_of_end cursor (Inlet.takeUpTo 1)
  rw [readByte] at h ⊢
  generalize (cursor.readUnit (Inlet.takeUpTo 1)).orFault = step at h hback ⊢
  obtain ⟨_ | _ | ⟨b, got⟩, next⟩ := step
  · cases h
  · obtain ⟨hgot, hfault, rfl⟩ := hback rfl
    exact hunit hgot hfault
  · cases h

/-- **What reports the end of the stream leaves the cursor there.** -/
theorem phase_serve_of_reportsEnd {operation : BlockingOperation} {response : Response}
    (hanswer : (cursor.serve operation).1 = .ok response) (hend : response.reportsEnd operation) :
    (cursor.serve operation).2.phase = .exhausted := by
  cases hasks : operation.asksForData with
  | false =>
    obtain ⟨-, -, response', hresponse, -, hopen⟩ := serve_of_quiet cursor hasks
    cases Except.ok.inj (hresponse.symm.trans hanswer)
    rw [hopen] at hend
    cases hend
  | true =>
    match operation with
    | .common (.read (some count)) =>
      have hcount : count ≠ 0 := by simpa [BlockingOperation.asksForData] using hasks
      have hphase := @phase_read_of_end cursor count hcount
      have hsome := @read_ne_nil cursor count hcount
      rw [serve, perform] at hanswer ⊢
      generalize cursor.read count = step at hanswer hphase hsome ⊢
      obtain ⟨_ | _ | _ | ⟨b, got⟩, next⟩ := step
      · cases hanswer
      · exact hphase rfl
      · exact absurd rfl hsome
      · cases hanswer
        cases hend
    | .common (.read none) | .common .readToEnd =>
      have hphase := @phase_readToEnd_of_end cursor
      rw [serve, perform] at hanswer ⊢
      generalize cursor.readToEnd = step at hanswer hphase ⊢
      obtain ⟨_ | _ | ⟨b, got⟩, next⟩ := step
      · cases hanswer
      · exact hphase rfl
      · cases hanswer
        cases hend
    | .common .readByte =>
      have hphase := @phase_readByte_of_end cursor
      rw [serve, perform] at hanswer ⊢
      generalize cursor.readByte = step at hanswer hphase ⊢
      obtain ⟨_ | _ | b, next⟩ := step
      · cases hanswer
      · exact hphase rfl
      · cases hanswer
        cases hend
    | .common .readLine =>
      have hphase := @phase_readLine_of_end cursor
      rw [serve, perform] at hanswer ⊢
      generalize cursor.readLine = step at hanswer hphase ⊢
      obtain ⟨_ | _ | text, next⟩ := step
      · cases hanswer
      · exact hphase rfl
      · cases hanswer
        cases hend
    | .common .readLineBytes =>
      have hphase := @phase_readLineBytes_of_end cursor
      have hsome := @readLineBytes_ne_nil cursor
      rw [serve, perform] at hanswer ⊢
      generalize cursor.readLineBytes = step at hanswer hphase hsome ⊢
      obtain ⟨_ | _ | _ | ⟨b, line⟩, next⟩ := step
      · cases hanswer
      · exact hphase rfl
      · exact absurd rfl hsome
      · cases hanswer
        cases hend
    | .readLines =>
      have hphase := @phase_readLines_of_end cursor
      rw [serve] at hanswer ⊢
      generalize cursor.readLines = step at hanswer hphase ⊢
      obtain ⟨_ | texts, next⟩ := step
      · cases hanswer
      · exact hphase rfl
    | .nextLine =>
      have hphase := @phase_readLine_of_end cursor
      rw [serve, eachLine] at hanswer ⊢
      generalize cursor.readLine = step at hanswer hphase ⊢
      obtain ⟨_ | _ | text, next⟩ := step
      · cases hanswer
        cases hend
      · exact hphase rfl
      · cases hanswer
        cases hend
    | .plainRead room =>
      have hroom : room ≠ 0 := by simpa [BlockingOperation.asksForData] using hasks
      rw [serve, Seamless.read, if_neg hroom] at hanswer ⊢
      exact phase_answer_of_end hanswer hend
    | .fill => exact phase_answer_of_end hanswer hend

/-! ## The invariant -/

/-- At the end of the stream no source is left. -/
def LeftBeforeEnd (cursor : Cursor Script) : Prop := cursor.isExhausted → cursor.remaining = []

theorem leftBeforeEnd_follows {operation : BlockingOperation} {later : Cursor Script}
    (h : cursor.LeftBeforeEnd) (hfollows : Follows operation cursor later) : later.LeftBeforeEnd := by
  intro hend
  cases hfollows with
  | opens => cases hend
  | refuses _ hphase =>
    rw [isExhausted, refuse, hphase] at hend
    cases hend
  | exhausts _ _ hnext => exact SourceList.remaining_next?_none hnext
  | reads => cases hend
  | ends => cases hend
  | skips => cases hend
  | consumes => cases hend
  | notes => exact h hend

theorem leftBeforeEnd_comesOf {operation : BlockingOperation} {later : Cursor Script}
    (h : cursor.LeftBeforeEnd) (hcomes : ComesOf operation cursor later) : later.LeftBeforeEnd := by
  induction hcomes with
  | refl => exact h
  | tail _ hfollows ih => exact leftBeforeEnd_follows ih hfollows

theorem phase_of_isExhausted (h : cursor.isExhausted) : cursor.phase = .exhausted := by
  unfold isExhausted at h
  split at h
  · assumption
  · cases h

/-- At the end of the stream no source is open or left, and no failure is held. -/
theorem spent_of_isExhausted (hheld : cursor.HeldBeforeEnd) (hleft : cursor.LeftBeforeEnd)
    (hend : cursor.isExhausted) : cursor.Spent where
  closed := by rw [currentId?, phase_of_isExhausted hend]
  remaining := hleft hend
  pending := by
    cases hpending : cursor.pending with
    | none => rfl
    | some error =>
      have hopen := hheld (by rw [hpending]; rfl)
      rw [hopen] at hend
      cases hend

/-- The list is never taken past its end. -/
theorem position_le_follows {operation : BlockingOperation} {later : Cursor Script}
    (h : cursor.sources.position ≤ cursor.sources.size) (hfollows : Follows operation cursor later) :
    later.sources.position ≤ later.sources.size := by
  cases hfollows with
  | opens _ _ hnext => exact SourceList.position_le_next? hnext
  | refuses _ _ hnext => exact SourceList.position_le_next? hnext
  | exhausts => exact h
  | reads => exact h
  | ends => exact h
  | skips => exact h
  | consumes => exact h
  | notes => exact h

theorem position_le_comesOf {operation : BlockingOperation} {later : Cursor Script}
    (h : cursor.sources.position ≤ cursor.sources.size) (hcomes : ComesOf operation cursor later) :
    later.sources.position ≤ later.sources.size := by
  induction hcomes with
  | refl => exact h
  | tail _ hfollows ih => exact position_le_follows ih hfollows

/-- With no source left, as many have been taken as there are. -/
theorem position_of_spent (h : cursor.Spent) (hle : cursor.sources.position ≤ cursor.sources.size) :
    cursor.sources.position = cursor.sources.size :=
  Nat.le_antisymm hle (SourceList.remaining_eq_nil_iff.1 h.remaining)

end Cursor

/-- **The end of the stream is reported only at the end, and is final.** After every run: an operation
that reports the end leaves the stream at its end, with every source taken, none open and no failure
held, and the position of the list is then its length, past which no list is taken; and at the end,
whatever has been asked in between, every operation gives its answer there, by which all that ask for
data report the end, and nothing but the number of lines has changed. -/
theorem end_of_stream_final (world : World) (list : SourceList Script) (past : List BlockingOperation) :
    let cursor := Run.last Cursor.serve past (Cursor.ofList world list)
    (∀ operation response, (cursor.serve operation).1 = .ok response →
        response.reportsEnd operation →
        let next := (cursor.serve operation).2
        next.isExhausted ∧ next.remaining = [] ∧ next.pending = none ∧ next.currentId? = none
          ∧ (list.position ≤ list.size → next.sources.position = list.size))
    ∧ (cursor.isExhausted → ∀ between operation,
        let later := Run.last Cursor.serve between cursor
        later = { cursor with lineno := later.lineno }
          ∧ (later.serve operation).1 = .ok operation.answerAtEnd
          ∧ (operation.asksForData → operation.answerAtEnd.reportsEnd operation)) := by
  intro cursor
  have hheld : cursor.HeldBeforeEnd :=
    Run.last_induction Cursor.serve (fun operation _ => Cursor.heldBeforeEnd_serve operation) past
      (Cursor.heldBeforeEnd_of_pending rfl)
  have hleft : cursor.LeftBeforeEnd :=
    Run.last_induction Cursor.serve
      (fun operation before h => Cursor.leftBeforeEnd_comesOf h (Cursor.comesOf_serve operation before))
      past fun hend => nomatch hend
  have hsources : cursor.sources.sources = list.sources :=
    Run.last_induction Cursor.serve
      (fun operation before h => (Cursor.sources_comesOf (Cursor.comesOf_serve operation before)).1.trans h)
      past rfl
  refine ⟨fun operation response hanswer hend => ?_, fun hend between operation => ?_⟩
  · have hphase := Cursor.phase_serve_of_reportsEnd hanswer hend
    have hexhausted : (cursor.serve operation).2.isExhausted := by rw [Cursor.isExhausted, hphase]
    have hspent := Cursor.spent_of_isExhausted (Cursor.heldBeforeEnd_serve operation hheld)
      (Cursor.leftBeforeEnd_comesOf hleft (Cursor.comesOf_serve operation cursor)) hexhausted
    have hlist := (Cursor.sources_comesOf (Cursor.comesOf_serve operation cursor)).1.trans hsources
    refine ⟨hexhausted, hspent.remaining, hspent.pending, hspent.closed, fun hle => ?_⟩
    have hwithin : cursor.sources.position ≤ cursor.sources.size :=
      Run.last_induction Cursor.serve
        (fun operation before h => Cursor.position_le_comesOf h (Cursor.comesOf_serve operation before)) past hle
    rw [Cursor.position_of_spent hspent (Cursor.position_le_comesOf hwithin (Cursor.comesOf_serve operation cursor)),
      SourceList.size, hlist, SourceList.size]
  · have hspent := Cursor.spent_of_isExhausted hheld hleft hend
    have hphase := Cursor.phase_of_isExhausted hend
    intro later
    obtain ⟨lineno, hlater⟩ := Cursor.run_at_end hspent hphase between
    obtain ⟨lineno', hserve⟩ := Cursor.serve_at_end (hspent.setLineno lineno) hphase operation
    rw [show later = cursor.setLineno lineno from hlater, hserve]
    exact ⟨rfl, rfl, BlockingOperation.reportsEnd_answerAtEnd⟩

/-- The end is met behind a source that cannot be opened, and stays the end whatever is asked. -/
theorem end_of_stream_final_past_failure :
    let sources : List (Source Script) := [⟨"a", .memory "a" [120]⟩,
      ⟨"b", .scripted "b" (.error (.bare .notFound))⟩, ⟨"c", .memory "c" []⟩]
    let past : List BlockingOperation := [.common (.read (some 2)), .common .readByte]
    let between : List BlockingOperation := [.common .skip, .setLineno 7, .readLines, .consume 1]
    let cursor := Run.last Cursor.serve past (Cursor.ofSources {} sources)
    let next := (cursor.serve .fill).2
    let later := Run.last Cursor.serve between next
    (cursor.serve .fill).1 = .ok (.slice []) ∧ (Response.slice []).reportsEnd .fill
      ∧ next.isExhausted ∧ next.sources.position = 3 ∧ next.pending = none ∧ next.currentId? = none
      ∧ later = { next with lineno := later.lineno }
      ∧ (later.serve (.common (.read (some 4)))).1 = .ok (.bytes none) := by
  intro sources past between cursor next later
  have hfill : (Seamless.fill cursor).got = [] ∧ (Seamless.fill cursor).fault = none := by
    decide +kernel
  have hanswer : (cursor.serve .fill).1 = .ok (.slice []) := by
    rw [Cursor.serve, Delivery.answer, hfill.2, hfill.1]
  obtain ⟨hend, -⟩ := end_of_stream_final {} (.ofList sources) past
  obtain ⟨hexhausted, -, hpending, hclosed, hposition⟩ := hend .fill _ hanswer rfl
  obtain ⟨-, hfinal⟩ := end_of_stream_final {} (.ofList sources) (past ++ [.fill])
  obtain ⟨hlater, hlast, -⟩ := hfinal hexhausted between (.common (.read (some 4)))
  exact ⟨hanswer, rfl, hexhausted, hposition (Nat.zero_le _), hpending, hclosed, hlater, hlast⟩

end InputChain
