import InputChain.Proofs.Operations
import InputChain.Proofs.Units

/-!
# The held failure

A read of several units that fails after some bytes gives the bytes and holds the failure; the next
operation that asks for data reports it. So a failure is held at most once at a time, it is never lost
and never reported twice, and the end of the stream is not reported in front of it.

* `BlockingOperation.asksForData`, `BlockingOperation.report`: the operations that ask for data, and
  how each reports a failure.
* `Cursor.serve_of_pending`, `Cursor.serve_of_quiet`: an operation while a failure is held.
* `Cursor.pending_serve_of_asks`: how a failure comes to be held.
* `Cursor.heldBeforeEnd_serve`: the invariant that no failure is held at the end of the stream.
* **`heldFailure_reported_once`**: all of it, after every run.
-/

namespace InputChain

/-! ## The operations -/

namespace BlockingOperation

/-- Whether an operation asks the stream for data. -/
def asksForData : BlockingOperation → Bool
  | .common (.read (some count)) => count != 0
  | .common .skip => false
  | .common _ => true
  | .setLineno _ => false
  | .readLines => true
  | .nextLine => true
  | .plainRead room => room != 0
  | .fill => true
  | .consume _ => false

/-- Whether an operation reads bytes unit after unit and so may hold a failure back. -/
def isBulk : BlockingOperation → Bool
  | .common (.read _) => true
  | .common .readToEnd => true
  | _ => false

/-- How an operation reports a failure of a source. The seamless view shows its kind and its
text. -/
def report (error : SourceError) : BlockingOperation → Except Failure Response
  | .nextLine => .ok (.item (some (.error error)))
  | .plainRead _ => .error (.io error.kind error.message)
  | .fill => .error (.io error.kind error.message)
  | _ => .error (.source error)

end BlockingOperation

/-- Whether an answer gives no data and reports nothing. -/
def Response.isQuiet : Response → Bool
  | .bytes (some []) => true
  | .slice [] => true
  | .done => true
  | _ => false

namespace Cursor

variable {unit : Inlet Script → Reply (Inlet Script)} (cursor : Cursor Script)

/-! ## One unit -/

theorem pending_crossing : (cursor.crossing unit).next.pending = cursor.pending := by
  fun_induction crossing unit cursor with
  | case1 => rfl
  | case2 => rfl
  | case3 _ _ _ _ _ _ _ _ _ _ ih => exact ih
  | case4 => rfl
  | case5 => rfl
  | case6 => rfl
  | case7 _ _ _ _ _ _ _ _ ih => exact ih

theorem pending_readUnit : (cursor.readUnit unit).next.pending = none := by
  unfold readUnit
  split
  · rfl
  · rename_i hpending
    rw [pending_crossing, hpending]

/-- A source that fails is no end of the stream. -/
theorem isExhausted_crossing_of_fault (hfault : (cursor.crossing unit).fault.isSome) :
    (cursor.crossing unit).next.isExhausted = false := by
  fun_induction crossing unit cursor with
  | case1 => cases hfault
  | case2 => rfl
  | case3 _ _ _ _ _ _ _ _ _ _ ih => exact ih hfault
  | case4 => cases hfault
  | case5 => cases hfault
  | case6 cursor hphase => rw [isExhausted, refuse, hphase]
  | case7 _ _ _ _ _ _ _ _ ih => exact ih hfault

/-- No failure is held at the end of the stream. -/
def HeldBeforeEnd : Prop := cursor.pending.isSome → cursor.isExhausted = false

variable {cursor}

theorem heldBeforeEnd_of_pending (h : cursor.pending = none) : cursor.HeldBeforeEnd := by
  intro hsome
  rw [h] at hsome
  cases hsome

theorem isExhausted_readUnit_of_fault (h : cursor.HeldBeforeEnd)
    (hfault : (cursor.readUnit unit).fault.isSome) :
    (cursor.readUnit unit).next.isExhausted = false := by
  cases hpending : cursor.pending with
  | some error =>
    rw [readUnit_of_pending hpending]
    exact h (by rw [hpending]; rfl)
  | none =>
    simp only [readUnit, hpending] at hfault ⊢
    exact isExhausted_crossing_of_fault cursor hfault

/-! ## Several units -/

theorem pending_gather {count : Nat} (hcount : count ≠ 0) :
    (cursor.gather count).next.pending = none := by
  fun_induction gather count cursor with
  | case1 => exact absurd rfl hcount
  | case2 count cursor _ delivery hgot => exact pending_readUnit cursor
  | case3 count cursor _ delivery hgot _ ih =>
    by_cases h : count - delivery.got.length = 0
    · rw [h, gather_zero]
      exact pending_readUnit cursor
    · exact ih h

theorem pending_gatherRest : cursor.gatherRest.next.pending = none := by
  fun_induction gatherRest cursor with
  | case1 cursor delivery => exact pending_readUnit cursor
  | case2 cursor delivery => exact pending_readUnit cursor
  | case3 cursor delivery _ _ _ ih => exact ih

theorem isExhausted_gather_of_fault {count : Nat} (h : cursor.HeldBeforeEnd)
    (hfault : (cursor.gather count).fault.isSome) :
    (cursor.gather count).next.isExhausted = false := by
  fun_induction gather count cursor with
  | case1 => cases hfault
  | case2 count cursor _ delivery hgot => exact isExhausted_readUnit_of_fault h hfault
  | case3 count cursor _ delivery hgot _ ih =>
    exact ih (heldBeforeEnd_of_pending (pending_readUnit cursor)) hfault

theorem isExhausted_gatherRest_of_fault (h : cursor.HeldBeforeEnd)
    (hfault : cursor.gatherRest.fault.isSome) : cursor.gatherRest.next.isExhausted = false := by
  fun_induction gatherRest cursor with
  | case1 cursor delivery => exact isExhausted_readUnit_of_fault h hfault
  | case2 cursor delivery => exact isExhausted_readUnit_of_fault h hfault
  | case3 cursor delivery _ _ _ ih =>
    exact ih (heldBeforeEnd_of_pending (pending_readUnit cursor)) hfault

end Cursor

/-- A failure is held back only behind some bytes, which are given. -/
theorem Delivery.pending_holdBack {delivery : Delivery Script} {error : SourceError}
    (hnext : delivery.next.pending = none) (h : delivery.holdBack.2.pending = some error) :
    delivery.fault = some error ∧ delivery.got ≠ []
      ∧ delivery.holdBack
        = (.ok delivery.got, { delivery.next with pending := some error }) := by
  unfold holdBack at h ⊢
  cases hfault : delivery.fault with
  | none => simp [hfault, hnext] at h
  | some error' =>
    rw [hfault] at h
    by_cases hgot : delivery.got = []
    · simp [hgot, hnext] at h
    · simp_all

namespace Cursor

variable (cursor : Cursor Script)

/-! ## Lines -/

theorem pending_readLine : cursor.readLine.2.pending = none := by
  have h := @pending_readUnit (Inlet.readUntil newline) cursor
  rw [readLine_eq_decoding]
  unfold Delivery.orFault
  generalize cursor.readUnit (Inlet.readUntil newline) = delivery at h ⊢
  obtain ⟨got, _ | error, next⟩ := delivery
  · simp only
    split
    · exact h
    · split <;> exact h
  · exact h

theorem pending_readLineBytes : cursor.readLineBytes.2.pending = none := by
  have h := @pending_readUnit (Inlet.readUntil newline) cursor
  unfold readLineBytes Delivery.orFault
  generalize cursor.readUnit (Inlet.readUntil newline) = delivery at h ⊢
  obtain ⟨got, _ | error, next⟩ := delivery
  · simp only
    split <;> exact h
  · exact h

theorem pending_readLines : cursor.readLines.2.pending = none := by
  fun_induction readLines cursor with
  | case1 cursor error cursor' h =>
    have hline := pending_readLine cursor
    rwa [h] at hline
  | case2 cursor cursor' h =>
    have hline := pending_readLine cursor
    rwa [h] at hline
  | case3 cursor text cursor' h _ rest last hrest ih =>
    rwa [hrest] at ih

theorem eachLine_one_snd : (cursor.eachLine 1).2 = cursor.readLine.2 := by
  unfold eachLine
  obtain ⟨_ | _ | text, next⟩ := cursor.readLine <;> rfl

/-! ## Operations while a failure is held -/

section Held

variable {cursor} {error : SourceError} (hpending : cursor.pending = some error)

include hpending

theorem read_of_pending {count : Nat} (hcount : count ≠ 0) :
    cursor.read count = (.error error, { cursor with pending := none }) := by
  have hunit := @readUnit_of_pending (Inlet.takeUpTo count) cursor error hpending
  rw [read, if_neg hcount, gather_of_nil hcount (by rw [hunit]), hunit]
  rfl

theorem readToEnd_of_pending :
    cursor.readToEnd = (.error error, { cursor with pending := none }) := by
  rw [readToEnd, gatherRest_of_pending hpending]
  rfl

theorem readByte_of_pending :
    cursor.readByte = (.error error, { cursor with pending := none }) := by
  rw [readByte, readUnit_of_pending hpending]
  rfl

theorem readLine_of_pending :
    cursor.readLine = (.error error, { cursor with pending := none }) := by
  rw [readLine_eq_decoding, readUnit_of_pending hpending]
  rfl

theorem readLineBytes_of_pending :
    cursor.readLineBytes = (.error error, { cursor with pending := none }) := by
  rw [readLineBytes, readUnit_of_pending hpending]
  rfl

theorem readLines_of_pending :
    cursor.readLines = (.error error, { cursor with pending := none }) :=
  readLines_of_error (readLine_of_pending hpending)

/-- **What asks for data while a failure is held reports it and touches nothing else.** -/
theorem serve_of_pending {operation : BlockingOperation} (hasks : operation.asksForData) :
    cursor.serve operation = (operation.report error, { cursor with pending := none }) := by
  match operation with
  | .common (.read (some count)) =>
    rw [serve, perform, read_of_pending hpending (by simpa [BlockingOperation.asksForData] using hasks)]
    rfl
  | .common (.read none) => rw [serve, perform, readToEnd_of_pending hpending]; rfl
  | .common .readToEnd => rw [serve, perform, readToEnd_of_pending hpending]; rfl
  | .common .readByte => rw [serve, perform, readByte_of_pending hpending]; rfl
  | .common .readLine => rw [serve, perform, readLine_of_pending hpending]; rfl
  | .common .readLineBytes => rw [serve, perform, readLineBytes_of_pending hpending]; rfl
  | .readLines => rw [serve, readLines_of_pending hpending]; rfl
  | .nextLine => rw [serve, eachLine, readLine_of_pending hpending]; rfl
  | .plainRead room =>
    have hroom : room ≠ 0 := by simpa [BlockingOperation.asksForData] using hasks
    rw [serve, Seamless.read, if_neg hroom, readUnit_of_pending hpending]
    rfl
  | .fill => rw [serve, Seamless.fill, readUnit_of_pending hpending]; rfl

end Held

/-- What does not ask for data leaves a held failure held, and gives no data. -/
theorem serve_of_quiet {operation : BlockingOperation} (hquiet : operation.asksForData = false) :
    (cursor.serve operation).2.pending = cursor.pending
      ∧ (cursor.serve operation).2.isExhausted = cursor.isExhausted
      ∧ ∃ response : Response, (cursor.serve operation).1 = .ok response ∧ response.isQuiet
          ∧ response.reportsEnd operation = false := by
  match operation with
  | .common (.read (some count)) =>
    obtain rfl : count = 0 := by simpa [BlockingOperation.asksForData] using hquiet
    exact ⟨rfl, rfl, _, rfl, rfl, rfl⟩
  | .common .skip =>
    refine ⟨?_, ?_, .done, rfl, rfl, rfl⟩ <;>
      cases hphase : cursor.phase <;> simp [serve, perform, skip, close, isExhausted, hphase]
  | .setLineno lineno => exact ⟨rfl, rfl, _, rfl, rfl, rfl⟩
  | .plainRead room =>
    obtain rfl : room = 0 := by simpa [BlockingOperation.asksForData] using hquiet
    exact ⟨rfl, rfl, _, rfl, rfl, rfl⟩
  | .consume count =>
    refine ⟨?_, ?_, .done, rfl, rfl, rfl⟩ <;>
      cases hphase : cursor.phase <;> simp [serve, Seamless.consume, isExhausted, hphase]

/-! ## Operations while none is held -/

/-- A bulk read comes to hold a failure only behind some bytes, and not at the end. -/
theorem pending_bulk {delivery : Delivery Script} {error : SourceError}
    (hnext : delivery.next.pending = none)
    (hfault : delivery.fault.isSome → delivery.next.isExhausted = false)
    (h : delivery.holdBack.2.pending = some error) :
    (∃ b rest, delivery.holdBack.1 = .ok (b :: rest))
      ∧ delivery.holdBack.2.isExhausted = false := by
  obtain ⟨hsome, hgot, hback⟩ := Delivery.pending_holdBack hnext h
  obtain ⟨b, rest, hcons⟩ := List.exists_cons_of_ne_nil hgot
  rw [hback, hcons]
  exact ⟨⟨b, rest, rfl⟩, hfault (by rw [hsome]; rfl)⟩

theorem pending_orFault {delivery : Delivery Script} (h : delivery.next.pending = none) :
    delivery.orFault.2.pending = none := by
  unfold Delivery.orFault
  split <;> exact h

theorem pending_answer {delivery : Delivery Script} (h : delivery.next.pending = none) :
    delivery.answer.2.pending = none := by
  unfold Delivery.answer
  split <;> exact h

variable {cursor}

/-- **A failure comes to be held only in a bulk read that gives some bytes**, and the stream is then
not at its end. -/
theorem pending_serve_of_asks {operation : BlockingOperation} (hasks : operation.asksForData)
    (hheld : cursor.HeldBeforeEnd) {error : SourceError}
    (h : (cursor.serve operation).2.pending = some error) :
    cursor.pending = none ∧ operation.isBulk
      ∧ (∃ b rest, (cursor.serve operation).1 = .ok (.bytes (some (b :: rest))))
      ∧ (cursor.serve operation).2.isExhausted = false := by
  have hnone : cursor.pending = none := by
    cases hpending : cursor.pending with
    | none => rfl
    | some error' =>
      rw [serve_of_pending hpending hasks] at h
      cases h
  refine ⟨hnone, ?_⟩
  match operation with
  | .common (.read (some count)) =>
    have hcount : count ≠ 0 := by simpa [BlockingOperation.asksForData] using hasks
    rw [serve, perform, read, if_neg hcount] at h ⊢
    obtain ⟨⟨b, rest, hgot⟩, hexhausted⟩ := pending_bulk (pending_gather hcount)
      (isExhausted_gather_of_fault hheld) h
    refine ⟨rfl, ⟨b, rest, ?_⟩, hexhausted⟩
    simp only [Prod.map, hgot]
    rfl
  | .common (.read none) =>
    obtain ⟨⟨b, rest, hgot⟩, hexhausted⟩ := pending_bulk pending_gatherRest
      (isExhausted_gatherRest_of_fault hheld) h
    refine ⟨rfl, ⟨b, rest, ?_⟩, hexhausted⟩
    simp only [serve, perform, readToEnd, Prod.map, hgot]
    rfl
  | .common .readToEnd =>
    obtain ⟨⟨b, rest, hgot⟩, hexhausted⟩ := pending_bulk pending_gatherRest
      (isExhausted_gatherRest_of_fault hheld) h
    refine ⟨rfl, ⟨b, rest, ?_⟩, hexhausted⟩
    simp only [serve, perform, readToEnd, Prod.map, hgot]
    rfl
  | .common .readByte => cases (pending_orFault (pending_readUnit cursor)).symm.trans h
  | .common .readLine => cases (pending_readLine cursor).symm.trans h
  | .common .readLineBytes => cases (pending_readLineBytes cursor).symm.trans h
  | .readLines => cases (pending_readLines cursor).symm.trans h
  | .nextLine =>
    have hline := (congrArg Cursor.pending (eachLine_one_snd cursor)).trans
      (pending_readLine cursor)
    cases hline.symm.trans h
  | .plainRead room =>
    have hroom : room ≠ 0 := by simpa [BlockingOperation.asksForData] using hasks
    rw [serve, Seamless.read, if_neg hroom] at h
    cases (pending_answer (pending_readUnit cursor)).symm.trans h
  | .fill => cases (pending_answer (pending_readUnit cursor)).symm.trans h

/-! ## The invariant -/

/-- **No operation leaves a failure held at the end of the stream.** -/
theorem heldBeforeEnd_serve (operation : BlockingOperation) (h : cursor.HeldBeforeEnd) :
    (cursor.serve operation).2.HeldBeforeEnd := by
  intro hsome
  cases hasks : operation.asksForData with
  | true =>
    obtain ⟨error, herror⟩ := Option.isSome_iff_exists.1 hsome
    exact (pending_serve_of_asks hasks h herror).2.2.2
  | false =>
    obtain ⟨hpending, hexhausted, -⟩ := serve_of_quiet cursor hasks
    rw [hexhausted]
    exact h (hpending ▸ hsome)

/-- While a failure is held, what does not ask for data can be done any number of times. -/
theorem run_of_quiet (quiet : List BlockingOperation)
    (hquiet : ∀ operation ∈ quiet, operation.asksForData = false) :
    (Run.last serve quiet cursor).pending = cursor.pending
      ∧ ∀ step ∈ Run.trace serve quiet cursor,
          ∃ response : Response, step.1 = .ok response ∧ response.isQuiet := by
  induction quiet generalizing cursor with
  | nil => exact ⟨rfl, fun _ hstep => nomatch hstep⟩
  | cons operation rest ih =>
    obtain ⟨hpending, -, hanswer⟩ := serve_of_quiet cursor (hquiet operation List.mem_cons_self)
    obtain ⟨hlast, htrace⟩ := @ih (cursor.serve operation).2
      fun operation h => hquiet operation (List.mem_cons_of_mem _ h)
    refine ⟨hlast.trans hpending, fun step hstep => ?_⟩
    rcases List.mem_cons.1 hstep with rfl | hstep
    · obtain ⟨response, hresponse, hisQuiet, -⟩ := hanswer
      exact ⟨response, hresponse, hisQuiet⟩
    · exact htrace step hstep

/-- The report of a failure says nothing of the end of the stream. -/
theorem reportsEnd_report {operation : BlockingOperation} {error : SourceError}
    {response : Response} (h : operation.report error = .ok response) :
    ¬response.reportsEnd operation := by
  cases operation with
  | nextLine =>
    cases h
    exact Bool.noConfusion
  | _ => cases h

/-- Nothing is held, before or after, when an operation reports the end of the stream. -/
theorem pending_of_reportsEnd {operation : BlockingOperation} (h : cursor.HeldBeforeEnd)
    {response : Response} (hanswer : (cursor.serve operation).1 = .ok response)
    (hend : response.reportsEnd operation) :
    cursor.pending = none ∧ (cursor.serve operation).2.pending = none := by
  cases hasks : operation.asksForData with
  | false =>
    obtain ⟨-, -, response', hresponse, -, hopen⟩ := serve_of_quiet cursor hasks
    cases Except.ok.inj (hresponse.symm.trans hanswer)
    rw [hopen] at hend
    cases hend
  | true =>
    have hnone : cursor.pending = none := by
      cases hpending : cursor.pending with
      | none => rfl
      | some error =>
        rw [serve_of_pending hpending hasks] at hanswer
        exact absurd hend (reportsEnd_report hanswer)
    refine ⟨hnone, ?_⟩
    cases hpending : (cursor.serve operation).2.pending with
    | none => rfl
    | some error =>
      obtain ⟨-, -, ⟨b, rest, hgot⟩, -⟩ := pending_serve_of_asks hasks h hpending
      cases Except.ok.inj (hgot.symm.trans hanswer)
      cases hend

end Cursor

/-- **A failure is held once and reported once.** After every run: a failure comes to be held only in
a bulk read that gives some bytes, while none is held; while one is held the stream is not at its end,
what does not ask for data neither reports nor drops it, and the first operation that asks for data
reports it and touches nothing else; and the end of the stream is reported only when none is held. -/
theorem heldFailure_reported_once (world : World) (list : SourceList Script)
    (past : List BlockingOperation) :
    let cursor := Run.last Cursor.serve past (Cursor.ofList world list)
    (∀ operation error, (cursor.serve operation).2.pending = some error →
        cursor.pending = some error ∧ operation.asksForData = false
        ∨ cursor.pending = none ∧ operation.isBulk
          ∧ ∃ b rest, (cursor.serve operation).1 = .ok (.bytes (some (b :: rest))))
    ∧ (∀ error, cursor.pending = some error → cursor.isExhausted = false
        ∧ ∀ quiet : List BlockingOperation, (∀ operation ∈ quiet, operation.asksForData = false) →
          let later := Run.last Cursor.serve quiet cursor
          later.pending = some error
          ∧ (∀ step ∈ Run.trace Cursor.serve quiet cursor,
              ∃ response : Response, step.1 = .ok response ∧ response.isQuiet)
          ∧ ∀ operation, operation.asksForData →
              later.serve operation = (operation.report error, { later with pending := none }))
    ∧ ∀ operation response, (cursor.serve operation).1 = .ok response →
        response.reportsEnd operation →
        cursor.pending = none ∧ (cursor.serve operation).2.pending = none := by
  intro cursor
  have hheld : cursor.HeldBeforeEnd :=
    Run.last_induction Cursor.serve (fun operation _ => Cursor.heldBeforeEnd_serve operation) past
      (Cursor.heldBeforeEnd_of_pending rfl)
  refine ⟨fun operation error h => ?_, fun error herror => ⟨?_, fun quiet hquiet => ?_⟩, ?_⟩
  · cases hasks : operation.asksForData with
    | true =>
      obtain ⟨hnone, hbulk, hgot, -⟩ := Cursor.pending_serve_of_asks hasks hheld h
      exact Or.inr ⟨hnone, hbulk, hgot⟩
    | false => exact Or.inl ⟨(Cursor.serve_of_quiet cursor hasks).1 ▸ h, rfl⟩
  · exact hheld (by rw [herror]; rfl)
  · obtain ⟨hpending, hanswers⟩ := @Cursor.run_of_quiet cursor quiet hquiet
    exact ⟨hpending.trans herror, hanswers,
      fun operation hasks => Cursor.serve_of_pending (hpending.trans herror) hasks⟩
  · exact fun operation response => Cursor.pending_of_reportsEnd hheld

/-- The failure to open a second source, behind the byte of the first, outlives a skip. -/
theorem heldFailure_reported_after_skip :
    let missing := SourceError.ofOpening "b" (.bare .notFound)
    let cursor := Run.last Cursor.serve [.common (.read (some 5))] (Cursor.ofSources {}
      [⟨"a", .memory "a" [120]⟩, ⟨"b", .scripted "b" (.error (.bare .notFound))⟩])
    let later := Run.last Cursor.serve [.common .skip] cursor
    cursor.pending = some missing ∧ later.pending = some missing
      ∧ later.serve .fill = (.error (.io .notFound missing.message), { later with pending := none }) := by
  intro missing cursor later
  have hpending : cursor.pending = some missing := by decide +kernel
  have hquiet : ∀ operation ∈ [BlockingOperation.common .skip], operation.asksForData = false := by
    decide
  obtain ⟨-, hheld, -⟩ := heldFailure_reported_once {}
    (.ofList [⟨"a", .memory "a" [120]⟩, ⟨"b", .scripted "b" (.error (.bare .notFound))⟩])
    [.common (.read (some 5))]
  obtain ⟨hlater, -, hreport⟩ := (hheld missing hpending).2 _ hquiet
  exact ⟨hpending, hlater, hreport .fill rfl⟩

end InputChain
