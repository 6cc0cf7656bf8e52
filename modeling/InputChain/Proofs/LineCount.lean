import InputChain.Proofs.AsyncAgreement
import InputChain.Proofs.CollectedLines
import Mathlib.Data.List.DropRight

/-!
# The count of lines

A cursor counts the lines that it hands over as lines, and nothing else moves the count but setting it. A line that
is not UTF-8 is not handed over, the end of the stream and failures hand over none, and neither do reads of bytes,
skipping and the seamless view, whose lines are no lines of a source.

* `ViewOperation`, `CursorCall`, `Cursor.call`: all that a cursor can be asked, the whole seamless view included.
* `handsLine`: whether an answer hands over a line.
* `Seamless.Keeps`, **`Seamless.Keeps.view`**: what the three operations of the view keep, all of it keeps.
* `Cursor.lineno_perform`, **`Cursor.lineno_call`**: what one call does to the count.
* `Run.log`, `countOf`, **`Run.measure_last`**: what a run does to it.
* **`lineno_counts_lines`**: the count of either cursor after any run.
-/

namespace InputChain

/-! ## What can be asked of the seamless view -/

/-- The operations of the seamless view that are made of the three others. -/
inductive ViewOperation where
  | readExact (count : Nat)
  | readToEnd
  | readText
  | readUntil (stop : UInt8)
  | readLine
  | lines (count : Nat)
  | split (stop : UInt8) (count : Nat)
  deriving DecidableEq, Repr

/-- What they answer. -/
inductive ViewAnswer where
  | bytes (got : Except Seamless.Fault Bytes)
  /-- Bytes, and the failure that was met behind them. -/
  | delivered (got : Bytes) (fault : Option SourceError)
  | text (found : Except Seamless.Fault String)
  | texts (found : List (Except Seamless.Fault String))
  | pieces (found : List (Except SourceError Bytes))

/-- All that a cursor that waits can be asked. -/
inductive CursorCall where
  | served (operation : BlockingOperation)
  | viewed (operation : ViewOperation)
  deriving DecidableEq, Repr

namespace Cursor

/-- The seamless view of the cursor answers. -/
def view (operation : ViewOperation) (cursor : Cursor Script) : ViewAnswer × Cursor Script :=
  match operation with
  | .readExact count => (Seamless.readExact count cursor).map .bytes id
  | .readToEnd =>
    let delivery := Seamless.readToEnd cursor
    (.delivered delivery.got delivery.fault, delivery.next)
  | .readText => (Seamless.readText cursor).map .text id
  | .readUntil stop =>
    let delivery := Seamless.readUntil stop cursor
    (.delivered delivery.got delivery.fault, delivery.next)
  | .readLine => (Seamless.readLine cursor).map .text id
  | .lines count => (Seamless.lines count cursor).map .texts id
  | .split stop count => (Seamless.split stop count cursor).map .pieces id

/-- The cursor answers a call. -/
def call (call : CursorCall) (cursor : Cursor Script) :
    (Except Failure Response ⊕ ViewAnswer) × Cursor Script :=
  match call with
  | .served operation => (cursor.serve operation).map .inl id
  | .viewed operation => (cursor.view operation).map .inr id

end Cursor

/-! ## What hands over a line -/

/-- Whether the answer to an operation hands over a line. -/
def Operation.handsLine {ε : Type} : Operation → Except ε Response → Bool
  | .readLine, .ok (.line found) => found.isSome
  | .readLineBytes, .ok (.bytes found) => found.isSome
  | _, _ => false

/-- The same of a cursor that waits, which has an iterator over the lines. -/
def BlockingOperation.handsLine : BlockingOperation → Except Failure Response → Bool
  | .common operation, answer => operation.handsLine answer
  | .nextLine, .ok (.item (some (.ok _))) => true
  | _, _ => false

namespace CursorCall

/-- The same of all calls. -/
def handsLine : CursorCall → Except Failure Response ⊕ ViewAnswer → Bool
  | .served operation, .inl answer => operation.handsLine answer
  | _, _ => false

/-- The number that a call sets the count to. -/
def setting? : CursorCall → Option Nat
  | .served (.setLineno lineno) => some lineno
  | _ => none

end CursorCall

/-! ## The seamless view -/

namespace Seamless

/-- What the three operations of the view keep. -/
structure Keeps (Holds : Cursor Script → Prop) : Prop where
  read : ∀ {cursor} room, Holds cursor → Holds (Seamless.read room cursor).next
  fill : ∀ {cursor}, Holds cursor → Holds (Seamless.fill cursor).next
  consume : ∀ {cursor} count, Holds cursor → Holds (Seamless.consume count cursor)

namespace Keeps

variable {Holds : Cursor Script → Prop} (keeps : Keeps Holds) {cursor : Cursor Script} (h : Holds cursor)

include keeps h

theorem readExact (count : Nat) : Holds (Seamless.readExact count cursor).2 := by
  fun_induction Seamless.readExact count cursor with
  | case1 => exact h
  | case2 _ _ _ _ _ _ _ _ ih => exact ih (keeps.read _ h)
  | case3 => exact keeps.read _ h
  | case4 => exact keeps.read _ h
  | case5 _ _ _ _ _ _ _ _ _ hrest ih =>
    have hlast := ih (keeps.read _ h)
    rw [hrest] at hlast
    exact hlast

theorem readToEnd : Holds (Seamless.readToEnd cursor).next := by
  fun_induction Seamless.readToEnd cursor with
  | case1 _ _ _ _ _ _ ih => exact ih (keeps.read _ h)
  | case2 => exact keeps.read _ h
  | case3 => exact keeps.read _ h
  | case4 _ _ _ _ _ ih => exact ih (keeps.read _ h)

theorem readUntil (stop : UInt8) : Holds (Seamless.readUntil stop cursor).next := by
  fun_induction Seamless.readUntil stop cursor with
  | case1 _ _ _ _ _ _ ih => exact ih (keeps.fill h)
  | case2 => exact keeps.fill h
  | case3 => exact keeps.fill h
  | case4 => exact keeps.consume _ (keeps.fill h)
  | case5 _ _ _ _ _ _ ih => exact ih (keeps.consume _ (keeps.fill h))

omit keeps h in
theorem textOf {delivery : Delivery Script} (h : Holds delivery.next) : Holds (Seamless.textOf delivery).2 := by
  unfold Seamless.textOf
  split
  · exact h
  · split <;> exact h

theorem readLine : Holds (Seamless.readLine cursor).2 :=
  textOf (keeps.readUntil h newline)

theorem lines (count : Nat) : Holds (Seamless.lines count cursor).2 := by
  fun_induction Seamless.lines count cursor with
  | case1 => exact h
  | case2 _ _ _ _ hline _ _ hrest ih | case4 _ _ _ _ hline _ _ _ hrest ih =>
    have hnext := keeps.readLine h
    rw [hline] at hnext
    have hlast := ih hnext
    rw [hrest] at hlast
    exact hlast
  | case3 _ _ _ _ hline =>
    have hnext := keeps.readLine h
    rw [hline] at hnext
    exact hnext

theorem split (stop : UInt8) (count : Nat) : Holds (Seamless.split stop count cursor).2 := by
  fun_induction Seamless.split stop count cursor with
  | case1 => exact h
  | case2 _ _ _ _ _ _ _ hrest ih | case4 _ _ _ _ _ _ _ hrest ih =>
    have hlast := ih (keeps.readUntil h stop)
    rw [hrest] at hlast
    exact hlast
  | case3 => exact keeps.readUntil h stop

/-- **What the three operations keep, all of the view keeps.** -/
theorem view (operation : ViewOperation) : Holds (cursor.view operation).2 := by
  cases operation with
  | readExact count => exact keeps.readExact h count
  | readToEnd => exact keeps.readToEnd h
  | readText => exact textOf (keeps.readToEnd h)
  | readUntil stop => exact keeps.readUntil h stop
  | readLine => exact keeps.readLine h
  | lines count => exact keeps.lines h count
  | split stop count => exact keeps.split h stop count

end Keeps

theorem lineno_read (room : Nat) (cursor : Cursor Script) : (read room cursor).next.lineno = cursor.lineno := by
  unfold read
  split
  · rfl
  · exact Cursor.lineno_readUnit _ cursor

theorem lineno_fill (cursor : Cursor Script) : (fill cursor).next.lineno = cursor.lineno :=
  Cursor.lineno_readUnit _ cursor

theorem lineno_consume (count : Nat) (cursor : Cursor Script) : (consume count cursor).lineno = cursor.lineno := by
  unfold consume
  split <;> rfl

/-- The view keeps the count. -/
theorem keeps_lineno (lineno : Nat) : Keeps fun cursor => cursor.lineno = lineno where
  read room h := (lineno_read room _).trans h
  fill h := (lineno_fill _).trans h
  consume count h := (lineno_consume count _).trans h

end Seamless

/-! ## One call -/

namespace Cursor

variable (cursor : Cursor Script)

theorem lineno_gather (count : Nat) : (cursor.gather count).next.lineno = cursor.lineno := by
  fun_induction gather count cursor with
  | case1 => rfl
  | case2 => exact lineno_readUnit _ _
  | case3 _ _ _ _ _ _ ih => exact ih.trans (lineno_readUnit _ _)

theorem lineno_gatherRest : cursor.gatherRest.next.lineno = cursor.lineno := by
  fun_induction gatherRest cursor with
  | case1 => exact lineno_readUnit _ _
  | case2 => exact lineno_readUnit _ _
  | case3 _ _ _ _ _ ih => exact ih.trans (lineno_readUnit _ _)

theorem lineno_holdBack (delivery : Delivery Script) : delivery.holdBack.2.lineno = delivery.next.lineno := by
  unfold Delivery.holdBack
  split
  · rfl
  · split <;> rfl

theorem lineno_orFault (delivery : Delivery Script) : delivery.orFault.2.lineno = delivery.next.lineno := by
  unfold Delivery.orFault
  split <;> rfl

theorem lineno_skip : cursor.skip.lineno = cursor.lineno := by
  unfold skip
  split <;> rfl

/-- A line is counted if its bytes are given. -/
theorem lineno_readLineBytes :
    cursor.readLineBytes.2.lineno = cursor.lineno
      + match cursor.readLineBytes.1 with
        | .ok (some _) => 1
        | _ => 0 := by
  have hunit := lineno_readUnit (Inlet.readUntil newline) cursor
  unfold readLineBytes Delivery.orFault
  generalize cursor.readUnit (Inlet.readUntil newline) = delivery at hunit ⊢
  obtain ⟨_ | ⟨b, line⟩, _ | error, next⟩ := delivery
  · exact hunit
  · exact hunit
  · exact congrArg (· + 1) hunit
  · exact hunit

/-- One more is counted if a line is handed over. -/
theorem lineno_perform (operation : Operation) :
    (cursor.perform operation).2.lineno
      = cursor.lineno + if operation.handsLine (cursor.perform operation).1 then 1 else 0 := by
  match operation with
  | .read (some count) =>
    have hgather := (lineno_holdBack _).trans (cursor.lineno_gather count)
    rw [perform, read]
    split
    · rfl
    · exact hgather
  | .read none | .readToEnd => exact (lineno_holdBack _).trans cursor.lineno_gatherRest
  | .readByte => exact (lineno_orFault _).trans (lineno_readUnit _ cursor)
  | .readLine =>
    have hline := cursor.lineno_readLine
    rw [perform]
    generalize cursor.readLine = answer at hline ⊢
    obtain ⟨_ | _ | text, next⟩ := answer <;> exact hline
  | .readLineBytes =>
    have hline := cursor.lineno_readLineBytes
    rw [perform]
    generalize cursor.readLineBytes = answer at hline ⊢
    obtain ⟨_ | _ | line, next⟩ := answer <;> exact hline
  | .skip => exact cursor.lineno_skip

/-- The iterator counts as a read of a line does. -/
theorem lineno_nextLine :
    (cursor.serve .nextLine).2.lineno
      = cursor.lineno + if BlockingOperation.nextLine.handsLine (cursor.serve .nextLine).1 then 1 else 0 := by
  have hline := cursor.lineno_readLine
  rw [serve, eachLine]
  generalize cursor.readLine = answer at hline ⊢
  obtain ⟨_ | _ | text, next⟩ := answer <;> exact hline

theorem lineno_answer (delivery : Delivery Script) : delivery.answer.2.lineno = delivery.next.lineno := by
  unfold Delivery.answer
  split <;> rfl

theorem handsLine_mapError (operation : Operation) (answer : Except SourceError Response) :
    operation.handsLine (answer.mapError Failure.source) = operation.handsLine answer := by
  cases answer with
  | ok response => cases operation <;> cases response <;> rfl
  | error error => cases operation <;> rfl

/-- **What one call does to the count**: it sets it, or one more is counted if a line is handed over. -/
theorem lineno_call {call : CursorCall} (hcall : call ≠ .served .readLines) :
    (cursor.call call).2.lineno
      = call.setting?.getD (cursor.lineno + if call.handsLine (cursor.call call).1 then 1 else 0) := by
  match call with
  | .viewed operation => exact (Seamless.keeps_lineno cursor.lineno).view rfl operation
  | .served (.common operation) =>
    refine (cursor.lineno_perform operation).trans (congrArg (fun hands : Bool => _ + if hands then 1 else 0) ?_)
    exact (handsLine_mapError operation _).symm
  | .served (.setLineno lineno) => rfl
  | .served .readLines => exact absurd rfl hcall
  | .served .nextLine => exact cursor.lineno_nextLine
  | .served (.plainRead room) => exact (lineno_answer _).trans (Seamless.lineno_read room cursor)
  | .served .fill => exact (lineno_answer _).trans (Seamless.lineno_fill cursor)
  | .served (.consume count) => exact Seamless.lineno_consume count cursor

end Cursor

/-- **What one operation of the other cursor does to it.** -/
theorem AsyncCursor.lineno_perform (operation : Operation) (cursor : AsyncCursor) :
    (AsyncCursor.perform operation cursor).2.lineno
      = cursor.lineno + if operation.handsLine (AsyncCursor.perform operation cursor).1 then 1 else 0 := by
  have hsettled := AsyncCursor.perform_settled cursor operation
  have hcount := cursor.settled.lineno_perform operation
  rw [← hsettled] at hcount
  exact hcount

/-! ## Runs -/

namespace Run

variable {ω κ ρ : Type} (step : ω → κ → ρ × κ)

/-- The operations of a run, each with its answer. -/
def log : List ω → κ → List (ω × ρ)
  | [], _ => []
  | operation :: rest, state => (operation, (step operation state).1) :: log rest (step operation state).2

theorem last_concat (operations : List ω) (operation : ω) (state : κ) :
    last step (operations ++ [operation]) state = (step operation (last step operations state)).2 :=
  List.foldl_append

/-- One operation more stands at the end of the log. -/
theorem log_concat (operations : List ω) (operation : ω) (state : κ) :
    log step (operations ++ [operation]) state
      = log step operations state ++ [(operation, (step operation (last step operations state)).1)] := by
  induction operations generalizing state with
  | nil => rfl
  | cons first rest ih => exact congrArg (_ :: ·) (ih _)

end Run

/-- What a count comes to, from where it starts: the number it was last set to, and one for each entry since that
counts. -/
def countOf {α : Type} (setting? : α → Option Nat) (counts : α → Bool) (start : Nat) (log : List α) : Nat :=
  (log.filterMap setting?).getLast?.getD start
    + (log.rtakeWhile fun entry => (setting? entry).isNone).countP counts

section CountOf

variable {α : Type} {setting? : α → Option Nat} {counts : α → Bool} {start : Nat}

/-- An entry more sets the count, or it may count. -/
theorem countOf_concat (log : List α) (entry : α) :
    countOf setting? counts start (log ++ [entry])
      = (setting? entry).getD (countOf setting? counts start log + if counts entry then 1 else 0) := by
  unfold countOf
  rw [List.filterMap_append, List.rtakeWhile_concat]
  cases hset : setting? entry with
  | none =>
    rw [List.filterMap_cons_none hset, List.filterMap_nil, List.append_nil, Option.isNone_none, if_pos rfl,
      List.countP_append, List.countP_singleton]
    exact (Nat.add_assoc ..).symm
  | some number =>
    rw [List.filterMap_cons_some hset, List.filterMap_nil, List.getLast?_concat]
    rfl

/-- Where nothing sets the count, all entries that count do. -/
theorem countOf_of_none (hnone : ∀ entry, setting? entry = none) (log : List α) :
    countOf setting? counts start log = start + log.countP counts := by
  have hfilter : log.filterMap setting? = [] := List.filterMap_eq_nil_iff.2 fun entry _ => hnone entry
  have hall : log.rtakeWhile (fun entry => (setting? entry).isNone) = log :=
    List.rtakeWhile_eq_self_iff.2 fun entry _ => by rw [hnone entry]; rfl
  rw [countOf, hfilter, hall]
  rfl

end CountOf

/-- **What every step does to a count, a run does by its log.** -/
theorem Run.measure_last {ω κ ρ : Type} {step : ω → κ → ρ × κ} (measure : κ → Nat)
    (setting? : ω × ρ → Option Nat) (counts : ω × ρ → Bool) {operations : List ω}
    (hstep : ∀ operation ∈ operations, ∀ state,
      let entry := (operation, (step operation state).1)
      measure (step operation state).2
        = (setting? entry).getD (measure state + if counts entry then 1 else 0))
    (state : κ) :
    measure (last step operations state)
      = countOf setting? counts (measure state) (log step operations state) := by
  induction operations using List.reverseRecOn with
  | nil => rfl
  | append_singleton operations operation ih =>
    have hlast := hstep operation (by simp) (last step operations state)
    rw [last_concat, log_concat, countOf_concat, ← ih fun earlier hearlier => hstep earlier (by simp [hearlier])]
    exact hlast

/-- **The count of lines.** Over any sources and after any calls that do not collect all lines, the count is the
number it was last set to, or zero, and one for each line handed over since. From any state, a call that neither
sets the count nor hands over a line leaves it alone, whatever else it does or fails to do. The count of the other
cursor, which is never set, is one for each line handed over. -/
theorem lineno_counts_lines (world : World) (list : SourceList Script) (polled : SourceList PolledScript) :
    (∀ calls : List CursorCall, .served .readLines ∉ calls →
        (Run.last Cursor.call calls (Cursor.ofList world list)).lineno
          = countOf (fun entry => entry.1.setting?) (fun entry => entry.1.handsLine entry.2) 0
              (Run.log Cursor.call calls (Cursor.ofList world list)))
      ∧ (∀ (call : CursorCall) (cursor : Cursor Script), call ≠ .served .readLines → call.setting? = none →
          call.handsLine (cursor.call call).1 = false → (cursor.call call).2.lineno = cursor.lineno)
      ∧ (∀ operations : List Operation,
          (Run.last AsyncCursor.perform operations (Cursor.ofList world polled)).lineno
            = (Run.log AsyncCursor.perform operations (Cursor.ofList world polled)).countP
                fun entry => entry.1.handsLine entry.2)
      ∧ ∀ (operation : Operation) (cursor : AsyncCursor),
          operation.handsLine (AsyncCursor.perform operation cursor).1 = false →
          (AsyncCursor.perform operation cursor).2.lineno = cursor.lineno := by
  refine ⟨fun calls hcalls => ?_, fun call cursor hcall hset hhands => ?_, fun operations => ?_,
    fun operation cursor hhands => ?_⟩
  · refine Run.measure_last Cursor.lineno _ _ (fun call hcall cursor => ?_) _
    exact Cursor.lineno_call cursor fun hlines => hcalls (hlines ▸ hcall)
  · rw [Cursor.lineno_call cursor hcall, hset, hhands]
    rfl
  · have hcount := Run.measure_last Cursor.lineno (fun _ => none) (fun entry => entry.1.handsLine entry.2)
      (fun operation (_ : operation ∈ operations) => AsyncCursor.lineno_perform operation)
      (Cursor.ofList world polled)
    rw [countOf_of_none fun _ => rfl] at hcount
    exact hcount.trans (Nat.zero_add _)
  · rw [AsyncCursor.lineno_perform, hhands]
    rfl

/-- The count is set between lines, and a line that is not UTF-8, a source that does not open, a line of the seamless
view and the end of the stream hand over none; nor does the line that is not UTF-8 to the other cursor. -/
theorem lineno_counts_lines_mixed :
    let list : SourceList Script := SourceList.ofList [⟨"a", .memory "a" [120, 10, 121, 10]⟩,
      ⟨"b", .scripted "b" (.error (.bare .notFound))⟩, ⟨"c", .memory "c" [255, 10, 122, 10, 119]⟩]
    let calls : List CursorCall := [.served (.common .readLine), .served (.setLineno 5),
      .served (.common .readLineBytes), .served .nextLine, .served (.common .readLine), .served .nextLine,
      .viewed .readLine, .served (.common .readLine)]
    let cursor := Cursor.ofList {} list
    let polled : AsyncCursor := Cursor.ofSources {} [⟨"c", .memory "c" [255, 10]⟩]
    .served .readLines ∉ calls
      ∧ (Run.last Cursor.call calls cursor).lineno = 7
      ∧ CursorCall.handsLine (.viewed .readLine) (cursor.call (.viewed .readLine)).1 = false
      ∧ (cursor.call (.viewed .readLine)).2.lineno = 0
      ∧ Operation.readLine.handsLine (AsyncCursor.perform .readLine polled).1 = false
      ∧ (AsyncCursor.perform .readLine polled).2.lineno = 0 := by
  intro list calls cursor polled
  obtain ⟨hrun, hcall, -, hperform⟩ := lineno_counts_lines {} list (SourceList.ofList [])
  have hcalls : .served .readLines ∉ calls := by decide
  have hview : CursorCall.handsLine (.viewed .readLine) (cursor.call (.viewed .readLine)).1 = false := rfl
  have hmalformed : Operation.readLine.handsLine (AsyncCursor.perform .readLine polled).1 = false := by
    decide +kernel
  exact ⟨hcalls, (hrun calls hcalls).trans (by decide +kernel), hview,
    hcall _ cursor (by decide) rfl hview, hmalformed, hperform _ polled hmalformed⟩

end InputChain
