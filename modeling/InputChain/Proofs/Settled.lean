import InputChain.Inlet.Polled
import InputChain.Proofs.Units

/-!
# Readers that can be not ready, each answer waited for

A reader that can be not ready answers, sooner or later, what a reader that makes its caller wait
answers at once. Settling takes the one for the other, in a script and in an inlet, and every portion
a task adds is the unit that the waiting side takes.

* `Reader.settled`, `Inlet.settled`: the waiting side.
* `PolledScript.read_settled`, `PolledScript.readThrough_settled`, `PolledScript.drain_settled`: a
  request is answered alike.
* `Portion.unit`, **`PolledInlet.add_settled`**: a portion is a unit after what was collected.
-/

namespace InputChain

/-- A reply whose rest is seen differently. -/
def Reply.map {σ τ : Type} (f : σ → τ) (reply : Reply σ) : Reply τ :=
  ⟨reply.got, reply.fault, f reply.next⟩

/-! ## Scripts -/

namespace PolledScript

/-- **A request is answered as it is by the settled reader.** -/
theorem read_settled (room : Nat) (script : PolledScript) :
    (script.read room).map settled = script.settled.read room := by
  obtain ⟨hgot, hfault, hnext⟩ := script.settled_read room
  rw [Reply.map, hgot, hfault, hnext]

theorem filterMap_id_some (answer : Answer) (rest : List (Option Answer)) :
    (some answer :: rest).filterMap id = answer :: rest.filterMap id := rfl

theorem filterMap_dropWhile_waiting (answers : List (Option Answer)) :
    (answers.dropWhile fun answer => answer.isNone || isInterruption answer).filterMap id
      = (answers.filterMap id).dropWhile Script.isInterruption := by
  induction answers with
  | nil => rfl
  | cons answer rest ih =>
    cases answer with
    | none => simpa using ih
    | some answer =>
      rw [List.dropWhile_cons, filterMap_id_some, List.dropWhile_cons]
      simp only [Option.isNone_some, Bool.false_or, isInterruption]
      split
      · exact ih
      · rfl

theorem readThrough_settled (room : Nat) (script : PolledScript) :
    (script.readThrough room).map settled = script.settled.readThrough room := by
  unfold readThrough Script.readThrough
  rw [read_settled]
  congr 1
  simp only [settled, filterMap_dropWhile_waiting]

theorem drain_settled (script : PolledScript) :
    script.drain.map settled = script.settled.drain := by
  suffices h : ∀ answers, (drain.go script answers).map settled
      = Script.drain.go script.settled (answers.filterMap id) from h script.answers
  intro answers
  induction answers with
  | nil => rfl
  | cons answer rest ih =>
    match answer with
    | none => simpa [drain.go] using ih
    | some (.fault error) =>
      rw [filterMap_id_some, drain.go, Script.drain.go]
      split
      · exact ih
      · rfl
    | some (.bytes content) =>
      rw [filterMap_id_some, drain.go, Script.drain.go, ← ih]
      split <;> rfl

end PolledScript

/-! ## Inlets -/

/-- The reader, each answer waited for. -/
def Reader.settled : Reader PolledScript → Reader Script
  | .script answers => .script answers.settled
  | .standardInput => .standardInput

/-- The inlet, each answer waited for. -/
def Inlet.settled (inlet : PolledInlet) : Inlet Script :=
  ⟨inlet.held, inlet.reader.settled, inlet.input⟩

/-- The unit that the waiting side takes for a portion. -/
def Portion.unit : Portion → Inlet Script → Reply (Inlet Script)
  | .upTo count => Inlet.takeUpTo count
  | .line => Inlet.readUntil newline
  | .rest => Inlet.readRest

namespace PolledInlet

/-- A request past the held block is answered alike. -/
theorem pullBy_settled {request : PolledScript → Reply PolledScript} {request' : Script → Reply Script}
    (hrequest : ∀ script, (request script).map PolledScript.settled = request' script.settled) (room : Nat)
    (inlet : PolledInlet) :
    (inlet.pullBy request room).map Inlet.settled = inlet.settled.pullBy request' room := by
  obtain ⟨held, script | _, input⟩ := inlet
  · have h := hrequest script
    simp only [Inlet.pullBy, Inlet.settled, Reader.settled, Inlet.ofScript, Reply.map, ← h]
  · rfl

theorem pull_settled (room : Nat) (inlet : PolledInlet) :
    (inlet.pull room).map Inlet.settled = inlet.settled.pull room :=
  pullBy_settled (PolledScript.read_settled room) room inlet

theorem pullThrough_settled (room : Nat) (inlet : PolledInlet) :
    (inlet.pullThrough room).map Inlet.settled = inlet.settled.pullThrough room :=
  pullBy_settled (PolledScript.readThrough_settled room) room inlet

/-- A block is asked for as the waiting side asks for it. -/
theorem refillBy_settled {request : PolledInlet → Reply PolledInlet}
    {request' : Inlet Script → Reply (Inlet Script)}
    (hrequest : ∀ inlet, (request inlet).map Inlet.settled = request' inlet.settled)
    (inlet : PolledInlet) :
    (⟨(inlet.refillBy request).2.held, (inlet.refillBy request).1,
      (inlet.refillBy request).2.settled⟩ : Reply (Inlet Script))
      = inlet.settled.fillBy request' := by
  unfold refillBy Inlet.fillBy
  rw [← hrequest inlet]
  by_cases hheld : inlet.held = []
  · simp [hheld, Inlet.settled, Reply.map]
  · simp [hheld, Inlet.settled]

theorem refill_settled (inlet : PolledInlet) :
    (⟨inlet.refill.2.held, inlet.refill.1, inlet.refill.2.settled⟩ : Reply (Inlet Script))
      = inlet.settled.fill :=
  refillBy_settled (pull_settled blockSize) inlet

theorem refillThrough_settled (inlet : PolledInlet) :
    (⟨inlet.refillThrough.2.held, inlet.refillThrough.1, inlet.refillThrough.2.settled⟩ :
      Reply (Inlet Script)) = inlet.settled.fillThrough :=
  refillBy_settled (pullThrough_settled blockSize) inlet

end PolledInlet

/-! ## Portions -/

namespace PolledInlet

theorem addUpTo_settled (count : Nat) (out : Bytes) (inlet : PolledInlet) :
    (inlet.addUpTo count out).map Inlet.settled = (inlet.settled.takeUpTo count).after out := by
  have hfill := inlet.refill_settled
  have hgot := @Inlet.got_fill_of_fault inlet.settled
  unfold addUpTo Inlet.takeUpTo
  rw [← hfill] at hgot ⊢
  match h : inlet.refill with
  | (none, filled) => rfl
  | (some error, filled) =>
    have hheld : filled.held = [] := by
      rw [h] at hgot
      exact hgot rfl
    simp [Reply.map, Reply.after, Inlet.consume, Inlet.settled, hheld]

theorem addLine_settled (out : Bytes) (inlet : PolledInlet) :
    (inlet.addLine out).map Inlet.settled
      = (inlet.settled.readUntil newline).after out := by
  fun_induction addLine out inlet with
  | case1 out inlet filled h =>
    obtain ⟨error, herror⟩ := Option.isSome_iff_exists.1 h
    have hfill := inlet.refillThrough_settled
    have hfault : inlet.settled.fillThrough.fault = some error := by rw [← hfill]; exact herror
    have hgot := Inlet.got_fillThrough_of_fault hfault
    have hheld : filled.held = [] := by rwa [← hfill] at hgot
    rw [Inlet.readUntil_of_end hgot, ← hfill]
    simp only [Reply.map, Reply.after, filled] at hheld ⊢
    rw [hheld, List.append_nil]
  | case2 out inlet filled h hheld =>
    have hfill := inlet.refillThrough_settled
    rw [Option.not_isSome_iff_eq_none.1 h] at hfill
    rw [Inlet.readUntil_of_end (by rw [← hfill]; exact hheld), ← hfill]
    simp only [Reply.map, Reply.after, filled] at hheld ⊢
    rw [hheld, List.append_nil]
  | case3 out inlet filled h hheld line rest hsplit =>
    have hfill := inlet.refillThrough_settled
    rw [Inlet.readUntil_of_stop (by rw [← hfill]; exact hsplit), ← hfill]
    rfl
  | case4 out inlet filled h hheld hsplit ih =>
    have hfill := inlet.refillThrough_settled
    have hblock := @Inlet.readUntil_of_block newline inlet.settled (by rw [← hfill]; exact hheld)
      (by rw [← hfill]; exact hsplit)
    rw [ih, hblock, ← hfill]
    simp only [Reply.after, List.append_assoc]
    rfl

theorem addRest_settled (out : Bytes) (inlet : PolledInlet) :
    (inlet.addRest out).map Inlet.settled = inlet.settled.readRest.after out := by
  obtain ⟨held, script | _, input⟩ := inlet
  · have h := script.drain_settled
    simp only [addRest, Inlet.readRest, Inlet.settled, Reader.settled, Inlet.ofScript, Reply.map,
      Reply.after, ← h, List.append_assoc]
  · simp only [addRest, Inlet.readRest, Inlet.settled, Reader.settled, Inlet.ofInput, Reply.map,
      Reply.after, List.append_assoc]

/-- **A portion is the unit that the waiting side takes, after what was collected.** -/
theorem add_settled (portion : Portion) (out : Bytes) (inlet : PolledInlet) :
    (inlet.add portion out).map Inlet.settled = (portion.unit inlet.settled).after out := by
  cases portion with
  | upTo count => exact inlet.addUpTo_settled count out
  | line => exact inlet.addLine_settled out
  | rest => exact inlet.addRest_settled out

end PolledInlet

end InputChain
