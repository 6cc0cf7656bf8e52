import InputChain.Inlet.Basic

/-!
# Reading an inlet whose reader can be not ready

A task that reads such an inlet collects bytes: every read adds a portion to what the task has already
and asks again for as long as the reader is not ready. A read that goes on to the end of a line or of
a source makes an interrupted request again, as runs of it show; a read of one block does not.

* `Portion`: what a read adds.
* `PolledInlet.pull`: one request to the reader, past the held block.
* `PolledInlet.add`: adds a portion, from at most one open source.
* `PolledInlet.prefix_add`: what was collected stays in front.
* `PolledInlet.supply_add`: what was added is no longer to come.
-/

namespace InputChain

/-- An open source whose reader can be not ready. -/
abbrev PolledInlet := Inlet PolledScript

/-- What a read adds. -/
inductive Portion where
  /-- At most so many bytes of a block. -/
  | upTo (count : Nat)
  /-- The bytes through the next line end, or through the reader's next end. -/
  | line
  /-- Everything up to the reader's next end. -/
  | rest
  deriving DecidableEq, Repr

namespace PolledInlet

/-- One request to the reader for at most `room` bytes, past the held block. -/
def pull (room : Nat) (inlet : PolledInlet) : Reply PolledInlet :=
  inlet.pullBy (PolledScript.read room) room

/-- One request to the reader for at most `room` bytes, made again when it is interrupted. -/
def pullThrough (room : Nat) (inlet : PolledInlet) : Reply PolledInlet :=
  inlet.pullBy (PolledScript.readThrough room) room

/-- Asks for a block by a request if none is held. -/
def refillBy (request : PolledInlet → Reply PolledInlet) (inlet : PolledInlet) :
    Option IoError × PolledInlet :=
  if inlet.held = [] then
    let reply := request inlet
    (reply.fault, { reply.next with held := reply.got })
  else (none, inlet)

/-- Asks the reader for a block if none is held. -/
def refill (inlet : PolledInlet) : Option IoError × PolledInlet :=
  inlet.refillBy (pull blockSize)

/-- Asks the reader for a block if none is held; an interrupted request is made again. -/
def refillThrough (inlet : PolledInlet) : Option IoError × PolledInlet :=
  inlet.refillBy (pullThrough blockSize)

/-- A block costs the inlet what it holds, if a request does. -/
theorem supply_refillBy {request : PolledInlet → Reply PolledInlet} (inlet : PolledInlet)
    (hrequest : inlet.held = [] → (request inlet).got.length + (request inlet).next.supply ≤ inlet.supply) :
    (inlet.refillBy request).2.supply ≤ inlet.supply := by
  unfold refillBy
  split
  · rename_i hheld
    have hcost := hrequest hheld
    simp only [Inlet.supply] at hcost ⊢
    omega
  · exact Nat.le_refl _

theorem supply_refill (inlet : PolledInlet) : inlet.refill.2.supply ≤ inlet.supply :=
  inlet.supply_refillBy (Inlet.supply_pullBy (PolledScript.supply_read blockSize))

theorem supply_refillThrough (inlet : PolledInlet) : inlet.refillThrough.2.supply ≤ inlet.supply :=
  inlet.supply_refillBy (Inlet.supply_pullBy (PolledScript.supply_readThrough blockSize))

/-- Adds at most `count` bytes of a block. -/
def addUpTo (count : Nat) (out : Bytes) (inlet : PolledInlet) : Reply PolledInlet :=
  match inlet.refill with
  | (some error, inlet) => ⟨out, some error, inlet⟩
  | (none, inlet) => ⟨out ++ inlet.held.take count, none, inlet.consume count⟩

/-- Adds the bytes through the next line end, or through the reader's next end. Bytes in front of a
failure are added too. -/
def addLine (out : Bytes) (inlet : PolledInlet) : Reply PolledInlet :=
  let filled := inlet.refillThrough.2
  if inlet.refillThrough.1.isSome then ⟨out, inlet.refillThrough.1, filled⟩
  else if _h : filled.held = [] then ⟨out, none, filled⟩
  else
    match Inlet.splitThrough newline filled.held with
    | some (line, rest) => ⟨out ++ line, none, { filled with held := rest }⟩
    | none => addLine (out ++ filled.held) { filled with held := [] }
  termination_by inlet.supply
  decreasing_by
    have h₁ := inlet.supply_refillThrough
    have h₂ : 0 < inlet.refillThrough.2.held.length := List.length_pos_iff.2 _h
    simp only [Inlet.supply, List.length_nil] at h₁ ⊢
    omega

/-- Adds everything up to the reader's next end. Bytes in front of a failure are added too. -/
def addRest (out : Bytes) (inlet : PolledInlet) : Reply PolledInlet :=
  match inlet.reader with
  | .script script =>
    let reply := script.drain
    ⟨out ++ inlet.held ++ reply.got, reply.fault,
      { inlet with held := [], reader := .script reply.next }⟩
  | .standardInput =>
    let (got, input) := inlet.input.drain
    ⟨out ++ inlet.held ++ got, none, { inlet with held := [], input }⟩

/-- Adds a portion to what has been collected. -/
def add (portion : Portion) (out : Bytes) (inlet : PolledInlet) : Reply PolledInlet :=
  match portion with
  | .upTo count => inlet.addUpTo count out
  | .line => inlet.addLine out
  | .rest => inlet.addRest out

theorem supply_addUpTo (count : Nat) (out : Bytes) (inlet : PolledInlet) :
    (inlet.addUpTo count out).got.length + (inlet.addUpTo count out).next.supply
      ≤ out.length + inlet.supply := by
  have h₁ := inlet.supply_refill
  unfold addUpTo
  split
  · rename_i h
    simp only [h] at h₁
    simpa using h₁
  · rename_i filled h
    simp only [h] at h₁
    have h₂ := Inlet.supply_consume count filled
    simp only [List.length_append]
    omega

theorem supply_addLine (out : Bytes) (inlet : PolledInlet) :
    (inlet.addLine out).got.length + (inlet.addLine out).next.supply
      ≤ out.length + inlet.supply := by
  fun_induction addLine out inlet with
  | case1 out inlet filled h => exact Nat.add_le_add_left inlet.supply_refillThrough _
  | case2 out inlet filled h₁ h₂ => exact Nat.add_le_add_left inlet.supply_refillThrough _
  | case3 out inlet filled h₁ h₂ line rest hsplit =>
    have h₃ : filled.supply ≤ inlet.supply := inlet.supply_refillThrough
    have h₄ := congrArg List.length (Inlet.append_of_splitThrough hsplit)
    simp only [List.length_append] at h₄
    simp only [Inlet.supply, List.length_append] at h₃ ⊢
    omega
  | case4 out inlet filled h₁ h₂ hsplit ih =>
    have h₃ : filled.supply ≤ inlet.supply := inlet.supply_refillThrough
    simp only [Inlet.supply, List.length_append, List.length_nil] at h₃ ih ⊢
    omega

theorem supply_addRest (out : Bytes) (inlet : PolledInlet) :
    (inlet.addRest out).got.length + (inlet.addRest out).next.supply
      ≤ out.length + inlet.supply := by
  obtain ⟨held, reader, input⟩ := inlet
  cases reader with
  | script script =>
    have := script.supply_drain
    simp only [addRest, Inlet.supply, Behaviour.supply, List.length_nil, List.length_append]
    omega
  | standardInput =>
    simp only [addRest, StandardInput.drain, Inlet.supply, StandardInput.left, List.length_nil,
      List.length_append]
    omega

theorem supply_add (portion : Portion) (out : Bytes) (inlet : PolledInlet) :
    (inlet.add portion out).got.length + (inlet.add portion out).next.supply
      ≤ out.length + inlet.supply := by
  cases portion with
  | upTo count => exact inlet.supply_addUpTo count out
  | line => exact inlet.supply_addLine out
  | rest => exact inlet.supply_addRest out

/-- Nothing that was collected is lost. -/
theorem prefix_add (portion : Portion) (out : Bytes) (inlet : PolledInlet) :
    ∃ added, (inlet.add portion out).got = out ++ added := by
  cases portion with
  | upTo count =>
    simp only [add, addUpTo]
    split
    · exact ⟨[], (List.append_nil _).symm⟩
    · exact ⟨_, rfl⟩
  | line =>
    simp only [add]
    fun_induction addLine out inlet with
    | case1 => exact ⟨[], (List.append_nil _).symm⟩
    | case2 => exact ⟨[], (List.append_nil _).symm⟩
    | case3 => exact ⟨_, rfl⟩
    | case4 _ _ filled _ _ _ ih =>
      obtain ⟨added, h⟩ := ih
      exact ⟨filled.held ++ added, by rw [h, List.append_assoc]⟩
  | rest =>
    simp only [add, addRest]
    split
    · exact ⟨_, List.append_assoc _ _ _⟩
    · exact ⟨_, List.append_assoc _ _ _⟩

theorem length_le_add (portion : Portion) (out : Bytes) (inlet : PolledInlet) :
    out.length ≤ (inlet.add portion out).got.length := by
  obtain ⟨added, h⟩ := inlet.prefix_add portion out
  simp [h]

end PolledInlet

end InputChain
