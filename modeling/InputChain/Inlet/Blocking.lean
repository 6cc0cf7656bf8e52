import InputChain.Inlet.Basic

/-!
# Reading an inlet and waiting for it

* `Inlet.pull`: one request to the reader, past the held block.
* `Inlet.fill`: what is held, after one request if nothing was.
* `Inlet.takeUpTo`, `Inlet.read`: some bytes, after at most one request.
* `Inlet.readUntil`: the bytes through the next line end. An interrupted request is made again.
* `Inlet.readText`: the bytes through the next line end as text.
* `Inlet.readRest`: everything up to the reader's next end. An interrupted request is made again.

What a read gave is no longer to come (`Inlet.supply_read` and its like).
-/

namespace InputChain

namespace Inlet

/-- One request to the reader for at most `room` bytes, past the held block. -/
def pull (room : Nat) (inlet : Inlet Script) : Reply (Inlet Script) :=
  inlet.pullBy (Script.read room) room

/-- One request to the reader for at most `room` bytes, made again when it is interrupted. -/
def pullThrough (room : Nat) (inlet : Inlet Script) : Reply (Inlet Script) :=
  inlet.pullBy (Script.readThrough room) room

/-- The held block, asked for by one request if there was none. -/
def fillBy (request : Inlet Script → Reply (Inlet Script)) (inlet : Inlet Script) :
    Reply (Inlet Script) :=
  if inlet.held.isEmpty then
    let reply := request inlet
    { reply with next := { reply.next with held := reply.got } }
  else ⟨inlet.held, none, inlet⟩

/-- What is held, after one request if nothing was. -/
def fill (inlet : Inlet Script) : Reply (Inlet Script) :=
  inlet.fillBy (pull blockSize)

/-- What is held, after one request if nothing was; an interrupted request is made again. -/
def fillThrough (inlet : Inlet Script) : Reply (Inlet Script) :=
  inlet.fillBy (pullThrough blockSize)

/-- At most `count` bytes of what is held, after one request if nothing was. -/
def takeUpTo (count : Nat) (inlet : Inlet Script) : Reply (Inlet Script) :=
  let reply := inlet.fill
  { reply with got := reply.got.take count, next := reply.next.consume count }

/-- One plain read with room for `room` bytes. With nothing held, a read of a whole block or more is
a request to the reader itself. -/
def read (room : Nat) (inlet : Inlet Script) : Reply (Inlet Script) :=
  if inlet.held.isEmpty ∧ blockSize ≤ room then inlet.pull room else inlet.takeUpTo room

section Supply

variable (room : Nat) (inlet : Inlet Script)

theorem supply_pull (hheld : inlet.held = []) :
    (inlet.pull room).got.length + (inlet.pull room).next.supply ≤ inlet.supply :=
  supply_pullBy (Script.supply_read room) hheld

theorem supply_pullThrough (hheld : inlet.held = []) :
    (inlet.pullThrough room).got.length + (inlet.pullThrough room).next.supply ≤ inlet.supply :=
  supply_pullBy (Script.supply_readThrough room) hheld

theorem held_pull : (inlet.pull room).next.held = inlet.held := held_pullBy

theorem held_pullThrough : (inlet.pullThrough room).next.held = inlet.held := held_pullBy

variable {inlet} in
theorem held_fillBy {request : Inlet Script → Reply (Inlet Script)} :
    (inlet.fillBy request).next.held = (inlet.fillBy request).got := by
  unfold fillBy; split <;> rfl

variable {inlet} in
theorem supply_fillBy {request : Inlet Script → Reply (Inlet Script)}
    (hsupply : inlet.held = [] → (request inlet).got.length + (request inlet).next.supply
      ≤ inlet.supply)
    (hheld : inlet.held = [] → (request inlet).next.held = []) :
    (inlet.fillBy request).next.supply ≤ inlet.supply := by
  unfold fillBy
  split
  · rename_i h
    have h := List.isEmpty_iff.1 h
    have h₁ := hsupply h
    have h₂ := hheld h
    simp only [supply, h₂, List.length_nil] at h₁ ⊢
    omega
  · exact Nat.le_refl _

theorem supply_fill : inlet.fill.next.supply ≤ inlet.supply :=
  supply_fillBy (supply_pull _ _) (fun h => (held_pull _ _).trans h)

theorem supply_fillThrough : inlet.fillThrough.next.supply ≤ inlet.supply :=
  supply_fillBy (supply_pullThrough _ _) (fun h => (held_pullThrough _ _).trans h)

end Supply

/-- The bytes through the next `stop`, or through the reader's next end. Bytes in front of a failure
are given with it. -/
def readUntil (stop : UInt8) (inlet : Inlet Script) : Reply (Inlet Script) :=
  let filled := inlet.fillThrough
  if h : filled.got = [] then filled
  else
    match splitThrough stop filled.got with
    | some (line, rest) => ⟨line, none, { filled.next with held := rest }⟩
    | none =>
      have : ({ filled.next with held := [] } : Inlet Script).supply < inlet.supply := by
        have h₁ : filled.next.supply ≤ inlet.supply := inlet.supply_fillThrough
        have h₂ := List.length_pos_iff.2 h
        have h₃ : filled.next.held = filled.got := held_fillBy
        simp only [supply, h₃, List.length_nil] at h₁ ⊢
        omega
      let more := readUntil stop { filled.next with held := [] }
      { more with got := filled.got ++ more.got }
  termination_by inlet.supply

/-- The bytes through the next line end as text, if there are any. If they are not UTF-8, that is a failure. -/
def readText (inlet : Inlet Script) : Reply (Inlet Script) (Option String) :=
  let line := inlet.readUntil newline
  match line.fault with
  | some error => ⟨none, some error, line.next⟩
  | none =>
    if line.got.isEmpty then ⟨none, none, line.next⟩
    else
      match Utf8.decode line.got with
      | .ok text => ⟨some text, none, line.next⟩
      | .error fault => ⟨none, some (.malformed fault), line.next⟩

/-- Everything up to the reader's next end. Bytes in front of a failure are given with it. -/
def readRest (inlet : Inlet Script) : Reply (Inlet Script) :=
  let more : Reply (Inlet Script) :=
    match inlet.reader with
    | .script script => inlet.ofScript script.drain
    | .standardInput => inlet.ofInput inlet.input.drain
  { more with got := inlet.held ++ more.got, next := { more.next with held := [] } }

/-! ## What a read gave is gone -/

theorem supply_takeUpTo (count : Nat) (inlet : Inlet Script) :
    (inlet.takeUpTo count).got.length + (inlet.takeUpTo count).next.supply ≤ inlet.supply := by
  have h₁ := inlet.supply_fill
  have h₂ := supply_consume count inlet.fill.next
  have h₃ : inlet.fill.next.held = inlet.fill.got := held_fillBy
  simp only [h₃] at h₂
  simp only [takeUpTo]
  omega

theorem supply_read (room : Nat) (inlet : Inlet Script) :
    (inlet.read room).got.length + (inlet.read room).next.supply ≤ inlet.supply := by
  unfold read
  split
  · rename_i h
    exact supply_pull _ _ (List.isEmpty_iff.1 h.1)
  · exact supply_takeUpTo _ _

theorem supply_readUntil (stop : UInt8) (inlet : Inlet Script) :
    (inlet.readUntil stop).got.length + (inlet.readUntil stop).next.supply ≤ inlet.supply := by
  fun_induction readUntil stop inlet with
  | case1 inlet filled h =>
    simpa [filled, h] using inlet.supply_fillThrough
  | case2 inlet filled h line rest hsplit =>
    have h₁ : filled.next.supply ≤ inlet.supply := inlet.supply_fillThrough
    have h₂ := congrArg List.length (append_of_splitThrough hsplit)
    have h₃ : filled.next.held = filled.got := held_fillBy
    simp only [List.length_append] at h₂
    simp only [supply, h₃] at h₁ ⊢
    omega
  | case3 inlet filled h hsplit _ more ih =>
    have h₁ : filled.next.supply ≤ inlet.supply := inlet.supply_fillThrough
    have h₃ : filled.next.held = filled.got := held_fillBy
    simp only [supply, h₃, more, List.length_nil, List.length_append] at h₁ ih ⊢
    omega

theorem supply_readText (inlet : Inlet Script) :
    inlet.readText.got.toList.length + inlet.readText.next.supply ≤ inlet.supply := by
  have hline := inlet.supply_readUntil newline
  unfold readText
  generalize inlet.readUntil newline = line at hline ⊢
  obtain ⟨got, _ | error, next⟩ := line
  · cases got with
    | nil => simpa using hline
    | cons b got =>
      simp only [List.length_cons] at hline
      simp only [List.isEmpty_cons, Bool.false_eq_true, if_false]
      split <;> simp only [Option.toList, List.length_cons, List.length_nil] <;> omega
  · simp only [Option.toList, List.length_nil] at hline ⊢
    omega

theorem supply_readRest (inlet : Inlet Script) :
    inlet.readRest.got.length + inlet.readRest.next.supply ≤ inlet.supply := by
  obtain ⟨held, reader, input⟩ := inlet
  cases reader with
  | script script =>
    have := script.supply_drain
    simp only [readRest, ofScript, supply, Behaviour.supply, List.length_nil, List.length_append]
    omega
  | standardInput =>
    simp only [readRest, ofInput, StandardInput.drain, supply, StandardInput.left, List.length_nil,
      List.length_append]
    omega

end Inlet

end InputChain
