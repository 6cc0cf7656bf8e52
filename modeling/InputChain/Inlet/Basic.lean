import InputChain.Source.Basic

/-!
# The inlet of an open source

What is read of an open source comes through an inlet: a block of bytes that the reader gave and
nobody has taken yet, and behind it the reader. The reader of standard input draws on what all
readers of standard input share, so that belongs to the inlet as well.

* `Inlet`: the held block, the reader, standard input.
* `Inlet.pullBy`: one request past the held block.
* `Inlet.consume`, `Inlet.splitThrough`: takes bytes from the held block; where a piece ends in it.
* `Inlet.supply`: a bound on what an inlet can still give.
-/

namespace InputChain

/-- An open source, as it is read. -/
structure Inlet (σ : Type) where
  /-- What the reader gave and nobody has taken yet. -/
  held : Bytes
  reader : Reader σ
  input : StandardInput
  deriving DecidableEq, Repr

namespace Inlet

variable {σ : Type}

/-- Takes bytes from the held block, as far as it reaches. -/
def consume (count : Nat) (inlet : Inlet σ) : Inlet σ :=
  { inlet with held := inlet.held.drop count }

/-- A reader's reply as the inlet's. -/
def ofScript (inlet : Inlet σ) (reply : Reply σ) : Reply (Inlet σ) :=
  ⟨reply.got, reply.fault, { inlet with reader := .script reply.next }⟩

/-- The reply of standard input as the inlet's. -/
def ofInput (inlet : Inlet σ) (reply : Bytes × StandardInput) : Reply (Inlet σ) :=
  ⟨reply.1, none, { inlet with input := reply.2 }⟩

/-- One request past the held block: this one to a reader of known answers, or one for at most `room` bytes to
standard input. -/
def pullBy (request : σ → Reply σ) (room : Nat) (inlet : Inlet σ) : Reply (Inlet σ) :=
  match inlet.reader with
  | .script answers => inlet.ofScript (request answers)
  | .standardInput => inlet.ofInput (inlet.input.read room)

/-- A bound on what an inlet can still give, and on the requests it can still answer. -/
def supply [Behaviour σ] (inlet : Inlet σ) : Nat :=
  inlet.held.length + inlet.input.left.length +
    match inlet.reader with
    | .script answers => Behaviour.supply answers
    | .standardInput => 0

theorem supply_consume [Behaviour σ] (count : Nat) (inlet : Inlet σ) :
    (inlet.consume count).supply + (inlet.held.take count).length = inlet.supply := by
  simp only [supply, consume, List.length_drop, List.length_take]; omega

section Pull

variable {request : σ → Reply σ} {room : Nat} {inlet : Inlet σ}

theorem held_pullBy : (inlet.pullBy request room).next.held = inlet.held := by
  unfold pullBy
  split <;> rfl

/-- If a request costs a reader what it gives, it costs the inlet as much. -/
theorem supply_pullBy [Behaviour σ]
    (hrequest : ∀ answers, (request answers).got.length + Behaviour.supply (request answers).next
      ≤ Behaviour.supply answers)
    (hheld : inlet.held = []) :
    (inlet.pullBy request room).got.length + (inlet.pullBy request room).next.supply ≤ inlet.supply := by
  obtain ⟨held, reader, input⟩ := inlet
  cases hheld
  cases reader with
  | script answers =>
    have := hrequest answers
    simp only [pullBy, ofScript, supply, List.length_nil]
    omega
  | standardInput =>
    have := input.length_read room
    simp only [pullBy, ofInput, supply, List.length_nil]
    omega

end Pull

/-- The bytes through the first `stop`, and the rest. -/
def splitThrough (stop : UInt8) : Bytes → Option (Bytes × Bytes)
  | [] => none
  | b :: rest =>
    if b = stop then some ([b], rest)
    else (splitThrough stop rest).map fun (line, rest) => (b :: line, rest)

theorem append_of_splitThrough {stop : UInt8} {bytes line rest : Bytes}
    (h : splitThrough stop bytes = some (line, rest)) : line ++ rest = bytes := by
  fun_induction splitThrough stop bytes generalizing line with
  | case1 => cases h
  | case2 => cases h; rfl
  | case3 _ _ _ ih =>
    simp only [Option.map_eq_some_iff, Prod.exists, Prod.mk.injEq] at h
    obtain ⟨line', rest', h, rfl, rfl⟩ := h
    rw [List.cons_append, ih h]

end Inlet

end InputChain
