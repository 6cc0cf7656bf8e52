import InputChain.Text.Utf8

/-!
# Standard input

Standard input is one for the whole program: whoever opens it goes on where the last reader stopped.
It is taken in blocks, and a request that is smaller than a block leaves the rest of the block for
the next request.

* `StandardInput.read`: one request.
* `StandardInput.drain`: everything left.
-/

namespace InputChain

/-- The number of bytes that are taken from an input at once. -/
def blockSize : Nat := 8192

/-- Standard input as it stands. -/
structure StandardInput where
  /-- The rest of the block that was taken last. -/
  held : Bytes := []
  /-- What has not been taken. -/
  untaken : Bytes := []
  deriving DecidableEq, Repr

namespace StandardInput

/-- Standard input with this content, from its start. -/
def ofBytes (content : Bytes) : StandardInput :=
  { untaken := content }

/-- Everything that can still be read. -/
def left (input : StandardInput) : Bytes :=
  input.held ++ input.untaken

/-- Makes sure that a block is held, if anything is left. -/
def refill (input : StandardInput) : StandardInput :=
  if input.held.isEmpty then
    ⟨input.untaken.take blockSize, input.untaken.drop blockSize⟩
  else input

/-- One request for at most `room` bytes. With no block held, a request for a whole block or more is
served past the block. -/
def read (room : Nat) (input : StandardInput) : Bytes × StandardInput :=
  if input.held.isEmpty ∧ blockSize ≤ room then
    (input.untaken.take room, ⟨[], input.untaken.drop room⟩)
  else
    let input := input.refill
    (input.held.take room, { input with held := input.held.drop room })

/-- Everything left, which is then gone. -/
def drain (input : StandardInput) : Bytes × StandardInput :=
  (input.left, {})

/-- A request takes nothing but what it gives. -/
theorem read_append_left (room : Nat) (input : StandardInput) :
    (input.read room).1 ++ (input.read room).2.left = input.left := by
  unfold read left refill
  split
  · rename_i h
    have := List.isEmpty_iff.1 h.1
    simp [this]
  · split
    · rename_i h
      have := List.isEmpty_iff.1 h
      simp [this, ← List.append_assoc]
    · simp [← List.append_assoc]

theorem length_read (room : Nat) (input : StandardInput) :
    (input.read room).1.length + (input.read room).2.left.length = input.left.length := by
  simpa using congrArg List.length (input.read_append_left room)

end StandardInput

end InputChain
