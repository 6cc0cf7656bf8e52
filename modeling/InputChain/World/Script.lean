import InputChain.Fault.Io

/-!
# What a reader will answer

A reader is known by its answers: to each request it gives some bytes or fails. A reader that a
request can find not ready also answers that it has to be asked again.

* `Script`: the answers of a reader that makes its caller wait. `Script.read` is one request.
* `PolledScript`: the answers of a reader that can be not ready. `PolledScript.read` is one request.
* `PolledScript.settled`: the same answers, each waited for; `PolledScript.settled_read` says that
  requests are answered alike.
* `Behaviour`: what both can do; by it a plain file or text becomes a reader of either sort.
-/

namespace InputChain

/-- An answer to a request for bytes. No bytes at all mean the end of the input. -/
inductive Answer where
  | bytes (content : Bytes)
  | fault (error : IoError)
  deriving DecidableEq, Repr

/-- What a request gave, bytes unless it is said what else, and what is left to ask. -/
structure Reply (σ : Type) (α : Type := Bytes) where
  got : α
  fault : Option IoError
  next : σ

/-- The answers of a reader that makes its caller wait. -/
structure Script where
  answers : List Answer
  /-- The failure that answers every request after the last answer; without one, the input has
  ended. -/
  thereafter : Option IoError := none
  deriving DecidableEq, Repr

/-- The answers of a reader that can be not ready, which is an answer of its own. -/
structure PolledScript where
  /-- The answers in order, where none is that the reader is not ready. -/
  answers : List (Option Answer)
  /-- The failure that answers every request after the last answer. -/
  thereafter : Option IoError := none
  deriving DecidableEq, Repr

namespace Script

/-- One request for at most `room` bytes. What does not fit answers the next request; a request
without room is answered with nothing and counts for nothing. -/
def read (room : Nat) (script : Script) : Reply Script :=
  if room = 0 then ⟨[], none, script⟩
  else
    match script.answers with
    | [] => ⟨[], script.thereafter, script⟩
    | .fault error :: rest => ⟨[], some error, { script with answers := rest }⟩
    | .bytes content :: rest =>
      if content.length ≤ room then ⟨content, none, { script with answers := rest }⟩
      else ⟨content.take room, none,
        { script with answers := .bytes (content.drop room) :: rest }⟩

/-- Whether an answer is an interruption. -/
def isInterruption : Answer → Bool
  | .bytes _ => false
  | .fault error => error.isInterrupted

/-- One request that is made again when it is interrupted. A reader that is interrupted at every
request for ever gives that failure. -/
def readThrough (room : Nat) (script : Script) : Reply Script :=
  { script with answers := script.answers.dropWhile isInterruption }.read room

/-- Requests until one is answered with nothing or fails, each made again when it is interrupted:
the bytes in front of that answer. -/
def drain (script : Script) : Reply Script :=
  go script.answers
where
  /-- Goes through the answers. -/
  go : List Answer → Reply Script
    | [] => ⟨[], script.thereafter, { script with answers := [] }⟩
    | .fault error :: rest =>
      if error.isInterrupted then go rest else ⟨[], some error, { script with answers := rest }⟩
    | .bytes content :: rest =>
      if content.isEmpty then ⟨[], none, { script with answers := rest }⟩
      else
        let reply := go rest
        { reply with got := content ++ reply.got }

/-- A bound on the requests that an answer can satisfy. -/
def weight : List Answer → Nat
  | [] => 0
  | .fault _ :: rest => 1 + weight rest
  | .bytes content :: rest => 1 + content.length + weight rest

/-- A bound on the bytes and answers still to come. -/
def supply (script : Script) : Nat :=
  weight script.answers

theorem supply_read (room : Nat) (script : Script) :
    (script.read room).got.length + (script.read room).next.supply ≤ script.supply := by
  unfold read supply
  split
  · simp
  · split
    · simp
    · rename_i h; simp [h, weight]
    · rename_i h
      split
      · simp [h, weight]
      · simp [h, weight]; omega

theorem weight_dropWhile (skips : Answer → Bool) (answers : List Answer) :
    weight (answers.dropWhile skips) ≤ weight answers := by
  induction answers with
  | nil => simp
  | cons answer rest ih =>
    rw [List.dropWhile_cons]
    split
    · cases answer <;> simp only [weight] <;> omega
    · exact Nat.le_refl _

theorem supply_readThrough (room : Nat) (script : Script) :
    (script.readThrough room).got.length + (script.readThrough room).next.supply
      ≤ script.supply :=
  Nat.le_trans (supply_read _ _) (weight_dropWhile _ _)

theorem supply_drain (script : Script) :
    script.drain.got.length + script.drain.next.supply ≤ script.supply := by
  suffices h : ∀ answers, (drain.go script answers).got.length
      + (drain.go script answers).next.supply ≤ weight answers from h script.answers
  intro answers
  fun_induction drain.go script answers with
  | case1 => simp [supply, weight]
  | case2 _ _ _ ih => simp only [weight]; omega
  | case3 => simp [supply, weight]
  | case4 _ _ h => simp [supply, weight]
  | case5 _ _ _ reply ih => simp only [weight, List.length_append, reply]; omega

end Script

namespace PolledScript

/-- One request for at most `room` bytes, asked again for as long as the reader is not ready. -/
def read (room : Nat) (script : PolledScript) : Reply PolledScript :=
  if room = 0 then ⟨[], none, script⟩
  else
    match script.answers.dropWhile Option.isNone with
    | some (.bytes content) :: rest =>
      ⟨content.take room, none,
        { script with answers :=
            if room < content.length then some (.bytes (content.drop room)) :: rest else rest }⟩
    | some (.fault error) :: rest => ⟨[], some error, { script with answers := rest }⟩
    | rest => ⟨[], script.thereafter, { script with answers := rest }⟩

/-- The same answers, each waited for. -/
def settled (script : PolledScript) : Script :=
  ⟨script.answers.filterMap id, script.thereafter⟩

theorem filterMap_dropWhile_isNone (answers : List (Option Answer)) :
    (answers.dropWhile Option.isNone).filterMap id = answers.filterMap id := by
  induction answers with
  | nil => rfl
  | cons answer rest ih => cases answer <;> simp_all

/-- A request is answered as it is by a reader that makes its caller wait. -/
theorem settled_read (room : Nat) (script : PolledScript) :
    (script.read room).got = (script.settled.read room).got
      ∧ (script.read room).fault = (script.settled.read room).fault
      ∧ (script.read room).next.settled = (script.settled.read room).next := by
  have hdrop := filterMap_dropWhile_isNone script.answers
  have hhead : ∀ rest, script.answers.dropWhile Option.isNone ≠ none :: rest := by
    intro rest h
    have := List.head?_dropWhile_not Option.isNone script.answers
    simp [h] at this
  unfold read Script.read settled
  split
  · simp
  · rw [← hdrop]
    split
    · rename_i content rest h
      simp only [h, List.filterMap_cons, id]
      by_cases hroom : room < content.length
      · have := Nat.not_le.2 hroom
        simp [hroom, this]
      · have := Nat.not_lt.1 hroom
        simp [hroom, this, List.take_of_length_le]
    · rename_i error rest h
      simp [h]
    · rename_i h₁ h₂
      match h : script.answers.dropWhile Option.isNone with
      | [] => simp
      | none :: rest => exact absurd h (hhead rest)
      | some (.bytes content) :: rest => exact absurd h (h₁ content rest)
      | some (.fault error) :: rest => exact absurd h (h₂ error rest)

/-- Whether an answer is an interruption. -/
def isInterruption : Option Answer → Bool
  | none => false
  | some answer => Script.isInterruption answer

/-- One request that is made again when it is interrupted. A reader that is interrupted at every
request for ever gives that failure. -/
def readThrough (room : Nat) (script : PolledScript) : Reply PolledScript :=
  { script with
    answers := script.answers.dropWhile fun answer => answer.isNone || isInterruption answer }.read room

/-- Requests until one is answered with nothing or fails, each made again when it is interrupted:
the bytes in front of that answer. -/
def drain (script : PolledScript) : Reply PolledScript :=
  go script.answers
where
  /-- Goes through the answers. -/
  go : List (Option Answer) → Reply PolledScript
    | [] => ⟨[], script.thereafter, { script with answers := [] }⟩
    | none :: rest => go rest
    | some (.fault error) :: rest =>
      if error.isInterrupted then go rest else ⟨[], some error, { script with answers := rest }⟩
    | some (.bytes content) :: rest =>
      if content.isEmpty then ⟨[], none, { script with answers := rest }⟩
      else
        let reply := go rest
        { reply with got := content ++ reply.got }

theorem supply_read (room : Nat) (script : PolledScript) :
    (script.read room).got.length + (script.read room).next.settled.supply
      ≤ script.settled.supply := by
  obtain ⟨hgot, -, hnext⟩ := script.settled_read room
  rw [hgot, hnext]
  exact script.settled.supply_read room

theorem weight_filterMap_some (answer : Answer) (rest : List (Option Answer)) :
    Script.weight ((some answer :: rest).filterMap id)
      = Script.weight (answer :: rest.filterMap id) := rfl

theorem supply_drain (script : PolledScript) :
    script.drain.got.length + script.drain.next.settled.supply ≤ script.settled.supply := by
  suffices h : ∀ answers, (drain.go script answers).got.length
      + (drain.go script answers).next.settled.supply
      ≤ Script.weight (answers.filterMap id) from h script.answers
  intro answers
  fun_induction drain.go script answers with
  | case1 => simp [Script.supply, settled, Script.weight]
  | case2 _ ih => simpa using ih
  | case3 _ _ _ ih => rw [weight_filterMap_some, Script.weight]; omega
  | case4 => simp [Script.supply, settled, Script.weight]
  | case5 _ _ h => simp [Script.supply, settled, Script.weight]
  | case6 _ _ _ reply ih =>
    rw [weight_filterMap_some, Script.weight]
    simp only [List.length_append, reply]
    omega

theorem supply_dropWhile (skips : Option Answer → Bool) (script : PolledScript) :
    ({ script with answers := script.answers.dropWhile skips } : PolledScript).settled.supply
      ≤ script.settled.supply := by
  obtain ⟨answers, thereafter⟩ := script
  simp only [settled, Script.supply]
  induction answers with
  | nil => exact Nat.le_refl _
  | cons answer rest ih =>
    rw [List.dropWhile_cons]
    split
    · refine Nat.le_trans ih ?_
      match answer with
      | none => exact Nat.le_refl _
      | some (.bytes content) => rw [weight_filterMap_some, Script.weight]; omega
      | some (.fault error) => rw [weight_filterMap_some, Script.weight]; omega
    · exact Nat.le_refl _

theorem supply_readThrough (room : Nat) (script : PolledScript) :
    (script.readThrough room).got.length + (script.readThrough room).next.settled.supply
      ≤ script.settled.supply :=
  Nat.le_trans (supply_read _ _) (supply_dropWhile _ _)

end PolledScript

/-! ## Readers of either sort -/

/-- What can be made into a reader. -/
class Behaviour (σ : Type) where
  /-- The reader of these bytes. -/
  serving : Bytes → σ
  /-- The reader that fails at every request. -/
  failing : IoError → σ
  /-- A bound on the bytes and answers still to come. -/
  supply : σ → Nat

instance : Behaviour Script where
  serving content := ⟨[.bytes content], none⟩
  failing error := ⟨[], some error⟩
  supply := Script.supply

instance : Behaviour PolledScript where
  serving content := ⟨[some (.bytes content)], none⟩
  failing error := ⟨[], some error⟩
  supply script := script.settled.supply

end InputChain
