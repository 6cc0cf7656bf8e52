import InputChain.Proofs.Lockstep
import InputChain.Proofs.StreamEnd

/-!
# Skipping

A skip closes the open source and touches nothing else. Nothing of the source that was skipped is left
in the cursor: it goes on as a new cursor over the sources behind that one would.

* `Cursor.skip_of_open`, `Cursor.skip_skip`: what a skip does.
* `Likeness.same`, `Cursor.inStep_anew`: a cursor with no source open is in step with a new one.
* **`skip_cuts_off`**: all of it, for every cursor and everything that is asked of it later.
-/

namespace InputChain

/-- Nothing counts as alike but what is the same. -/
def Likeness.same : Likeness where
  inlet := (· = ·)
  input := (· = ·)
  input_of_inlet h := congrArg Inlet.input h

namespace Likeness

theorem serves_same (unit : Inlet Script → Reply (Inlet Script)) : same.Serves unit := by
  rintro inlet _ rfl
  exact ⟨rfl, rfl, rfl⟩

theorem servesReads_same : same.ServesReads :=
  ⟨serves_same _, serves_same _, serves_same _⟩

theorem servesBlocks_same : same.ServesBlocks where
  read _ _ := serves_same _
  fill := serves_same _
  consume count := fun h => congrArg (Inlet.consume count) h

theorem openings_same (opening : Except IoError (Reader Script)) :
    same.Openings opening opening := by
  cases opening with
  | error error => exact .failed error
  | ok reader => exact .opened fun h => congrArg (Inlet.mk [] reader) h

end Likeness

namespace Cursor

/-! ## What a skip does -/

section Skip

variable {σ : Type} {cursor : Cursor σ}

theorem skip_of_open {id : String} (hopen : cursor.currentId? = some id) :
    cursor.skip = cursor.close := by
  unfold currentId? at hopen
  unfold skip
  split at hopen
  · rfl
  · cases hopen

/-- After a skip no source is open. -/
theorem currentId?_skip (cursor : Cursor σ) : cursor.skip.currentId? = none := by
  cases hopen : cursor.currentId? with
  | none => rw [skip_of_closed hopen, hopen]
  | some id => rw [skip_of_open hopen]; rfl

theorem skip_skip (cursor : Cursor σ) : cursor.skip.skip = cursor.skip :=
  skip_of_closed cursor.currentId?_skip

theorem sources_skip (cursor : Cursor σ) : cursor.skip.sources = cursor.sources := by
  unfold skip
  split <;> rfl

theorem pending_skip (cursor : Cursor σ) : cursor.skip.pending = cursor.pending := by
  unfold skip
  split <;> rfl

theorem phase_skip (h : cursor.isExhausted = false) : cursor.skip.phase = .idle := by
  unfold isExhausted at h
  unfold skip
  cases hphase : cursor.phase with
  | idle => exact hphase
  | active => rfl
  | exhausted =>
    rw [hphase] at h
    cases h

end Skip

/-! ## A cursor begun anew -/

/-- A new cursor over the sources that are left, which counts lines from where this one does and holds
the same failure. -/
def anew (cursor : Cursor Script) : Cursor Script :=
  { ofSources cursor.world cursor.remaining with lineno := cursor.lineno, pending := cursor.pending }

variable {cursor : Cursor Script}

theorem inStep_anew (hphase : cursor.phase = .idle) (hremaining : cursor.remaining ≠ []) :
    cursor.InStep .same cursor.sources.position cursor.anew where
  position := (Nat.zero_add _).symm
  remaining := by
    have hanew : cursor.anew.remaining = cursor.remaining :=
      if_neg (by simpa using hremaining)
    rw [hanew, List.forall₂_same]
    exact fun source _ => ⟨rfl, Likeness.openings_same _⟩
  phase := by
    rw [hphase]
    exact .idle rfl
  lineno := rfl
  pending := rfl

/-- Two steps answer the same, and the cursors after them tell the same of themselves and hold the same
failure; but the first has taken `ahead` sources more. -/
structure Ahead {ρ : Type} (ahead : Nat) (left right : ρ × Cursor Script) : Prop where
  answer : left.1 = right.1
  standing : left.2.standing = { right.2.standing with sourceIndex? := left.2.sourceIndex? }
  sourceIndex? : ∀ index, right.2.sourceIndex? = some index →
    left.2.sourceIndex? = some (index + ahead)
  pending : left.2.pending = right.2.pending

theorem sourceIndex?_of_position {σ τ : Type} {left : Cursor σ} {right : Cursor τ} {ahead : Nat}
    (h : left.sources.position = right.sources.position + ahead) (index : Nat)
    (hindex : right.sourceIndex? = some index) : left.sourceIndex? = some (index + ahead) := by
  unfold sourceIndex? at hindex ⊢
  split at hindex
  · cases hindex
  · rename_i before hposition
    cases hindex
    rw [h, hposition, Nat.succ_add]

theorem Together.ahead {ρ : Type} {like : Likeness} {ahead : Nat} {left right : ρ × Cursor Script}
    (h : Together like ahead left right) : Ahead ahead left right where
  answer := h.answer
  standing := by
    simp only [Cursor.standing, h.next.currentId?, h.next.ids, h.next.lineno, h.next.isExhausted]
  sourceIndex? := sourceIndex?_of_position h.next.position
  pending := h.next.pending

end Cursor

/-- **A skip cuts off the open source, and nothing else.** With no source open it changes nothing at
all; else it closes that source, touches nothing else and never fails, so that skipping twice is
skipping once. From then on, unless the stream was at its end before, the cursor answers whatever it is
asked as a new cursor over the sources that are left, with the same number of lines and the same held
failure, whose index is behind by the sources already taken. If no source is left and no failure is
held, whatever asks for data then reports the end of the stream. -/
theorem skip_cuts_off (cursor : Cursor Script) :
    (cursor.currentId? = none → cursor.skip = cursor)
    ∧ (∀ id, cursor.currentId? = some id →
        cursor.skip = { cursor with
          phase := .idle, journal := cursor.journal ++ [.closed (cursor.sources.position - 1)] })
    ∧ cursor.serve (.common .skip) = (.ok .done, cursor.skip)
    ∧ cursor.skip.skip = cursor.skip
    ∧ (cursor.isExhausted = false → cursor.skip.remaining ≠ [] →
        ∀ later, List.Forall₂ (Cursor.Ahead cursor.sources.position)
          (Run.trace Cursor.serve later cursor.skip)
          (Run.trace Cursor.serve later cursor.skip.anew))
    ∧ (cursor.isExhausted = false → cursor.skip.remaining = [] → cursor.pending = none →
        ∀ later operation, operation.asksForData →
          ∃ response : Response,
            ((Run.last Cursor.serve later cursor.skip).serve operation).1 = .ok response
              ∧ response.reportsEnd operation) := by
  refine ⟨Cursor.skip_of_closed, fun id => Cursor.skip_of_open, rfl, cursor.skip_skip,
    fun hexhausted hremaining later => ?_, fun _ hremaining hpending later operation hasks => ?_⟩
  · have hstart := Cursor.inStep_anew (Cursor.phase_skip hexhausted) hremaining
    rw [cursor.sources_skip] at hstart
    exact (Cursor.together_run Likeness.servesReads_same later
      (fun _ _ _ => Likeness.servesBlocks_same) hstart).imp fun _ _ => Cursor.Together.ahead
  · have hspent : cursor.skip.Spent :=
      ⟨cursor.currentId?_skip, hremaining, cursor.pending_skip.trans hpending⟩
    have hlater := Run.last_induction Cursor.serve (fun operation _ h => h.serve operation) later hspent
    exact (hlater.serve_of_asks hasks).1

/-- One byte of a block is read and the rest skipped: the rest is in no later answer. After a second
skip no source is left. -/
theorem skip_cuts_off_within_block :
    let cursor := Run.last Cursor.serve [.common .readByte] (Cursor.ofSources {}
      [⟨"a", .memory "a" [120, 121]⟩, ⟨"b", .memory "b" [122]⟩])
    let second := Run.last Cursor.serve [.common .skip, .fill] cursor
    let later : List BlockingOperation := [.fill, .common .readLine, .common .readByte]
    cursor.currentId? = some "a" ∧ cursor.isExhausted = false ∧ cursor.skip.remaining ≠ []
      ∧ List.Forall₂ (Cursor.Ahead 1) (Run.trace Cursor.serve later cursor.skip)
          (Run.trace Cursor.serve later cursor.skip.anew)
      ∧ second.isExhausted = false ∧ second.skip.remaining = [] ∧ second.pending = none
      ∧ ∃ response : Response, (second.skip.serve .fill).1 = .ok response
          ∧ response.reportsEnd .fill := by
  intro cursor second later
  have hid : cursor.currentId? = some "a" := by decide +kernel
  have hopen : cursor.isExhausted = false := by decide +kernel
  have hleft : cursor.skip.remaining ≠ [] := by decide +kernel
  have hposition : cursor.sources.position = 1 := by decide +kernel
  have hopen' : second.isExhausted = false := by decide +kernel
  have hnone : second.skip.remaining = [] := by decide +kernel
  have hpending : second.pending = none := by decide +kernel
  obtain ⟨-, -, -, -, hanew, -⟩ := skip_cuts_off cursor
  obtain ⟨-, -, -, -, -, hend⟩ := skip_cuts_off second
  exact ⟨hid, hopen, hleft, hposition ▸ hanew hopen hleft later, hopen', hnone, hpending,
    hend hopen' hnone hpending [] .fill rfl⟩

end InputChain
