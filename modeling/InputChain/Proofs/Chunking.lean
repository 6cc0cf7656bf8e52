import InputChain.Proofs.Course
import InputChain.Proofs.Lockstep

/-!
# How readers divide what they give

Two readers with the same course give the same bytes, fail alike and give nothing alike, but may divide
the bytes into answers differently. No read that shows nothing of the blocks shows how they were
divided: no request looks further along the course than it needs to.

* `Likeness.sameCourse`: readers of their own with the same course, never interrupted.
* `Likeness.servesReads_sameCourse`: the units of the reads serve them alike.
* `Source.Recut`: two sources that differ in how they divide what they give.
* **`division_unseen`**: two runs over such sources.
-/

namespace InputChain

/-- Two inlets have readers of their own, and the same course without interruptions. -/
structure Inlet.SameCourse (left right : Inlet Script) : Prop where
  ownLeft : left.reader ≠ .standardInput
  ownRight : right.reader ≠ .standardInput
  uninterrupted : Uninterrupted left.course
  course : left.course = right.course

namespace Likeness

/-- Inlets of the same course count as alike, whatever is left of standard input. -/
def sameCourse : Likeness where
  inlet := Inlet.SameCourse
  input _ _ := True
  input_of_inlet _ := trivial

/-- A unit that takes the front of the course takes the same of the same course. -/
theorem serves_sameCourse {stops : UInt8 → Bool} {unit : Inlet Script → Reply (Inlet Script)}
    (hunit : ∀ {inlet : Inlet Script}, Uninterrupted inlet.course → inlet.Advances stops (unit inlet)) :
    sameCourse.Serves unit := by
  intro left right h
  have hleft := hunit h.uninterrupted
  have hright := hunit (h.course ▸ h.uninterrupted)
  obtain ⟨hgot, hfault, hrest⟩ := hleft.upTo.unique (h.course ▸ hright.upTo)
  exact ⟨hgot, hfault, mt hleft.same.reader.1 h.ownLeft, mt hright.same.reader.1 h.ownRight,
    hleft.upTo.uninterrupted h.uninterrupted, hrest⟩

theorem servesReads_sameCourse : sameCourse.ServesReads where
  byte := serves_sameCourse fun _ => Inlet.advances_takeUpTo _
  line := serves_sameCourse (Inlet.advances_readUntil newline)
  rest := serves_sameCourse Inlet.advances_readRest

end Likeness

/-! ## Sources divided differently -/

/-- Two openings fail alike, or give readers of their own with the same course, which is never
interrupted. -/
inductive RecutOpenings :
    Except IoError (Reader Script) → Except IoError (Reader Script) → Prop where
  | failed (error : IoError) : RecutOpenings (.error error) (.error error)
  | opened {script script' : Script} (huninterrupted : Uninterrupted script.course)
      (hcourse : script.course = script'.course) :
      RecutOpenings (.ok (.script script)) (.ok (.script script'))

/-- Two sources, each among its files, have the same identifier and open alike, to readers that serve
the same but may divide it differently. -/
structure Source.Recut (files files' : FileTree) (left right : Source Script) : Prop where
  id : left.id = right.id
  openings : RecutOpenings (left.provider.opened files) (right.provider.opened files')

theorem RecutOpenings.alike {left right : Except IoError (Reader Script)}
    (h : RecutOpenings left right) : Likeness.sameCourse.Openings left right := by
  cases h with
  | failed error => exact .failed error
  | opened huninterrupted hcourse =>
    exact .opened fun _ => ⟨by rintro ⟨⟩, by rintro ⟨⟩, huninterrupted, hcourse⟩

theorem Source.Recut.alike {files files' : FileTree} {left right : Source Script}
    (h : left.Recut files files' right) : Likeness.sameCourse.Sources files files' left right :=
  ⟨h.id, h.openings.alike⟩

/-- Cursors at the start of such sources are in step. -/
theorem Cursor.inStep_ofSources {world world' : World} {sources sources' : List (Source Script)}
    (hsources : sources ≠ [])
    (h : List.Forall₂ (Source.Recut world.files world'.files) sources sources') :
    (ofSources world sources).InStep .sameCourse 0 (ofSources world' sources') where
  position := rfl
  remaining := by
    have hsources' : sources' ≠ [] := fun hnil => hsources (List.forall₂_nil_right_iff.1 (hnil ▸ h))
    have hleft : (ofSources world sources).remaining = sources := if_neg (by simpa using hsources)
    have hright : (ofSources world' sources').remaining = sources' :=
      if_neg (by simpa using hsources')
    rw [hleft, hright]
    exact h.imp fun _ _ => Source.Recut.alike
  phase := .idle trivial
  lineno := rfl
  pending := rfl

theorem Cursor.Together.standing {ρ : Type} {like : Likeness} {left right : ρ × Cursor Script}
    (h : Together like 0 left right) :
    left.map id standing = right.map id standing := by
  have hindex : left.2.sourceIndex? = right.2.sourceIndex? := by
    simp only [Cursor.sourceIndex?, h.next.position, Nat.add_zero]
  refine Prod.ext h.answer ?_
  simp only [Prod.map_snd, Cursor.standing, h.next.currentId?, h.next.ids, h.next.lineno,
    h.next.isExhausted, hindex]

/-- **How readers divide what they give is not seen.** Two lists of sources without standard input,
with the same identifiers, that open alike to readers with the same course of bytes, failures other
than interruptions and answers of nothing, however each divides its bytes into answers: over both,
every run of operations that show nothing of the blocks answers the same, and after each operation the
cursors tell the same of themselves. -/
theorem division_unseen (world world' : World) (sources sources' : List (Source Script))
    (hsources : sources ≠ [])
    (hrecut : List.Forall₂ (Source.Recut world.files world'.files) sources sources')
    (operations : List BlockingOperation)
    (hoperations : ∀ operation ∈ operations, operation.showsBlocks = false) :
    (Run.trace Cursor.serve operations (Cursor.ofSources world sources)).map
        (Prod.map id Cursor.standing)
      = (Run.trace Cursor.serve operations (Cursor.ofSources world' sources')).map
        (Prod.map id Cursor.standing) := by
  have hrun := Cursor.together_run Likeness.servesReads_sameCourse operations
    (fun operation hmem hshows => absurd hshows (by rw [hoperations operation hmem]; exact Bool.noConfusion))
    (Cursor.inStep_ofSources hsources hrecut)
  have hseen := List.forall₂_map_left_iff.2
    (List.forall₂_map_right_iff.2 (hrun.imp fun _ _ => Cursor.Together.standing))
  rwa [List.forall₂_eq_eq_eq] at hseen

/-- A text divided in front of a line end and divided behind it, with a failure and an answer of
nothing between its lines; a source that does not open; and a last line in one answer or in two. -/
theorem division_unseen_at_newline :
    let broken := IoError.bare .other
    let left : List (Source Script) :=
      [⟨"a", .scripted "a" (.ok ⟨[.bytes [97], .bytes [10, 98], .fault broken, .bytes [99, 10], .bytes []],
          none⟩)⟩,
        ⟨"b", .scripted "b" (.error (.bare .notFound))⟩, ⟨"c", .memory "c" [100, 101]⟩]
    let right : List (Source Script) :=
      [⟨"a", .scripted "a" (.ok ⟨[.bytes [97, 10], .bytes [98], .fault broken, .bytes [99], .bytes [10]],
          none⟩)⟩,
        ⟨"b", .scripted "b" (.error (.bare .notFound))⟩,
        ⟨"c", .scripted "c" (.ok ⟨[.bytes [100], .bytes [101], .bytes [], .bytes []], none⟩)⟩]
    let operations : List BlockingOperation :=
      [.common (.read (some 2)), .nextLine, .common .readToEnd, .setLineno 7, .readLines,
        .common .readLineBytes, .common .skip, .common .readByte]
    left ≠ [] ∧ List.Forall₂ (Source.Recut {} {}) left right
      ∧ (∀ operation ∈ operations, operation.showsBlocks = false)
      ∧ (Run.trace Cursor.serve operations (Cursor.ofSources {} left)).map
          (Prod.map id Cursor.standing)
        = (Run.trace Cursor.serve operations (Cursor.ofSources {} right)).map
          (Prod.map id Cursor.standing) := by
  intro broken left right operations
  have hleft : left ≠ [] := List.cons_ne_nil _ _
  have hquiet : ∀ operation ∈ operations, operation.showsBlocks = false := by decide
  have hend := Stream'.const_eq Happening.nothing
  have hrecut : List.Forall₂ (Source.Recut {} {}) left right := by
    refine .cons ⟨rfl, .opened ?_ ?_⟩ (.cons ⟨rfl, .failed _⟩ (.cons ⟨rfl, .opened ?_ ?_⟩ .nil))
    · exact Script.uninterrupted_course (by simp [broken]; rfl)
    · exact congrArg ([.byte 97, .byte 10, .byte 98, .fault broken, .byte 99, .byte 10] ++ₛ ·)
        hend.symm
    · exact Script.uninterrupted_course (by simp [Behaviour.serving])
    · refine congrArg ([.byte 100, .byte 101] ++ₛ ·) (hend.trans ?_)
      exact congrArg ([.nothing] ++ₛ ·) hend
  exact ⟨hleft, hrecut, hquiet, division_unseen {} {} left right hleft hrecut operations hquiet⟩

end InputChain
