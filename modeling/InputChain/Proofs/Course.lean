import InputChain.Proofs.Units
import Mathlib.Data.Stream.Init

/-!
# The course of a reader

What a reader will do, told byte by byte: bytes, failures, and answers that give nothing. The course
says nothing of how the bytes are divided into answers, and the units of the reads do not depend on
that either: each takes the front of the course up to a byte where it stops, a failure or an answer
that gives nothing.

* `Happening`, `Script.course`, `Inlet.course`: the course of a reader, and of what is held in front of
  it.
* `UpTo`, `UpTo.unique`: the front of a course, up to where it stops.
* `Inlet.Advances`: a unit takes such a front of the course, and stays with its source.
* **`Inlet.advances_takeUpTo`**, **`Inlet.advances_readUntil`**, **`Inlet.advances_readRest`**: one
  byte, a line, everything.
-/

namespace InputChain

/-- What a reader does next. -/
inductive Happening where
  | byte (b : UInt8)
  | fault (error : IoError)
  /-- An answer that gives nothing. -/
  | nothing
  deriving DecidableEq, Repr

/-- The happenings of an answer. -/
def happenings (got : Bytes) : Option IoError → List Happening
  | some error => got.map .byte ++ [.fault error]
  | none => if got = [] then [.nothing] else got.map .byte

theorem happenings_of_ne_nil {got : Bytes} (hgot : got ≠ []) :
    happenings got none = got.map .byte := if_neg hgot

/-- The happenings of an answer of a reader. -/
def Answer.happenings : Answer → List Happening
  | .bytes content => InputChain.happenings content none
  | .fault error => InputChain.happenings [] (some error)

/-- No failure of the course is an interruption. -/
def Uninterrupted (course : Stream' Happening) : Prop :=
  ∀ error, .fault error ∈ course → error.isInterrupted = false

theorem Uninterrupted.tail {course : Stream' Happening} (h : Uninterrupted course) :
    Uninterrupted course.tail :=
  fun error ⟨index, hindex⟩ => h error ⟨index + 1, hindex⟩

theorem mem_of_mem_append {happening : Happening} {front : List Happening}
    {course : Stream' Happening} (h : happening ∈ front ++ₛ course) :
    happening ∈ front ∨ happening ∈ course := by
  induction front with
  | nil => exact Or.inr h
  | cons first front ih =>
    rcases Stream'.eq_or_mem_of_mem_cons h with rfl | hmem
    · exact Or.inl List.mem_cons_self
    · exact (ih hmem).imp_left (List.mem_cons_of_mem first)

theorem Uninterrupted.of_append {front : List Happening} {course : Stream' Happening}
    (h : Uninterrupted (front ++ₛ course)) : Uninterrupted course :=
  fun error herror => h error (Stream'.mem_append_stream_right front herror)

/-! ## The front of a course -/

/-- The front of a course through the first byte where it stops, a failure, or an answer that gives
nothing: its bytes, the failure, and the course behind it. -/
inductive UpTo (stops : UInt8 → Bool) :
    Stream' Happening → Bytes → Option IoError → Stream' Happening → Prop where
  | stop {course : Stream' Happening} {b : UInt8} (hhead : course.head = .byte b)
      (hstops : stops b = true) : UpTo stops course [b] none course.tail
  | byte {course rest : Stream' Happening} {b : UInt8} {got : Bytes} {fault : Option IoError}
      (hhead : course.head = .byte b) (hgoes : stops b = false)
      (hmore : UpTo stops course.tail got fault rest) : UpTo stops course (b :: got) fault rest
  | fault {course : Stream' Happening} {error : IoError} (hhead : course.head = .fault error) :
      UpTo stops course [] (some error) course.tail
  | nothing {course : Stream' Happening} (hhead : course.head = .nothing) :
      UpTo stops course [] none course.tail

namespace UpTo

variable {stops : UInt8 → Bool} {course rest : Stream' Happening} {got : Bytes}
  {fault : Option IoError}

/-- **A course has one such front.** -/
theorem unique {got' : Bytes} {fault' : Option IoError} {rest' : Stream' Happening}
    (h : UpTo stops course got fault rest) (h' : UpTo stops course got' fault' rest') :
    got = got' ∧ fault = fault' ∧ rest = rest' := by
  induction h generalizing got' with
  | stop hhead hstops =>
    cases h' with
    | stop hhead' => cases hhead.symm.trans hhead'; exact ⟨rfl, rfl, rfl⟩
    | byte hhead' hgoes =>
      cases hhead.symm.trans hhead'
      cases hstops.symm.trans hgoes
    | fault hhead' => cases hhead.symm.trans hhead'
    | nothing hhead' => cases hhead.symm.trans hhead'
  | byte hhead hgoes _ ih =>
    cases h' with
    | stop hhead' hstops =>
      cases hhead.symm.trans hhead'
      cases hgoes.symm.trans hstops
    | byte hhead' _ hmore' =>
      cases hhead.symm.trans hhead'
      obtain ⟨rfl, hfault, hrest⟩ := ih hmore'
      exact ⟨rfl, hfault, hrest⟩
    | fault hhead' => cases hhead.symm.trans hhead'
    | nothing hhead' => cases hhead.symm.trans hhead'
  | fault hhead =>
    cases h' with
    | fault hhead' => cases hhead.symm.trans hhead'; exact ⟨rfl, rfl, rfl⟩
    | stop hhead' => cases hhead.symm.trans hhead'
    | byte hhead' => cases hhead.symm.trans hhead'
    | nothing hhead' => cases hhead.symm.trans hhead'
  | nothing hhead =>
    cases h' with
    | nothing => exact ⟨rfl, rfl, rfl⟩
    | stop hhead' => cases hhead.symm.trans hhead'
    | byte hhead' => cases hhead.symm.trans hhead'
    | fault hhead' => cases hhead.symm.trans hhead'

theorem uninterrupted (h : UpTo stops course got fault rest) (hcourse : Uninterrupted course) :
    Uninterrupted rest := by
  induction h with
  | stop => exact hcourse.tail
  | byte _ _ _ ih => exact ih hcourse.tail
  | fault => exact hcourse.tail
  | nothing => exact hcourse.tail

/-- Bytes at which nothing stops come first. -/
theorem append {bytes : Bytes} (hbytes : ∀ b ∈ bytes, stops b = false)
    (h : UpTo stops course got fault rest) :
    UpTo stops (bytes.map .byte ++ₛ course) (bytes ++ got) fault rest := by
  induction bytes with
  | nil => exact h
  | cons b bytes ih =>
    exact .byte rfl (hbytes b List.mem_cons_self)
      (ih fun b' hb' => hbytes b' (List.mem_cons_of_mem b hb'))

/-- A piece that ends in a byte where it stops is such a front. -/
theorem of_splitThrough {stop : UInt8} {bytes line behind : Bytes} (course : Stream' Happening)
    (h : Inlet.splitThrough stop bytes = some (line, behind)) :
    UpTo (· == stop) (bytes.map .byte ++ₛ course) line none (behind.map .byte ++ₛ course) := by
  fun_induction Inlet.splitThrough stop bytes generalizing line with
  | case1 => cases h
  | case2 rest =>
    cases h
    exact .stop rfl (beq_self_eq_true stop)
  | case3 b rest hb ih =>
    simp only [Option.map_eq_some_iff, Prod.exists, Prod.mk.injEq] at h
    obtain ⟨line', behind', hsplit, rfl, rfl⟩ := h
    exact .byte rfl (beq_false_of_ne hb) (ih hsplit)

/-- What happens to an empty block is the whole front. -/
theorem of_nil (stops : UInt8 → Bool) (fault : Option IoError) (course : Stream' Happening) :
    UpTo stops (happenings [] fault ++ₛ course) [] fault course := by
  cases fault with
  | none => exact .nothing rfl
  | some error => exact .fault rfl

end UpTo

theorem Inlet.not_stop_of_splitThrough {stop : UInt8} {bytes : Bytes}
    (h : splitThrough stop bytes = none) : ∀ b ∈ bytes, (b == stop) = false := by
  fun_induction splitThrough stop bytes with
  | case1 => exact fun b hb => absurd hb List.not_mem_nil
  | case2 => cases h
  | case3 b rest hb ih =>
    rw [Option.map_eq_none_iff] at h
    exact List.forall_mem_cons.2 ⟨beq_false_of_ne hb, ih h⟩

/-! ## The course of a reader -/

namespace Script

/-- What the reader will do. -/
def course (script : Script) : Stream' Happening :=
  script.answers.flatMap Answer.happenings
    ++ₛ Stream'.const (script.thereafter.elim .nothing .fault)

variable {thereafter : Option IoError}

theorem course_cons (answer : Answer) (rest : List Answer) :
    course ⟨answer :: rest, thereafter⟩ = answer.happenings ++ₛ course ⟨rest, thereafter⟩ := by
  rw [course, List.flatMap_cons, Stream'.append_append_stream, course]

/-- The failures of the course are those the reader answers with. -/
theorem mem_course {script : Script} {error : IoError} (h : .fault error ∈ script.course) :
    .fault error ∈ script.answers ∨ script.thereafter = some error := by
  rcases mem_of_mem_append h with hmem | ⟨index, hindex⟩
  · obtain ⟨answer, hanswer, hmem⟩ := List.mem_flatMap.1 hmem
    cases answer with
    | fault error' =>
      obtain rfl : error = error' := by
        simpa [Answer.happenings, InputChain.happenings] using hmem
      exact Or.inl hanswer
    | bytes content =>
      by_cases hcontent : content = [] <;>
        simp [Answer.happenings, InputChain.happenings, hcontent] at hmem
  · cases hthereafter : script.thereafter with
    | none =>
      rw [hthereafter] at hindex
      cases hindex
    | some error' =>
      rw [hthereafter] at hindex
      cases hindex
      exact Or.inr rfl

/-- Without interruptions among the answers there are none in the course. -/
theorem uninterrupted_course {script : Script}
    (h : ∀ error, .fault error ∈ script.answers ∨ script.thereafter = some error →
      error.isInterrupted = false) : Uninterrupted script.course :=
  fun error herror => h error (mem_course herror)

theorem course_nil : course ⟨[], thereafter⟩ = happenings [] thereafter ++ₛ course ⟨[], thereafter⟩ := by
  cases thereafter with
  | none => exact Stream'.const_eq Happening.nothing
  | some error => exact Stream'.const_eq (Happening.fault error)

/-- A request takes the front of the course. -/
theorem course_read {room : Nat} (hroom : room ≠ 0) (script : Script) :
    script.course = happenings (script.read room).got (script.read room).fault
      ++ₛ (script.read room).next.course := by
  obtain ⟨answers, thereafter⟩ := script
  unfold read
  rw [if_neg hroom]
  match answers with
  | [] => exact course_nil
  | .fault error :: rest => exact course_cons (.fault error) rest
  | .bytes content :: rest =>
    by_cases hfits : content.length ≤ room
    · simp only [if_pos hfits]
      exact course_cons (.bytes content) rest
    · simp only [if_neg hfits]
      have hcontent : content ≠ [] := by
        rintro rfl
        exact hfits (Nat.zero_le room)
      have htake : content.take room ≠ [] := fun h =>
        (List.take_eq_nil_iff.1 h).elim hroom hcontent
      have hdrop : content.drop room ≠ [] := by simpa using hfits
      rw [course_cons, course_cons, Answer.happenings, Answer.happenings, happenings_of_ne_nil hcontent,
        happenings_of_ne_nil htake, happenings_of_ne_nil hdrop, ← Stream'.append_append_stream,
        ← List.map_append, List.take_append_drop]

/-- Without interruptions nothing is asked again. -/
theorem readThrough_of_uninterrupted {script : Script} (h : Uninterrupted script.course)
    (room : Nat) : script.readThrough room = script.read room := by
  obtain ⟨answers, thereafter⟩ := script
  have hwake : answers.dropWhile isInterruption = answers := by
    match answers with
    | [] => rfl
    | .bytes content :: rest => rfl
    | .fault error :: rest =>
      have herror : error.isInterrupted = false := h error ⟨0, rfl⟩
      simp [isInterruption, herror]
  rw [readThrough, hwake]

/-- Read to the end, the reader takes the front of its course up to a failure or an answer that gives
nothing. -/
theorem upTo_drain {script : Script} (h : Uninterrupted script.course) :
    UpTo (fun _ => false) script.course script.drain.got script.drain.fault
      script.drain.next.course := by
  suffices hgo : ∀ answers, Uninterrupted (course ⟨answers, script.thereafter⟩) →
      UpTo (fun _ => false) (course ⟨answers, script.thereafter⟩) (drain.go script answers).got
        (drain.go script answers).fault (drain.go script answers).next.course from
    hgo script.answers h
  clear h
  intro answers h
  fun_induction drain.go script answers with
  | case1 =>
    have hnil := UpTo.of_nil (fun _ => false) script.thereafter (course ⟨[], script.thereafter⟩)
    rwa [← course_nil] at hnil
  | case2 error rest herror =>
    have hquiet : error.isInterrupted = false := h error ⟨0, rfl⟩
    rw [herror] at hquiet
    cases hquiet
  | case3 error rest => exact .fault rfl
  | case4 content rest hcontent =>
    rw [List.isEmpty_iff.1 hcontent]
    exact .nothing rfl
  | case5 content rest hcontent reply ih =>
    have hcontent : content ≠ [] := fun hnil => hcontent (List.isEmpty_iff.2 hnil)
    rw [course_cons, Answer.happenings, happenings_of_ne_nil hcontent] at h ⊢
    exact (ih h.of_append).append fun _ _ => rfl

end Script

/-- Standard input gives nothing only when nothing is left of it. -/
theorem StandardInput.left_read_of_nil {room : Nat} (hroom : room ≠ 0) (input : StandardInput)
    (hgot : (input.read room).1 = []) : (input.read room).2.left = [] := by
  obtain ⟨held, untaken⟩ := input
  unfold read refill at hgot ⊢
  split at hgot
  · rename_i hpast
    have huntaken := (List.take_eq_nil_iff.1 hgot).resolve_left hroom
    rw [if_pos hpast, huntaken, List.drop_nil]
    rfl
  · rename_i hpast
    have hheld := (List.take_eq_nil_iff.1 hgot).resolve_left hroom
    rw [if_neg hpast]
    split at hheld
    · rename_i hempty
      have huntaken : untaken = [] := (List.take_eq_nil_iff.1 hheld).resolve_left (by decide)
      subst huntaken
      rw [if_pos hempty, List.take_nil, List.drop_nil]
      simp only [left, List.drop_nil, List.append_nil]
    · rename_i hempty
      exact absurd (List.isEmpty_iff.2 hheld) hempty

/-! ## The course of an inlet -/

namespace Inlet

/-- What an inlet will give: the held block, then what its reader does. Standard input gives what is
left of it, and then nothing. -/
def course (inlet : Inlet Script) : Stream' Happening :=
  inlet.held.map .byte ++ₛ
    match inlet.reader with
    | .script script => script.course
    | .standardInput => inlet.input.left.map .byte ++ₛ Stream'.const .nothing

/-- The inlet still reads the same source: one with a reader of its own leaves standard input as it
is. -/
structure SameSource (inlet next : Inlet Script) : Prop where
  reader : next.reader = .standardInput ↔ inlet.reader = .standardInput
  input : inlet.reader ≠ .standardInput → next.input = inlet.input

/-- A unit takes the front of the course, and stays with its source. -/
structure Advances (stops : UInt8 → Bool) (inlet : Inlet Script) (reply : Reply (Inlet Script)) :
    Prop where
  upTo : UpTo stops inlet.course reply.got reply.fault reply.next.course
  same : inlet.SameSource reply.next

variable {inlet : Inlet Script}

theorem SameSource.refl (inlet : Inlet Script) : inlet.SameSource inlet :=
  ⟨Iff.rfl, fun _ => rfl⟩

theorem SameSource.of_script {held held' : Bytes} {script script' : Script} {input : StandardInput} :
    SameSource ⟨held, .script script, input⟩ ⟨held', .script script', input⟩ where
  reader := iff_of_false (by rintro ⟨⟩) (by rintro ⟨⟩)
  input _ := rfl

theorem SameSource.of_standardInput {held held' : Bytes} {input input' : StandardInput} :
    SameSource ⟨held, .standardInput, input⟩ ⟨held', .standardInput, input'⟩ where
  reader := Iff.rfl
  input h := absurd rfl h

theorem SameSource.trans {next last : Inlet Script} (h : inlet.SameSource next)
    (h' : next.SameSource last) : inlet.SameSource last where
  reader := h'.reader.trans h.reader
  input hscript := (h'.input (mt h.reader.1 hscript)).trans (h.input hscript)

/-! ### One request -/

theorem sameSource_pull (room : Nat) (inlet : Inlet Script) :
    inlet.SameSource (inlet.pull room).next := by
  obtain ⟨held, script | _, input⟩ := inlet
  · exact .of_script
  · exact .of_standardInput

/-- A request past the held block, when there is none, takes the front of the course. -/
theorem course_pull {room : Nat} (hroom : room ≠ 0) (hheld : inlet.held = []) :
    inlet.course = happenings (inlet.pull room).got (inlet.pull room).fault
      ++ₛ (inlet.pull room).next.course := by
  obtain ⟨held, script | _, input⟩ := inlet
  · cases hheld
    exact Script.course_read hroom script
  · cases hheld
    show input.left.map Happening.byte ++ₛ Stream'.const Happening.nothing
      = happenings (input.read room).1 none
        ++ₛ ((input.read room).2.left.map Happening.byte ++ₛ Stream'.const Happening.nothing)
    rw [← input.read_append_left room, List.map_append, Stream'.append_append_stream]
    by_cases hgot : (input.read room).1 = []
    · rw [hgot, input.left_read_of_nil hroom hgot]
      exact Stream'.const_eq Happening.nothing
    · rw [happenings_of_ne_nil hgot]

/-- Without interruptions nothing is asked again. -/
theorem fillThrough_of_uninterrupted (h : Uninterrupted inlet.course) :
    inlet.fillThrough = inlet.fill := by
  unfold fillThrough fill fillBy
  split
  · rename_i hheld
    obtain ⟨held, script | _, input⟩ := inlet
    · cases List.isEmpty_iff.1 hheld
      simp only [pullThrough, pull, pullBy, Script.readThrough_of_uninterrupted h]
    · rfl
  · rfl

theorem sameSource_fill (inlet : Inlet Script) : inlet.SameSource inlet.fill.next := by
  unfold fill fillBy
  split
  · exact ⟨(sameSource_pull blockSize inlet).reader, (sameSource_pull blockSize inlet).input⟩
  · exact .refl inlet

/-- A fill that gives none takes a failure or an answer of nothing. -/
theorem course_fill_of_nil (hgot : inlet.fill.got = []) :
    inlet.course = happenings [] inlet.fill.fault ++ₛ inlet.fill.next.course := by
  obtain ⟨hheld, hfill⟩ := fillBy_of_nil (fun inlet => held_pull blockSize inlet) hgot
  have hcourse := course_pull (by decide : blockSize ≠ 0) hheld
  rw [← hfill] at hcourse
  exact hgot ▸ hcourse

/-- A fill that gives bytes gives the front of the course, and leaves what comes behind them. -/
theorem course_fill_of_got (hgot : inlet.fill.got ≠ []) :
    inlet.course
      = inlet.fill.got.map .byte ++ₛ { inlet.fill.next with held := [] }.course := by
  unfold fill fillBy at hgot ⊢
  split
  · rename_i hheld
    have hnil := List.isEmpty_iff.1 hheld
    rw [if_pos hheld] at hgot
    have hfault : (inlet.pull blockSize).fault = none := by
      by_contra hsome
      obtain ⟨error, herror⟩ := Option.ne_none_iff_exists'.1 hsome
      exact hgot (got_pull_of_fault herror)
    have hnext : (inlet.pull blockSize).next.held = [] := (held_pull _ _).trans hnil
    have hcourse := course_pull (by decide : blockSize ≠ 0) hnil
    rw [hfault, happenings_of_ne_nil hgot] at hcourse
    rw [hcourse]
    exact congrArg (fun held => _ ++ₛ course { (inlet.pull blockSize).next with held }) hnext
  · rfl

/-! ### The units -/

/-- **One byte is the front of the course through its first byte.** -/
theorem advances_takeUpTo (inlet : Inlet Script) :
    inlet.Advances (fun _ => true) (inlet.takeUpTo 1) where
  same := ⟨(sameSource_fill inlet).reader, (sameSource_fill inlet).input⟩
  upTo := by
    have hheld : inlet.fill.next.held = inlet.fill.got := held_fillBy
    by_cases hgot : inlet.fill.got = []
    · have hconsume : inlet.fill.next.consume 1 = inlet.fill.next := by
        rw [consume, hheld, hgot, List.drop_nil, ← hgot, ← hheld]
      rw [takeUpTo, course_fill_of_nil hgot, hconsume, hgot]
      exact .of_nil _ _ _
    · obtain ⟨b, rest, hblock⟩ := List.exists_cons_of_ne_nil hgot
      have hfault : inlet.fill.fault = none := by
        by_contra hsome
        obtain ⟨error, herror⟩ := Option.ne_none_iff_exists'.1 hsome
        exact hgot (got_fill_of_fault herror)
      rw [takeUpTo, course_fill_of_got hgot, consume, hheld, hblock, hfault]
      exact .stop rfl rfl

/-- **A line is the front of the course through its first line end.** -/
theorem advances_readUntil (stop : UInt8) (h : Uninterrupted inlet.course) :
    inlet.Advances (· == stop) (inlet.readUntil stop) := by
  fun_induction readUntil stop inlet with
  | case1 inlet filled hgot =>
    have hfilled : filled = inlet.fill := fillThrough_of_uninterrupted h
    rw [hfilled] at hgot ⊢
    refine ⟨?_, sameSource_fill inlet⟩
    rw [course_fill_of_nil hgot, hgot]
    exact .of_nil _ _ _
  | case2 inlet filled hgot line rest hsplit =>
    have hfilled : filled = inlet.fill := fillThrough_of_uninterrupted h
    rw [hfilled] at hgot hsplit ⊢
    refine ⟨?_, (sameSource_fill inlet).reader, (sameSource_fill inlet).input⟩
    rw [course_fill_of_got hgot]
    exact .of_splitThrough _ hsplit
  | case3 inlet filled hgot hsplit _ more ih =>
    have hfilled : filled = inlet.fill := fillThrough_of_uninterrupted h
    have hcourse : inlet.course
        = filled.got.map .byte ++ₛ { filled.next with held := [] }.course := by
      rw [hfilled]
      exact course_fill_of_got (hfilled ▸ hgot)
    obtain ⟨hupTo, hsame⟩ := ih (hcourse ▸ h).of_append
    have hfill : inlet.SameSource { filled.next with held := [] } := by
      rw [hfilled]
      exact ⟨(sameSource_fill inlet).reader, (sameSource_fill inlet).input⟩
    refine ⟨?_, hfill.trans hsame⟩
    rw [hcourse]
    exact hupTo.append (not_stop_of_splitThrough hsplit)

/-- **Everything is the front of the course up to a failure or an answer that gives nothing.** -/
theorem advances_readRest (h : Uninterrupted inlet.course) :
    inlet.Advances (fun _ => false) inlet.readRest := by
  obtain ⟨held, script | _, input⟩ := inlet
  · exact ⟨(Script.upTo_drain h.of_append).append fun _ _ => rfl, .of_script⟩
  · have hend : UpTo (fun _ => false) (Stream'.const .nothing) [] none
        (Stream'.const Happening.nothing).tail := .nothing rfl
    have hleft : UpTo (fun _ => false) (input.left.map .byte ++ₛ Stream'.const .nothing)
        (input.left ++ []) none (Stream'.const Happening.nothing) := hend.append fun _ _ => rfl
    rw [List.append_nil] at hleft
    exact ⟨hleft.append fun _ _ => rfl, .of_standardInput⟩

end Inlet

end InputChain
