import InputChain.Proofs.Units
import Mathlib.Data.Seq.Basic

/-!
# What a stream brings

A stream brings bytes and failures, one after another. What a source brings is fixed before anything
is read of it: the failure to open it, or all that its reader serves in front of its first end. A
reader that fails for ever brings failures without end, so the events of a stream are a sequence that
may be infinite.

* `Event`, `Script.events`, `Source.events`, `arrivals`: what a reader, a source, a list of sources
  brings.
* `Script.Steady`, `Source.Steady`: readers that are never interrupted and, once at their end, stay
  there.
* `Inlet.events`, `Faithful`: a unit that gives what is next to come, and leaves what comes after it.
* `faithful_takeUpTo`, `faithful_fill`, `faithful_read`, `faithful_readRest`: the units of bytes are
  faithful.
-/

namespace InputChain

open Stream' (Seq)

/-- One thing that a stream brings. -/
inductive Event where
  | byte (b : UInt8)
  | fault (error : SourceError)
  deriving DecidableEq, Repr

/-- Bytes, and then a failure if there is one, as events. -/
def eventsOf (got : Bytes) (fault : Option SourceError) : List Event :=
  got.map .byte ++ fault.toList.map .fault

@[simp] theorem eventsOf_none (got : Bytes) : eventsOf got none = got.map .byte :=
  List.append_nil _

@[simp] theorem eventsOf_nil_some (error : SourceError) :
    eventsOf [] (some error) = [.fault error] := rfl

theorem eventsOf_append (first second : Bytes) (fault : Option SourceError) :
    eventsOf (first ++ second) fault = first.map .byte ++ eventsOf second fault := by
  rw [eventsOf, List.map_append, List.append_assoc, eventsOf]

theorem append_singleton (event : Event) (later : Seq Event) :
    (Seq.ofList [event]).append later = .cons event later := by
  rw [Seq.ofList_cons, Seq.ofList_nil, Seq.cons_append, Seq.nil_append]

/-- A reply gives what is next to come of something, in order, and leaves what comes after it. If it
gives nothing, nothing was to come. -/
structure Reply.Brings {σ : Type} (id : String) (events : String → σ → Seq Event) (before : σ)
    (reply : Reply σ) : Prop where
  append : events id before
    = (Seq.ofList (eventsOf reply.got (reply.fault.map (.ofReading id)))).append
        (events id reply.next)
  ended : reply.got = [] → reply.fault = none → events id before = .nil

/-! ## What a reader brings -/

/-- What answers bring, and after the last of them the failure that answers for ever. -/
def eventsFrom (id : String) (thereafter : Option IoError) : List Answer → Seq Event
  | [] =>
    match thereafter with
    | none => .nil
    | some error => .ofStream (Stream'.const (.fault (.ofReading id error)))
  | .fault error :: rest => .cons (.fault (.ofReading id error)) (eventsFrom id thereafter rest)
  | .bytes content :: rest =>
    if content.isEmpty then .nil
    else (Seq.ofList (content.map .byte)).append (eventsFrom id thereafter rest)

namespace Script

/-- What the reader serves in front of its first end, its failures reported for this identifier. -/
def events (id : String) (script : Script) : Seq Event :=
  eventsFrom id script.thereafter script.answers

/-- The reader is never interrupted, and once it has given nothing it gives nothing for ever. -/
structure Steady (script : Script) : Prop where
  uninterrupted : ∀ error, .fault error ∈ script.answers ∨ script.thereafter = some error →
    error.isInterrupted = false
  ended : ∀ front rest, script.answers = front ++ .bytes [] :: rest →
    script.thereafter = none ∧ ∀ answer ∈ rest, answer = .bytes []

variable {answer : Answer} {rest : List Answer} {thereafter : Option IoError}

theorem Steady.tail (h : Steady ⟨answer :: rest, thereafter⟩) : Steady ⟨rest, thereafter⟩ where
  uninterrupted error herror :=
    h.uninterrupted error (herror.imp_left (List.mem_cons_of_mem answer))
  ended front last hanswers := h.ended (answer :: front) last (congrArg (answer :: ·) hanswers)

theorem Steady.cons {content : Bytes} (h : Steady ⟨rest, thereafter⟩) (hcontent : content ≠ []) :
    Steady ⟨.bytes content :: rest, thereafter⟩ where
  uninterrupted error herror := by
    refine h.uninterrupted error (herror.imp_left fun hmem => ?_)
    exact (List.mem_cons.1 hmem).resolve_left Answer.noConfusion
  ended front last hanswers := by
    cases front with
    | nil =>
      obtain ⟨hhead, -⟩ := List.cons.inj hanswers
      exact absurd (Answer.bytes.inj hhead) hcontent
    | cons answer front => exact h.ended front last (List.cons.inj hanswers).2

theorem Steady.of_plain (content : Bytes) : Steady ⟨[.bytes content], none⟩ where
  uninterrupted error herror := by simp at herror
  ended front last hanswers := by
    refine ⟨rfl, fun answer hanswer => ?_⟩
    have hlength := congrArg List.length hanswers
    have := List.length_pos_of_mem hanswer
    simp only [List.length_append, List.length_cons, List.length_nil] at hlength
    omega

theorem Steady.of_failing {error : IoError} (herror : error.isInterrupted = false) :
    Steady ⟨[], some error⟩ where
  uninterrupted error' herror' := by
    obtain rfl : error = error' := by simpa using herror'
    exact herror
  ended front last hanswers := by simp at hanswers

/-- A reader that gives nothing only after its last answer stays at its end. -/
theorem Steady.of_no_end {script : Script} (hanswers : .bytes [] ∉ script.answers)
    (huninterrupted : ∀ error, .fault error ∈ script.answers ∨ script.thereafter = some error →
      error.isInterrupted = false) : script.Steady where
  uninterrupted := huninterrupted
  ended front last h := by
    refine absurd ?_ hanswers
    rw [h]
    exact List.mem_append_right front List.mem_cons_self

theorem eventsFrom_of_ended {id : String} (hanswers : ∀ answer ∈ rest, answer = .bytes []) :
    eventsFrom id none rest = .nil := by
  cases rest with
  | nil => rfl
  | cons answer rest => rw [hanswers answer List.mem_cons_self, eventsFrom]; rfl

/-- A reader that has given nothing brings nothing any more. -/
theorem Steady.events_tail (h : Steady ⟨.bytes [] :: rest, thereafter⟩) (id : String) :
    events id ⟨rest, thereafter⟩ = .nil := by
  obtain ⟨hthereafter, hanswers⟩ := h.ended [] rest rfl
  rw [events, show thereafter = none from hthereafter]
  exact eventsFrom_of_ended hanswers

/-- Bytes in front of the answers are brought first. -/
theorem events_cons {content : Bytes} (id : String) (hcontent : content ≠ []) :
    events id ⟨.bytes content :: rest, thereafter⟩
      = (Seq.ofList (content.map .byte)).append (events id ⟨rest, thereafter⟩) := by
  rw [events, eventsFrom, if_neg (by simpa using hcontent), events]

/-- What a request gives is next to come, and the rest is left. -/
theorem Steady.read {script : Script} (h : script.Steady) {room : Nat} (hroom : room ≠ 0) :
    (script.read room).next.Steady ∧ ∀ id, (script.read room).Brings id Script.events script := by
  obtain ⟨answers, thereafter⟩ := script
  unfold Script.read
  rw [if_neg hroom]
  match answers with
  | [] =>
    refine ⟨h, fun id => ?_⟩
    cases thereafter with
    | none => exact ⟨(Seq.nil_append _).symm, fun _ _ => rfl⟩
    | some error =>
      refine ⟨?_, fun _ hfault => nomatch hfault⟩
      show Seq.ofStream _ = (Seq.ofList [Event.fault (.ofReading id error)]).append (Seq.ofStream _)
      rw [append_singleton, ← Seq.ofStream_cons, ← Stream'.const_eq]
  | .fault error :: rest =>
    refine ⟨h.tail, fun id => ⟨?_, fun _ hfault => nomatch hfault⟩⟩
    exact (append_singleton _ _).symm
  | .bytes content :: rest =>
    by_cases hcontent : content = []
    · subst hcontent
      refine ⟨h.tail, fun id => ⟨?_, fun _ _ => rfl⟩⟩
      exact (h.events_tail id).symm.trans (Seq.nil_append _).symm
    · by_cases hfits : content.length ≤ room
      · simp only [if_pos hfits]
        refine ⟨h.tail, fun id => ⟨?_, fun hgot => absurd hgot hcontent⟩⟩
        rw [events_cons id hcontent, Option.map_none, eventsOf_none]
      · simp only [if_neg hfits]
        have hdrop : content.drop room ≠ [] := by
          rw [← List.length_pos_iff, List.length_drop]
          omega
        refine ⟨h.tail.cons hdrop, fun id => ⟨?_, fun hgot => ?_⟩⟩
        · rw [Option.map_none, eventsOf_none, events_cons id hcontent, events_cons id hdrop,
            ← Seq.append_assoc, ← Seq.ofList_append, ← List.map_append, List.take_append_drop]
        · have := congrArg List.length hgot
          rw [List.length_take, List.length_nil] at this
          omega

/-- What is read to the end is next to come, and the rest is left. -/
theorem Steady.drain {script : Script} (h : script.Steady) :
    script.drain.next.Steady ∧ ∀ id, script.drain.Brings id Script.events script := by
  suffices hgo : ∀ answers, Steady ⟨answers, script.thereafter⟩ →
      (drain.go script answers).next.Steady ∧ ∀ id, (drain.go script answers).Brings id Script.events
        ⟨answers, script.thereafter⟩ from hgo script.answers h
  clear h
  intro answers h
  fun_induction drain.go script answers with
  | case1 =>
    refine ⟨h, fun id => ?_⟩
    have hread := (h.read (Nat.succ_ne_zero 0)).2 id
    exact hread
  | case2 error rest herror ih =>
    have := h.uninterrupted error (Or.inl List.mem_cons_self)
    rw [herror] at this
    cases this
  | case3 error rest herror =>
    have hread := (h.read (Nat.succ_ne_zero 0)).2
    exact ⟨h.tail, hread⟩
  | case4 content rest hcontent =>
    obtain rfl := List.isEmpty_iff.1 hcontent
    exact ⟨h.tail, (h.read (Nat.succ_ne_zero 0)).2⟩
  | case5 content rest hcontent reply ih =>
    have hcontent : content ≠ [] := fun h => hcontent (List.isEmpty_iff.2 h)
    obtain ⟨hsteady, hbrings⟩ := ih h.tail
    refine ⟨hsteady, fun id => ⟨?_, fun hgot => ?_⟩⟩
    · rw [events_cons id hcontent, (hbrings id).append, eventsOf_append, Seq.ofList_append,
        Seq.append_assoc]
    · exact absurd (List.append_eq_nil_iff.1 hgot).1 hcontent

end Script

/-! ## What an open source brings -/

namespace Reader

/-- What the reader serves in front of its first end. What standard input gives depends on who read it
before, so it is left out. -/
def events (id : String) : Reader Script → Seq Event
  | .script answers => answers.events id
  | .standardInput => .nil

/-- The reader has answers of its own, which are steady. -/
def Steady : Reader Script → Prop
  | .script answers => answers.Steady
  | .standardInput => False

end Reader

/-- What an inlet brings: the held block, then what its reader serves. -/
def Inlet.events (id : String) (inlet : Inlet Script) : Seq Event :=
  (Seq.ofList (inlet.held.map .byte)).append (inlet.reader.events id)

/-- A unit that gives what is next to come, and leaves what comes after it. Of what it gives, `taken`
is gone from the inlet. -/
structure Faithful (taken : Bytes → Bytes) (unit : Inlet Script → Reply (Inlet Script)) :
    Prop where
  steady : ∀ {inlet}, inlet.reader.Steady → (unit inlet).next.reader.Steady
  append : ∀ {inlet} id, inlet.reader.Steady → inlet.events id
    = (Seq.ofList (eventsOf (taken (unit inlet).got) ((unit inlet).fault.map (.ofReading id)))).append
        ((unit inlet).next.events id)
  ended : ∀ {inlet} id, inlet.reader.Steady → (unit inlet).got = [] → (unit inlet).fault = none →
    inlet.events id = .nil

namespace Inlet

variable {inlet : Inlet Script}

theorem events_of_held (id : String) (hheld : inlet.held = []) :
    inlet.events id = inlet.reader.events id := by
  rw [events, hheld]
  exact Seq.nil_append _

/-- A request past the held block, when there is none. -/
theorem brings_pull {room : Nat} (hroom : room ≠ 0) (hsteady : inlet.reader.Steady)
    (hheld : inlet.held = []) :
    (inlet.pull room).next.reader.Steady ∧ ∀ id, (inlet.pull room).Brings id events inlet := by
  obtain ⟨held, script | _, input⟩ := inlet
  · cases hheld
    obtain ⟨hnext, hbrings⟩ := Script.Steady.read hsteady hroom
    refine ⟨hnext, fun id => ⟨?_, fun hgot hfault => ?_⟩⟩
    · rw [events_of_held id rfl, events_of_held id rfl]
      exact (hbrings id).append
    · rw [events_of_held id rfl]
      exact (hbrings id).ended hgot hfault
  · exact hsteady.elim

/-- After a fill that does not fail, the held block comes next; a failure comes at once. -/
theorem events_fill (id : String) (hsteady : inlet.reader.Steady) :
    inlet.events id
      = (Seq.ofList (eventsOf [] (inlet.fill.fault.map (.ofReading id)))).append
          (inlet.fill.next.events id) := by
  unfold fill fillBy
  by_cases hheld : inlet.held.isEmpty
  · rw [if_pos hheld]
    have hnil := List.isEmpty_iff.1 hheld
    rw [((brings_pull (by decide : blockSize ≠ 0) hsteady hnil).2 id).append]
    have hheld' := (held_pull blockSize inlet).trans hnil
    cases hfault : (inlet.pull blockSize).fault with
    | none =>
      rw [Option.map_none, eventsOf_none, eventsOf_none, events_of_held id hheld']
      exact (Seq.nil_append _).symm
    | some error =>
      rw [Option.map_some, events_of_held id hheld', events_of_held id (got_pull_of_fault hfault),
        got_pull_of_fault hfault]
  · rw [if_neg hheld]
    exact (Seq.nil_append _).symm

theorem steady_fill (hsteady : inlet.reader.Steady) : inlet.fill.next.reader.Steady := by
  unfold fill fillBy
  by_cases hheld : inlet.held.isEmpty
  · rw [if_pos hheld]
    exact (brings_pull (by decide) hsteady (List.isEmpty_iff.1 hheld)).1
  · rw [if_neg hheld]
    exact hsteady

theorem events_fill_ended (id : String) (hsteady : inlet.reader.Steady)
    (hgot : inlet.fill.got = []) (hfault : inlet.fill.fault = none) : inlet.events id = .nil := by
  unfold fill fillBy at hgot hfault
  by_cases hheld : inlet.held.isEmpty
  · rw [if_pos hheld] at hgot hfault
    exact ((brings_pull (by decide) hsteady (List.isEmpty_iff.1 hheld)).2 id).ended hgot hfault
  · rw [if_neg hheld] at hgot
    exact absurd (List.isEmpty_iff.2 hgot) hheld

/-- The held block stays held, so nothing but a failure is taken. -/
theorem faithful_fill : Faithful (fun _ => []) fill :=
  ⟨steady_fill, events_fill, events_fill_ended⟩

/-- Taking bytes of the held block brings them. -/
theorem events_consume (id : String) (count : Nat) :
    inlet.events id = (Seq.ofList ((inlet.held.take count).map .byte)).append
      ((inlet.consume count).events id) := by
  rw [events, events, ← Seq.append_assoc, ← Seq.ofList_append, ← List.map_append]
  exact congrArg (fun held => (Seq.ofList (held.map Event.byte)).append _)
    (List.take_append_drop count inlet.held).symm

theorem faithful_takeUpTo {count : Nat} (hcount : count ≠ 0) : Faithful id (takeUpTo count) where
  steady hsteady := steady_fill hsteady
  append {inlet} id hsteady := by
    have hheld : inlet.fill.next.held = inlet.fill.got := held_fillBy
    rw [events_fill id hsteady, takeUpTo]
    cases hfault : inlet.fill.fault with
    | none =>
      rw [Option.map_none, eventsOf_none, eventsOf_none, ← hheld]
      exact (Seq.nil_append _).trans (events_consume id count)
    | some error =>
      have hgot := got_fill_of_fault hfault
      rw [hgot] at hheld ⊢
      simp only [List.take_nil, events, consume, hheld, List.drop_nil]
      rfl
  ended {inlet} id hsteady hgot hfault := by
    refine events_fill_ended id hsteady ?_ hfault
    exact (List.take_eq_nil_iff.1 hgot).resolve_left hcount

theorem faithful_read {room : Nat} (hroom : room ≠ 0) : Faithful id (read room) where
  steady {inlet} hsteady := by
    unfold read
    split
    · rename_i h
      exact (brings_pull hroom hsteady (List.isEmpty_iff.1 h.1)).1
    · exact (faithful_takeUpTo hroom).steady hsteady
  append {inlet} id hsteady := by
    unfold read
    split
    · rename_i h
      exact ((brings_pull hroom hsteady (List.isEmpty_iff.1 h.1)).2 id).append
    · exact (faithful_takeUpTo hroom).append id hsteady
  ended {inlet} id hsteady hgot hfault := by
    unfold read at hgot hfault
    split at hgot
    · rename_i h
      rw [if_pos h] at hfault
      exact ((brings_pull hroom hsteady (List.isEmpty_iff.1 h.1)).2 id).ended hgot hfault
    · rename_i h
      rw [if_neg h] at hfault
      exact (faithful_takeUpTo hroom).ended id hsteady hgot hfault

theorem faithful_readRest : Faithful id readRest where
  steady {inlet} hsteady := by
    obtain ⟨held, script | _, input⟩ := inlet
    · exact (Script.Steady.drain hsteady).1
    · exact hsteady.elim
  append {inlet} id hsteady := by
    obtain ⟨held, script | _, input⟩ := inlet
    · rw [@events_of_held (readRest ⟨held, .script script, input⟩).next id rfl, events]
      show Seq.append _ (script.events id) = _
      rw [((Script.Steady.drain hsteady).2 id).append, ← Seq.append_assoc, ← Seq.ofList_append]
      exact congrArg (fun front => (Seq.ofList front).append _) (eventsOf_append ..).symm
    · exact hsteady.elim
  ended {inlet} id hsteady hgot hfault := by
    obtain ⟨held, script | _, input⟩ := inlet
    · obtain ⟨rfl, hgot⟩ := List.append_eq_nil_iff.1 hgot
      rw [events_of_held id rfl]
      exact ((Script.Steady.drain hsteady).2 id).ended hgot hfault
    · exact hsteady.elim

end Inlet

/-! ## What the sources bring -/

namespace Source

/-- What the source brings: the failure to open it, or what its reader serves. -/
def events (files : FileTree) (source : Source Script) : Seq Event :=
  match source.provider.opened files with
  | .ok reader => reader.events source.id
  | .error error => .cons (.fault (.ofOpening source.id error)) .nil

/-- The source is not standard input, and its reader is steady if it can be anything. -/
def Steady (source : Source Script) : Prop :=
  match source.provider with
  | .standardInput => False
  | .scripted _ (.ok answers) => answers.Steady
  | _ => True

/-- A text and a file give readers that are steady too, and so does a directory. -/
theorem Steady.opened {source : Source Script} (h : source.Steady) {files : FileTree}
    {reader : Reader Script} (hopen : source.provider.opened files = .ok reader) :
    reader.Steady := by
  obtain ⟨id, provider⟩ := source
  cases provider with
  | memory name content =>
    cases hopen
    exact Script.Steady.of_plain content
  | file path =>
    simp only [Provider.opened] at hopen
    split at hopen
    · cases hopen
      exact Script.Steady.of_plain _
    · cases hopen
      exact Script.Steady.of_failing rfl
    · cases hopen
  | standardInput => exact h.elim
  | scripted name opening =>
    cases opening with
    | ok answers =>
      cases hopen
      exact h
    | error error => cases hopen

end Source

/-- What a list of sources brings: what each brings, in the order of the list. -/
def arrivals (files : FileTree) (sources : List (Source Script)) : Seq Event :=
  sources.foldr (fun source later => (source.events files).append later) .nil

theorem arrivals_cons (files : FileTree) (source : Source Script) (rest : List (Source Script)) :
    arrivals files (source :: rest) = (source.events files).append (arrivals files rest) := rfl

end InputChain
