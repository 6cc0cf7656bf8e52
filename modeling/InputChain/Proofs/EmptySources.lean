import InputChain.Proofs.Accord
import InputChain.Proofs.Drawing

/-!
# Empty sources

A source that opens and then gives nothing, at once and for ever, is opened and closed without a trace
in any answer. However many of them stand in a list, and wherever, the list is read as if they were not
there: only the places and the number of the sources tell.

* `Inlet.Silent`, `Source.Silent`: what gives nothing for ever.
* `Inlet.Silent.unit`: every unit finds nothing there, and leaves standard input as it was.
* `Padding`: one list is another with silent sources put in.
* `Cursor.Padded`, `Cursor.padded_crossing`: two cursors over such lists find every unit alike.
* **`empty_sources_unseen`**: every run over such lists.
-/

namespace InputChain

/-! ## Nothing for ever -/

theorem eq_const_of_happenings {got : Bytes} {fault : Option IoError} {rest : Stream' Happening}
    (h : Stream'.const .nothing = happenings got fault ++ₛ rest) :
    got = [] ∧ fault = none ∧ rest = Stream'.const .nothing := by
  have hhead := congrArg Stream'.head h
  cases got with
  | cons b got => cases fault <;> cases hhead
  | nil =>
    cases fault with
    | some error => cases hhead
    | none => exact ⟨rfl, rfl, (congrArg Stream'.tail h).symm⟩

theorem uninterrupted_const : Uninterrupted (Stream'.const .nothing) := by
  rintro error ⟨index, hindex⟩
  cases hindex

/-- A reader that has nothing but empty answers. -/
theorem Script.course_of_empty {answers : List Answer} (h : ∀ answer ∈ answers, answer = .bytes []) :
    course ⟨answers, none⟩ = Stream'.const .nothing := by
  induction answers with
  | nil => rfl
  | cons answer rest ih =>
    obtain ⟨rfl, hrest⟩ := List.forall_mem_cons.1 h
    rw [course_cons, ih hrest]
    exact (Stream'.const_eq Happening.nothing).symm

namespace Inlet

/-- The inlet gives nothing, at once and for ever. -/
def Silent (inlet : Inlet Script) : Prop :=
  inlet.course = Stream'.const .nothing

namespace Silent

variable {inlet : Inlet Script} (h : inlet.Silent)

include h

theorem fill : inlet.fill.got = [] ∧ inlet.fill.fault = none := by
  by_cases hgot : inlet.fill.got = []
  · have hcourse := course_fill_of_nil hgot
    rw [h] at hcourse
    exact ⟨hgot, (eq_const_of_happenings hcourse).2.1⟩
  · have hcourse := course_fill_of_got hgot
    rw [h, ← happenings_of_ne_nil hgot] at hcourse
    exact absurd (eq_const_of_happenings hcourse).1 hgot

theorem takeUpTo (count : Nat) :
    (inlet.takeUpTo count).got = [] ∧ (inlet.takeUpTo count).fault = none := by
  obtain ⟨hgot, hfault⟩ := h.fill
  simp only [Inlet.takeUpTo, hgot, hfault, List.take_nil, and_self]

theorem read {room : Nat} (hroom : room ≠ 0) :
    (inlet.read room).got = [] ∧ (inlet.read room).fault = none := by
  unfold Inlet.read
  split
  · rename_i hpast
    have hcourse := course_pull hroom (List.isEmpty_iff.1 hpast.1)
    rw [h] at hcourse
    obtain ⟨hgot, hfault, -⟩ := eq_const_of_happenings hcourse
    exact ⟨hgot, hfault⟩
  · exact h.takeUpTo room

theorem of_advances {stops : UInt8 → Bool} {reply : Reply (Inlet Script)}
    (hadvances : inlet.Advances stops reply) : reply.got = [] ∧ reply.fault = none := by
  have hupTo := hadvances.upTo
  rw [h] at hupTo
  obtain ⟨hgot, hfault, -⟩ := hupTo.unique (.nothing rfl)
  exact ⟨hgot, hfault⟩

/-- **Every unit finds nothing there.** -/
theorem unit {unit : Inlet Script → Reply (Inlet Script)} (hunit : IsUnit unit) :
    (unit inlet).got = [] ∧ (unit inlet).fault = none := by
  have hcalm : Uninterrupted inlet.course := h ▸ uninterrupted_const
  cases hunit with
  | takeUpTo => exact h.takeUpTo _
  | readUntil stop => exact h.of_advances (advances_readUntil stop hcalm)
  | readRest => exact h.of_advances (advances_readRest hcalm)
  | read hroom => exact h.read hroom
  | fill => exact h.fill

/-- It leaves standard input as it was. -/
theorem input {unit : Inlet Script → Reply (Inlet Script)} (hunit : IsUnit unit) :
    (unit inlet).next.input = inlet.input := by
  by_cases hreader : inlet.reader = .standardInput
  · obtain ⟨-, hleft, hnext⟩ := hunit.left_of_nil hreader (h.unit hunit).1
    rw [hnext, StandardInput.eq_of_left hleft]
  · obtain ⟨taken, hdraws⟩ := hunit.draws inlet
    exact hdraws.same.input hreader

end Silent

end Inlet

/-- Among the files, and with standard input as it stands, the source opens and then gives nothing, at
once and for ever. -/
def Source.Silent (world : World) (source : Source Script) : Prop :=
  ∃ reader, source.provider.opened world.files = .ok reader
    ∧ Inlet.Silent ⟨[], reader, world.input⟩

/-- It stays so while others read. -/
theorem Source.Silent.mono {world later : World} {source : Source Script} (h : source.Silent world)
    (hfiles : later.files = world.files) (hinput : later.input.left <:+ world.input.left) :
    source.Silent later := by
  obtain ⟨reader, hopen, hsilent⟩ := h
  refine ⟨reader, hfiles ▸ hopen, ?_⟩
  cases reader with
  | script script => exact hsilent
  | standardInput =>
    have hleft : world.input.left = [] := by
      obtain ⟨-, hleft, -⟩ := Inlet.IsUnit.left_of_nil rfl .fill (hsilent.unit .fill).1
      exact hleft
    have hlater : later.input.left = [] := by
      rw [hleft] at hinput
      exact List.suffix_nil.1 hinput
    show later.input.left.map Happening.byte ++ₛ Stream'.const .nothing = Stream'.const .nothing
    rw [hlater]
    rfl

/-! ## Lists with silent sources put in -/

/-- The first list is the second with silent sources put in, anywhere and any number of them. -/
inductive Padding (world : World) : List (Source Script) → List (Source Script) → Prop where
  | nil : Padding world [] []
  | keep {longer shorter : List (Source Script)} (source : Source Script)
      (h : Padding world longer shorter) : Padding world (source :: longer) (source :: shorter)
  | put {source : Source Script} {longer shorter : List (Source Script)}
      (hsilent : source.Silent world) (h : Padding world longer shorter) :
      Padding world (source :: longer) shorter

theorem Padding.mono {world later : World} {longer shorter : List (Source Script)}
    (h : Padding world longer shorter) (hfiles : later.files = world.files)
    (hinput : later.input.left <:+ world.input.left) : Padding later longer shorter := by
  induction h with
  | nil => exact .nil
  | keep source _ ih => exact .keep source ih
  | put hsilent _ ih => exact .put (hsilent.mono hfiles hinput) ih

namespace Cursor

/-- Two cursors stand the same; but what the first has still to open is what the second has, with
silent sources put in. -/
structure Padded (left right : Cursor Script) : Prop where
  remaining : Padding right.world left.remaining right.remaining
  phase : left.phase = right.phase
  lineno : left.lineno = right.lineno
  pending : left.pending = right.pending
  world : left.world = right.world

variable {left right : Cursor Script} {unit : Inlet Script → Reply (Inlet Script)}

/-! ## One unit -/

/-- One more source has been opened and closed. -/
def pass (rest : SourceList Script) (cursor : Cursor Script) : Cursor Script :=
  { cursor with
    sources := rest
    journal := cursor.journal
      ++ [.opened cursor.sources.position, .closed cursor.sources.position] }

/-- **A silent source is opened and closed on the way**, and nothing else happens. -/
theorem crossing_of_silent (hunit : Inlet.IsUnit unit) (hphase : left.phase = .idle)
    {source : Source Script} {rest : SourceList Script}
    (hnext : left.sources.next? = some (source, rest)) (hsilent : source.Silent left.world) :
    left.crossing unit = (left.pass rest).crossing unit := by
  obtain ⟨reader, hopen, hreader⟩ := hsilent
  obtain ⟨hgot, hfault⟩ := hreader.unit hunit
  have hinput : (unit ⟨[], reader, left.world.input⟩).next.input = left.world.input :=
    hreader.input hunit
  have hposition := SourceList.position_next? hnext
  have hended := @crossing_of_end unit (left.enter source.id reader rest) source.id [] reader rfl _ rfl
    hfault hgot
  rw [crossing_of_opened hphase hnext hopen, hended]
  congr 1
  simp only [pass, close, withInlet, enter, hphase, hinput, hposition, Nat.add_sub_cancel,
    List.append_assoc, List.singleton_append]

/-- With the silent sources in front opened and closed, both cursors have the same source to open next,
or none. -/
theorem exists_past_silent (hunit : Inlet.IsUnit unit) (h : left.Padded right)
    (hphase : right.phase = .idle) :
    ∃ past : Cursor Script, left.crossing unit = past.crossing unit ∧ past.Padded right
      ∧ (past.sources.next? = none ∧ right.sources.next? = none
        ∨ ∃ source rest rest', past.sources.next? = some (source, rest)
            ∧ right.sources.next? = some (source, rest')
            ∧ Padding right.world rest.remaining rest'.remaining) := by
  obtain ⟨hremaining, hsame, hlineno, hpending, hworld⟩ := h
  generalize hlonger : left.remaining = longer, hshorter : right.remaining = shorter at hremaining
  induction hremaining generalizing left with
  | nil =>
    refine ⟨left, rfl, ⟨?_, hsame, hlineno, hpending, hworld⟩,
      Or.inl ⟨SourceList.next?_of_nil hlonger, SourceList.next?_of_nil hshorter⟩⟩
    rw [hlonger, hshorter]
    exact .nil
  | keep source hpadding =>
    obtain ⟨rest, hnext, hrest⟩ := SourceList.next?_of_remaining hlonger
    obtain ⟨rest', hnext', hrest'⟩ := SourceList.next?_of_remaining hshorter
    rw [← hrest, ← hrest'] at hpadding
    refine ⟨left, rfl, ⟨?_, hsame, hlineno, hpending, hworld⟩, Or.inr ⟨source, _, _, hnext, hnext', hpadding⟩⟩
    rw [hlonger, hshorter, ← hrest, ← hrest']
    exact .keep source hpadding
  | put hsilent hpadding ih =>
    obtain ⟨rest, hnext, hrest⟩ := SourceList.next?_of_remaining hlonger
    rw [crossing_of_silent hunit (hsame.trans hphase) hnext (hworld ▸ hsilent)]
    exact ih hsame hlineno hpending hworld hrest hshorter

theorem Padded.withInlet (h : left.Padded right) (id : String) {inlet : Inlet Script}
    (hinput : inlet.input.left <:+ right.world.input.left) :
    (left.withInlet id inlet).Padded (right.withInlet id inlet) where
  remaining := h.remaining.mono rfl hinput
  phase := rfl
  lineno := h.lineno
  pending := h.pending
  world := by
    show { left.world with input := inlet.input } = { right.world with input := inlet.input }
    rw [h.world]

theorem Padded.close (h : left.Padded right) : left.close.Padded right.close :=
  ⟨h.remaining, rfl, h.lineno, h.pending, h.world⟩

/-- **A unit is found alike.** -/
theorem padded_crossing (hunit : Inlet.IsUnit unit) (h : left.Padded right) :
    (left.crossing unit).Agrees Padded (right.crossing unit) := by
  fun_induction crossing unit right generalizing left with
  | case1 right hphase =>
    rw [crossing_of_exhausted (h.phase.trans hphase)]
    exact ⟨rfl, rfl, h⟩
  | case2 right id held reader hphase reply right' error =>
    rename_i hfault
    obtain ⟨taken, hdraws⟩ := hunit.draws ⟨held, reader, right.world.input⟩
    rw [crossing_of_fault (h.phase.trans hphase) (h.world ▸ rfl) hfault]
    exact ⟨rfl, rfl, h.withInlet id hdraws.suffix⟩
  | case3 right id held reader hphase reply right' hfault hgot _ =>
    rename_i ih
    obtain ⟨taken, hdraws⟩ := hunit.draws ⟨held, reader, right.world.input⟩
    rw [crossing_of_end (h.phase.trans hphase) (h.world ▸ rfl) hfault (List.isEmpty_iff.1 hgot)]
    exact ih (h.withInlet id hdraws.suffix).close
  | case4 right id held reader hphase reply right' hfault =>
    rename_i hgot
    obtain ⟨taken, hdraws⟩ := hunit.draws ⟨held, reader, right.world.input⟩
    rw [crossing_of_got (h.phase.trans hphase) (h.world ▸ rfl) hfault
      fun hnil => hgot (List.isEmpty_iff.2 hnil)]
    exact ⟨rfl, rfl, h.withInlet id hdraws.suffix⟩
  | case5 right hphase hnext =>
    obtain ⟨past, hcrossing, hpast, ⟨hnone, -⟩ | ⟨source, rest, rest', -, hsome, -⟩⟩ :=
      exists_past_silent hunit h hphase
    · rw [hcrossing, crossing_of_no_source (hpast.phase.trans hphase) hnone]
      exact ⟨rfl, rfl, hpast.remaining, rfl, hpast.lineno, hpast.pending, hpast.world⟩
    · cases hnext.symm.trans hsome
  | case6 right hphase source rest hnext error hopen =>
    obtain ⟨past, hcrossing, hpast, ⟨-, hnone⟩ | ⟨source', rest', behind, hsome', hsome, hpadding⟩⟩ :=
      exists_past_silent hunit h hphase
    · cases hnext.symm.trans hnone
    · cases hnext.symm.trans hsome
      rw [hcrossing, crossing_of_refused (hpast.phase.trans hphase) hsome' (hpast.world ▸ hopen)]
      exact ⟨rfl, rfl, hpadding, hpast.phase, hpast.lineno, hpast.pending, hpast.world⟩
  | case7 right hphase source rest hnext reader hopen _ ih =>
    obtain ⟨past, hcrossing, hpast, ⟨-, hnone⟩ | ⟨source', rest', behind, hsome', hsome, hpadding⟩⟩ :=
      exists_past_silent hunit h hphase
    · cases hnext.symm.trans hnone
    · cases hnext.symm.trans hsome
      rw [hcrossing, crossing_of_opened (hpast.phase.trans hphase) hsome' (hpast.world ▸ hopen)]
      exact ih ⟨hpadding, rfl, hpast.lineno, hpast.pending, hpast.world⟩

theorem padded_readUnit (hunit : Inlet.IsUnit unit) : FindsAlike Padded unit := by
  intro left right h
  cases hpending : right.pending with
  | none =>
    rw [readUnit_of_none hpending, readUnit_of_none (h.pending.trans hpending)]
    exact padded_crossing hunit h
  | some error =>
    rw [readUnit_of_pending hpending, readUnit_of_pending (h.pending.trans hpending)]
    exact ⟨rfl, rfl, h.remaining, h.phase, h.lineno, rfl, h.world⟩

/-! ## Runs -/

theorem accord_padded : Accord Padded where
  currentId? h := by simp only [Cursor.currentId?, h.phase]
  setLineno _ h := ⟨h.remaining, h.phase, rfl, h.pending, h.world⟩
  countLine h := ⟨h.remaining, h.phase, congrArg (· + 1) h.lineno, h.pending, h.world⟩
  hold _ h := ⟨h.remaining, h.phase, h.lineno, rfl, h.world⟩
  skip {left right} h := by
    unfold Cursor.skip
    rw [h.phase]
    split
    · exact h.close
    · exact h
  byte := padded_readUnit (.takeUpTo Nat.one_ne_zero)
  line := padded_readUnit (.readUntil newline)
  rest := padded_readUnit .readRest

theorem blockAccord_padded : BlockAccord Padded where
  read _ hroom := padded_readUnit (.read hroom)
  fill := padded_readUnit .fill
  consume {left right} count h := by
    unfold Seamless.consume
    rw [h.phase]
    split
    · exact ⟨h.remaining, rfl, h.lineno, h.pending, h.world⟩
    · exact h

/-- Cursors at the start of such lists. -/
theorem padded_ofSources {world : World} {longer sources : List (Source Script)}
    (hsources : sources ≠ []) (h : Padding world longer sources) :
    (ofSources world longer).Padded (ofSources world sources) where
  remaining := by
    have hlonger : longer ≠ [] := by
      rintro rfl
      cases h
      exact hsources rfl
    have hleft : (ofSources world longer).remaining = longer := if_neg (by simpa using hlonger)
    have hright : (ofSources world sources).remaining = sources := if_neg (by simpa using hsources)
    rw [hleft, hright]
    exact h
  phase := rfl
  lineno := rfl
  pending := rfl
  world := rfl

/-- Two steps answer the same, and the cursors after them have the same source open, the same number of
lines and the same held failure, and are both at the end of the stream or neither. -/
structure SeenAlike {ρ : Type} (left right : ρ × Cursor Script) : Prop where
  answer : left.1 = right.1
  currentId? : left.2.currentId? = right.2.currentId?
  lineno : left.2.lineno = right.2.lineno
  isExhausted : left.2.isExhausted = right.2.isExhausted
  pending : left.2.pending = right.2.pending

theorem Agrees.seenAlike {ρ : Type} {left right : ρ × Cursor Script} (h : Agrees Padded left right) :
    SeenAlike left right where
  answer := h.answer
  currentId? := accord_padded.currentId? h.next
  lineno := h.next.lineno
  isExhausted := by simp only [Cursor.isExhausted, h.next.phase]
  pending := h.next.pending

end Cursor

/-- **Empty sources are not seen.** Put any number of sources that open and then give nothing, at once
and for ever, anywhere into a list that has sources: every operation of every run is answered as it is
over the list without them, and after it the cursor has the same source open, has read as many lines,
holds the same failure, and is at the end of the stream or not. -/
theorem empty_sources_unseen (world : World) (longer sources : List (Source Script))
    (hsources : sources ≠ []) (hpadding : Padding world longer sources)
    (operations : List BlockingOperation) :
    List.Forall₂ Cursor.SeenAlike
      (Run.trace Cursor.serve operations (Cursor.ofSources world longer))
      (Run.trace Cursor.serve operations (Cursor.ofSources world sources)) :=
  (Cursor.accord_padded.run operations (fun _ _ _ => Cursor.blockAccord_padded)
    (Cursor.padded_ofSources hsources hpadding)).imp fun _ _ => Cursor.Agrees.seenAlike

/-- Texts without a byte, a reader of empty answers and standard input with nothing left, in front of,
between and behind a text, a source that does not open, and another text. -/
theorem empty_sources_unseen_everywhere :
    let sources : List (Source Script) := [⟨"a", .memory "a" [120, 10, 121]⟩,
      ⟨"b", .scripted "b" (.error (.bare .notFound))⟩, ⟨"c", .memory "c" [122]⟩]
    let empty : Source Script := ⟨"e", .memory "e" []⟩
    let mute : Source Script := ⟨"m", .scripted "m" (.ok ⟨[.bytes [], .bytes []], none⟩)⟩
    let longer : List (Source Script) := [empty, ⟨"a", .memory "a" [120, 10, 121]⟩, mute,
      .standardInput, ⟨"b", .scripted "b" (.error (.bare .notFound))⟩, empty, empty,
      ⟨"c", .memory "c" [122]⟩, mute]
    let operations : List BlockingOperation := [.common .readLine, .common .skip, .fill,
      .common (.read none), .setLineno 7, .consume 1, .plainRead 4, .readLines]
    sources ≠ [] ∧ Padding {} longer sources
      ∧ List.Forall₂ Cursor.SeenAlike
          (Run.trace Cursor.serve operations (Cursor.ofSources {} longer))
          (Run.trace Cursor.serve operations (Cursor.ofSources {} sources)) := by
  intro sources empty mute longer operations
  have hempty : empty.Silent {} := ⟨_, rfl, Script.course_of_empty (by decide)⟩
  have hmute : mute.Silent {} := ⟨_, rfl, Script.course_of_empty (by decide)⟩
  have hinput : Source.standardInput.Silent {} := ⟨_, rfl, rfl⟩
  have hsources : sources ≠ [] := List.cons_ne_nil _ _
  have hpadding : Padding {} longer sources :=
    .put hempty (.keep _ (.put hmute (.put hinput (.keep _ (.put hempty (.put hempty
      (.keep _ (.put hmute .nil))))))))
  exact ⟨hsources, hpadding, empty_sources_unseen {} longer sources hsources hpadding operations⟩

end InputChain
