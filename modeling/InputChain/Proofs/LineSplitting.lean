import InputChain.Proofs.Course
import InputChain.Proofs.Decoding
import InputChain.Proofs.Ending.Cut
import InputChain.Proofs.Events
import InputChain.Proofs.HeldFailure

/-!
# The lines of a stream

Read line by line, each source is divided on its own: its lines end behind its line ends and at its
end. No line has bytes of two sources, and a source without bytes has no lines.

* `linesOf`, `AreLines`, `areLines_iff`: the lines of some bytes.
* `contents`, `streamLines`: what each source holds, and the lines of all, each with its source.
* `Cursor.LinesLeft`: the lines that a cursor has still to give.
* `Cursor.givesLine_readUnit`, `Cursor.givesLine_readLineBytes`, `Cursor.givesLine_readLine`: one line.
* **`lines_divided_by_source`**: all lines, as bytes and as text.
-/

namespace InputChain

/-! ## The lines of some bytes -/

/-- The lines of some bytes: each ends behind a line end, or at the end of the bytes. -/
def linesOf : Bytes → List Bytes
  | [] => []
  | b :: rest =>
    if b = newline then [b] :: linesOf rest
    else
      match linesOf rest with
      | [] => [[b]]
      | line :: lines => (b :: line) :: lines

theorem linesOf_newline (rest : Bytes) : linesOf (newline :: rest) = [newline] :: linesOf rest :=
  if_pos rfl

theorem linesOf_of_ne {b : UInt8} (hb : b ≠ newline) (rest : Bytes) :
    linesOf (b :: rest)
      = match linesOf rest with
        | [] => [[b]]
        | line :: lines => (b :: line) :: lines :=
  if_neg hb

/-- Lines are not empty, have a line end nowhere but at their end, and all but the last have one
there. Put together they are the bytes. -/
structure AreLines (bytes : Bytes) (lines : List Bytes) : Prop where
  flatten : lines.flatten = bytes
  ne_nil : ∀ line ∈ lines, line ≠ []
  inner : ∀ line ∈ lines, newline ∉ line.dropLast
  ended : ∀ line ∈ lines.dropLast, line.getLast? = some newline

namespace AreLines

variable {bytes line : Bytes} {lines : List Bytes}

theorem nil_iff : AreLines bytes [] ↔ bytes = [] := by
  constructor
  · exact fun h => h.flatten.symm
  · rintro rfl
    exact ⟨rfl, by simp, by simp, by simp⟩

/-- A line in front of others ends in a line end; the last one need not. -/
theorem cons_iff : AreLines bytes (line :: lines)
    ↔ line ≠ [] ∧ newline ∉ line.dropLast ∧ (lines ≠ [] → line.getLast? = some newline)
      ∧ ∃ rest, bytes = line ++ rest ∧ AreLines rest lines := by
  constructor
  · rintro ⟨rfl, hne, hinner, hended⟩
    refine ⟨hne line List.mem_cons_self, hinner line List.mem_cons_self, fun hlines => ?_,
      lines.flatten, List.flatten_cons, rfl, fun other hother => hne other (List.mem_cons_of_mem _ hother),
      fun other hother => hinner other (List.mem_cons_of_mem _ hother), fun other hother => ?_⟩
    · exact hended line (by rw [List.dropLast_cons_of_ne_nil hlines]; exact List.mem_cons_self)
    · have hlines : lines ≠ [] := by
        rintro rfl
        cases hother
      refine hended other ?_
      rw [List.dropLast_cons_of_ne_nil hlines]
      exact List.mem_cons_of_mem _ hother
  · rintro ⟨hne, hinner, hended, rest, rfl, hrest⟩
    refine ⟨by rw [List.flatten_cons, hrest.flatten], List.forall_mem_cons.2 ⟨hne, hrest.ne_nil⟩,
      List.forall_mem_cons.2 ⟨hinner, hrest.inner⟩, fun other hother => ?_⟩
    by_cases hlines : lines = []
    · subst hlines
      cases hother
    · rw [List.dropLast_cons_of_ne_nil hlines] at hother
      rcases List.mem_cons.1 hother with rfl | hother
      · exact hended hlines
      · exact hrest.ended other hother

end AreLines

theorem areLines_linesOf (bytes : Bytes) : AreLines bytes (linesOf bytes) := by
  fun_induction linesOf bytes with
  | case1 => exact AreLines.nil_iff.2 rfl
  | case2 rest ih =>
    exact AreLines.cons_iff.2 ⟨List.cons_ne_nil _ _, List.not_mem_nil, fun _ => rfl, rest, rfl, ih⟩
  | case3 b rest hb hnil ih =>
    rw [hnil, AreLines.nil_iff] at ih
    subst ih
    exact AreLines.cons_iff.2 ⟨List.cons_ne_nil _ _, List.not_mem_nil, fun h => absurd rfl h, [], rfl,
      AreLines.nil_iff.2 rfl⟩
  | case4 b rest hb line lines hlines ih =>
    rw [hlines, AreLines.cons_iff] at ih
    obtain ⟨hne, hinner, hended, behind, rfl, hbehind⟩ := ih
    refine AreLines.cons_iff.2 ⟨List.cons_ne_nil _ _, ?_, fun h => ?_, behind, rfl, hbehind⟩
    · rw [List.dropLast_cons_of_ne_nil hne]
      exact List.not_mem_cons_of_ne_of_not_mem (Ne.symm hb) hinner
    · rw [List.getLast?_cons_of_ne_nil hne]
      exact hended h

/-- **There is one way to divide bytes into lines.** -/
theorem areLines_iff {bytes : Bytes} {lines : List Bytes} :
    AreLines bytes lines ↔ lines = linesOf bytes := by
  refine ⟨fun h => ?_, fun h => h ▸ areLines_linesOf bytes⟩
  induction bytes generalizing lines with
  | nil =>
    match lines with
    | [] => rfl
    | line :: later =>
      obtain ⟨hne, -, -, rest, hbytes, -⟩ := AreLines.cons_iff.1 h
      exact absurd (List.append_eq_nil_iff.1 hbytes.symm).1 hne
  | cons b bytes ih =>
    match lines with
    | [] => cases AreLines.nil_iff.1 h
    | [] :: later => exact absurd rfl (AreLines.cons_iff.1 h).1
    | (b' :: line) :: later =>
      obtain ⟨-, hinner, hended, rest, hbytes, hrest⟩ := AreLines.cons_iff.1 h
      obtain ⟨rfl, rfl⟩ := List.cons.inj hbytes
      by_cases hb : b = newline
      · have hline : line = [] := by
          by_contra hline
          refine hinner ?_
          rw [List.dropLast_cons_of_ne_nil hline]
          exact hb ▸ List.mem_cons_self
        subst hline hb
        rw [linesOf_newline, ← ih hrest]
      · by_cases hline : line = []
        · subst hline
          have hlater : later = [] := by
            by_contra hlater
            exact hb (Option.some.inj (hended hlater))
          subst hlater
          obtain rfl := AreLines.nil_iff.1 hrest
          rw [linesOf_of_ne hb]
          rfl
        · have hsame : AreLines (line ++ rest) (line :: later) := by
            refine AreLines.cons_iff.2 ⟨hline, fun h => hinner ?_, fun h => ?_, rest, rfl, hrest⟩
            · rw [List.dropLast_cons_of_ne_nil hline]
              exact List.mem_cons_of_mem b h
            · rw [← List.getLast?_cons_of_ne_nil hline]
              exact hended h
          rw [linesOf_of_ne hb, ← ih hsame]

/-- The first line of some bytes is the front of a course that begins with them and gives nothing more,
and the other lines are those of the rest. -/
theorem upTo_line {content : Bytes} (hcontent : content ≠ []) :
    ∃ line rest, line ≠ [] ∧ linesOf content = line :: linesOf rest
      ∧ UpTo (· == newline) (content.map .byte ++ₛ Stream'.const .nothing) line none
          (rest.map .byte ++ₛ Stream'.const .nothing) := by
  induction content with
  | nil => exact absurd rfl hcontent
  | cons b content ih =>
    by_cases hb : b = newline
    · refine ⟨[b], content, List.cons_ne_nil b [], hb ▸ linesOf_newline content, ?_⟩
      exact .stop rfl (by rw [hb]; rfl)
    · have hgoes : (b == newline) = false := beq_false_of_ne hb
      by_cases hnil : content = []
      · subst hnil
        refine ⟨[b], [], List.cons_ne_nil b [], linesOf_of_ne hb [], ?_⟩
        exact .byte rfl hgoes (.nothing rfl)
      · obtain ⟨line, rest, -, hlines, hupTo⟩ := ih hnil
        refine ⟨b :: line, rest, List.cons_ne_nil b line, ?_, .byte rfl hgoes hupTo⟩
        rw [linesOf_of_ne hb, hlines]

theorem uninterrupted_of_content (content : Bytes) :
    Uninterrupted (content.map .byte ++ₛ Stream'.const .nothing) := by
  intro error herror
  rcases mem_of_mem_append herror with hmem | ⟨index, hindex⟩
  · obtain ⟨b, -, hb⟩ := List.mem_map.1 hmem
    cases hb
  · cases hindex

/-- A line is read of what an inlet holds, or nothing at its end. -/
theorem Inlet.readUntil_of_content {inlet : Inlet Script} {content : Bytes}
    (hcourse : inlet.course = content.map .byte ++ₛ Stream'.const .nothing) :
    (inlet.readUntil newline).fault = none ∧ inlet.SameSource (inlet.readUntil newline).next
      ∧ ∃ rest : Bytes,
        (inlet.readUntil newline).next.course = rest.map .byte ++ₛ Stream'.const .nothing
        ∧ (content = [] ∧ (inlet.readUntil newline).got = [] ∧ rest = []
          ∨ (inlet.readUntil newline).got ≠ []
            ∧ linesOf content = (inlet.readUntil newline).got :: linesOf rest) := by
  obtain ⟨hupTo, hsame⟩ := Inlet.advances_readUntil newline
    (hcourse ▸ uninterrupted_of_content content)
  rw [hcourse] at hupTo
  by_cases hcontent : content = []
  · subst hcontent
    obtain ⟨hgot, hfault, hrest⟩ := hupTo.unique (.nothing rfl)
    exact ⟨hfault, hsame, [], hrest, Or.inl ⟨rfl, hgot, rfl⟩⟩
  · obtain ⟨line, rest, hline, hlines, hfront⟩ := upTo_line hcontent
    obtain ⟨rfl, hfault, hrest⟩ := hupTo.unique hfront
    exact ⟨hfault, hsame, rest, hrest, Or.inr ⟨hline, hlines⟩⟩

/-! ## What the sources hold -/

/-- The bytes of an answer. -/
def Answer.content : Answer → Bytes
  | .bytes content => content
  | .fault _ => []

/-- All bytes that a reader answers with. -/
def Script.content (script : Script) : Bytes :=
  script.answers.flatMap Answer.content

/-- A reader that never fails, and has ended for good when it first gives nothing, gives its content
and then nothing. -/
theorem Script.course_of_steady {script : Script} (hunfailing : script.Unfailing)
    (hsteady : script.Steady) :
    script.course = script.content.map .byte ++ₛ Stream'.const .nothing := by
  obtain ⟨answers, thereafter⟩ := script
  induction answers with
  | nil =>
    obtain rfl : thereafter = none := hunfailing.1
    rfl
  | cons answer rest ih =>
    obtain ⟨content, rfl⟩ := hunfailing.2 answer List.mem_cons_self
    have hsplit : Script.content ⟨.bytes content :: rest, thereafter⟩
        = content ++ Script.content ⟨rest, thereafter⟩ := List.flatMap_cons
    rw [course_cons, ih hunfailing.tail hsteady.tail, Answer.happenings, hsplit]
    by_cases hcontent : content = []
    · subst hcontent
      have hnone : Script.content ⟨rest, thereafter⟩ = [] := by
        refine List.flatMap_eq_nil_iff.2 fun answer hanswer => ?_
        rw [(hsteady.ended [] rest rfl).2 answer hanswer]
        rfl
      rw [hnone]
      exact (Stream'.const_eq Happening.nothing).symm
    · rw [happenings_of_ne_nil hcontent, List.map_append, Stream'.append_append_stream]

namespace Reader

/-- The reader never fails, and has ended for good when it first gives nothing. -/
def ReadsOut : Reader Script → Prop
  | .script answers => answers.Unfailing ∧ answers.Steady
  | .standardInput => True

/-- What the reader holds, when this is left of standard input. -/
def content (input : Bytes) : Reader Script → Bytes
  | .script answers => answers.content
  | .standardInput => input

/-- What the reader leaves of standard input when it is read to its end. -/
def leaves (input : Bytes) : Reader Script → Bytes
  | .script _ => input
  | .standardInput => []

theorem ReadsOut.course {reader : Reader Script} (h : reader.ReadsOut) (input : StandardInput) :
    Inlet.course ⟨[], reader, input⟩
      = (reader.content input.left).map .byte ++ₛ Stream'.const .nothing := by
  cases reader with
  | script answers => exact Script.course_of_steady h.1 h.2
  | standardInput => rfl

end Reader

theorem Inlet.SameSource.leaves {inlet next : Inlet Script} (h : inlet.SameSource next) :
    next.reader.leaves next.input.left = inlet.reader.leaves inlet.input.left := by
  by_cases hreader : inlet.reader = .standardInput
  · rw [h.reader.2 hreader, hreader]
    rfl
  · have hscript : ∀ reader : Reader Script, reader ≠ .standardInput →
        ∀ input, reader.leaves input = input := by
      rintro (answers | _) hreader input
      · rfl
      · exact absurd rfl hreader
    rw [hscript _ hreader, hscript _ (mt h.reader.1 hreader), h.input hreader]

/-- An inlet that has ended leaves nothing of standard input if that is what it reads. -/
theorem Inlet.leaves_of_ended {inlet : Inlet Script}
    (hended : inlet.course = Stream'.const .nothing) :
    inlet.reader.leaves inlet.input.left = inlet.input.left := by
  obtain ⟨held, answers | _, input⟩ := inlet
  · rfl
  · have hheads : ∀ bytes : Bytes,
        bytes.map Happening.byte ++ₛ Stream'.const .nothing = Stream'.const .nothing → bytes = [] := by
      rintro (_ | ⟨b, bytes⟩) hbytes
      · rfl
      · cases congrArg Stream'.head hbytes
    have hcourse : (held ++ input.left).map Happening.byte ++ₛ Stream'.const .nothing
        = Stream'.const .nothing := by
      rw [List.map_append, Stream'.append_append_stream]
      exact hended
    exact (List.append_eq_nil_iff.1 (hheads _ hcourse)).2.symm

/-- The source opens, and its reader never fails and has ended for good when it first gives nothing. -/
def Source.ReadsOut (files : FileTree) (source : Source Script) : Prop :=
  ∃ reader, source.provider.opened files = .ok reader ∧ reader.ReadsOut

/-- What each source holds, with its identifier. The first that reads standard input finds all of it
that is left, and later ones find nothing. -/
def contents (files : FileTree) : (input : Bytes) → List (Source Script) → List (String × Bytes)
  | _, [] => []
  | input, source :: rest =>
    match source.provider.opened files with
    | .ok reader => (source.id, reader.content input) :: contents files (reader.leaves input) rest
    | .error _ => contents files input rest

/-- The lines of all, each with the identifier of its source. -/
def streamLines (contents : List (String × Bytes)) : List (String × Bytes) :=
  contents.flatMap fun (id, content) => (linesOf content).map (id, ·)

theorem streamLines_cons (id : String) (content : Bytes) (later : List (String × Bytes)) :
    streamLines ((id, content) :: later)
      = (linesOf content).map (id, ·) ++ streamLines later :=
  List.flatMap_cons

/-! ## What a cursor has still to give -/

namespace Cursor

/-- What each source still holds: the open one behind what was read of it, then those to come. -/
inductive Holds (cursor : Cursor Script) : List (String × Bytes) → Prop where
  | idle (hphase : cursor.phase = .idle) :
      Holds cursor (contents cursor.world.files cursor.world.input.left cursor.remaining)
  | active {id : String} {held : Bytes} {reader : Reader Script} {content : Bytes}
      (hphase : cursor.phase = .active id held reader)
      (hcourse : Inlet.course ⟨held, reader, cursor.world.input⟩
        = content.map .byte ++ₛ Stream'.const .nothing) :
      Holds cursor ((id, content)
        :: contents cursor.world.files (reader.leaves cursor.world.input.left) cursor.remaining)
  | exhausted (hphase : cursor.phase = .exhausted) : Holds cursor []

/-- These lines are left: no failure is held or to come, and the sources hold these lines. -/
structure LinesLeft (cursor : Cursor Script) (lines : List (String × Bytes)) : Prop where
  pending : cursor.pending = none
  readsOut : ∀ source ∈ cursor.remaining, source.ReadsOut cursor.world.files
  holds : ∃ contents, cursor.Holds contents ∧ streamLines contents = lines

end Cursor

/-- A delivery gives the first of these lines and leaves the others; nothing, if there are none. -/
inductive Delivery.GivesLine (delivery : Delivery Script) : List (String × Bytes) → Prop where
  | ended (hgot : delivery.got = []) (hfault : delivery.fault = none)
      (hnext : delivery.next.LinesLeft []) : GivesLine delivery []
  | line {id : String} {later : List (String × Bytes)} (hgot : delivery.got ≠ [])
      (hfault : delivery.fault = none) (hid : delivery.next.currentId? = some id)
      (hnext : delivery.next.LinesLeft later) : GivesLine delivery ((id, delivery.got) :: later)

namespace Cursor

variable {cursor : Cursor Script} {lines : List (String × Bytes)}

namespace Holds

variable {given : List (String × Bytes)} (h : cursor.Holds given)

include h

theorem of_exhausted (hphase : cursor.phase = .exhausted) : given = [] := by
  cases h with
  | idle hphase' => cases hphase.symm.trans hphase'
  | active hphase' => cases hphase.symm.trans hphase'
  | exhausted => rfl

theorem of_idle (hphase : cursor.phase = .idle) :
    given = contents cursor.world.files cursor.world.input.left cursor.remaining := by
  cases h with
  | idle => rfl
  | active hphase' => cases hphase.symm.trans hphase'
  | exhausted hphase' => cases hphase.symm.trans hphase'

theorem of_active {id : String} {held : Bytes} {reader : Reader Script}
    (hphase : cursor.phase = .active id held reader) :
    ∃ content, Inlet.course ⟨held, reader, cursor.world.input⟩
        = content.map .byte ++ₛ Stream'.const .nothing
      ∧ given = (id, content)
        :: contents cursor.world.files (reader.leaves cursor.world.input.left) cursor.remaining := by
  cases h with
  | idle hphase' => cases hphase.symm.trans hphase'
  | active hphase' hcourse =>
    cases hphase.symm.trans hphase'
    exact ⟨_, hcourse, rfl⟩
  | exhausted hphase' => cases hphase.symm.trans hphase'

end Holds

/-- What was read of the open source is gone from what it holds, and nothing else is. -/
theorem holds_withInlet {id : String} {held : Bytes} {reader : Reader Script} {inlet : Inlet Script}
    {content : Bytes} (hsame : Inlet.SameSource ⟨held, reader, cursor.world.input⟩ inlet)
    (hcourse : inlet.course = content.map .byte ++ₛ Stream'.const .nothing) :
    (cursor.withInlet id inlet).Holds ((id, content)
      :: contents cursor.world.files (reader.leaves cursor.world.input.left) cursor.remaining) := by
  have hnext := @Holds.active (cursor.withInlet id inlet) id inlet.held inlet.reader content rfl hcourse
  have hleaves : inlet.reader.leaves (cursor.withInlet id inlet).world.input.left
      = reader.leaves cursor.world.input.left := hsame.leaves
  rwa [hleaves] at hnext

/-- A source that has ended is closed, and the others hold what they held. -/
theorem holds_close {id : String} {held : Bytes} {reader : Reader Script} {inlet : Inlet Script}
    (hsame : Inlet.SameSource ⟨held, reader, cursor.world.input⟩ inlet)
    (hended : inlet.course = Stream'.const .nothing) :
    (cursor.withInlet id inlet).close.Holds
      (contents cursor.world.files (reader.leaves cursor.world.input.left) cursor.remaining) := by
  have hnext := @Holds.idle (cursor.withInlet id inlet).close rfl
  have hleaves : (cursor.withInlet id inlet).close.world.input.left
      = reader.leaves cursor.world.input.left :=
    (Inlet.leaves_of_ended hended).symm.trans hsame.leaves
  rwa [hleaves] at hnext

/-- **A unit through a line end gives the first line that is left.** -/
theorem givesLine_crossing (h : cursor.LinesLeft lines) :
    (cursor.crossing (Inlet.readUntil newline)).GivesLine lines := by
  obtain ⟨hpending, hreadsOut, given, hholds, rfl⟩ := h
  fun_induction crossing (Inlet.readUntil newline) cursor generalizing given with
  | case1 cursor hphase =>
    rw [hholds.of_exhausted hphase]
    exact .ended rfl rfl ⟨hpending, hreadsOut, [], .exhausted hphase, rfl⟩
  | case2 cursor id held reader hphase reply cursor' error =>
    rename_i hfault
    obtain ⟨content, hcourse, -⟩ := hholds.of_active hphase
    cases (Inlet.readUntil_of_content hcourse).1.symm.trans hfault
  | case3 cursor id held reader hphase reply cursor' hfault hgot _ =>
    rename_i ih
    obtain ⟨content, hcourse, rfl⟩ := hholds.of_active hphase
    obtain ⟨-, hsame, rest, hrest, ⟨rfl, -, rfl⟩ | ⟨hsome, -⟩⟩ := Inlet.readUntil_of_content hcourse
    · rw [streamLines_cons, linesOf, List.map_nil, List.nil_append]
      exact ih hpending hreadsOut _ (holds_close hsame hrest)
    · exact absurd (List.isEmpty_iff.1 hgot) hsome
  | case4 cursor id held reader hphase reply cursor' hfault =>
    rename_i hgot
    obtain ⟨content, hcourse, rfl⟩ := hholds.of_active hphase
    obtain ⟨-, hsame, rest, hrest, ⟨-, hnil, -⟩ | ⟨hsome, hlines⟩⟩ :=
      Inlet.readUntil_of_content hcourse
    · exact absurd (List.isEmpty_iff.2 hnil) hgot
    · rw [streamLines_cons, hlines, List.map_cons, List.cons_append, ← streamLines_cons]
      exact .line hsome rfl rfl ⟨hpending, hreadsOut, _, holds_withInlet hsame hrest, rfl⟩
  | case5 cursor hphase hnext =>
    have hnil : cursor.remaining = [] := SourceList.remaining_next?_none hnext
    rw [hholds.of_idle hphase, hnil]
    exact .ended rfl rfl ⟨hpending, hreadsOut, [], .exhausted rfl, rfl⟩
  | case6 cursor hphase source rest hnext error hopen =>
    have hremaining : cursor.remaining = source :: rest.remaining :=
      SourceList.remaining_next? hnext
    obtain ⟨reader, hopened, -⟩ := hreadsOut source (hremaining ▸ List.mem_cons_self)
    cases hopen.symm.trans hopened
  | case7 cursor hphase source rest hnext reader hopen _ ih =>
    have hremaining : cursor.remaining = source :: rest.remaining :=
      SourceList.remaining_next? hnext
    obtain ⟨reader', hopened, hreads⟩ := hreadsOut source (hremaining ▸ List.mem_cons_self)
    cases hopen.symm.trans hopened
    rw [hholds.of_idle hphase, hremaining, contents, hopen]
    refine ih hpending (fun later hlater => ?_) _ (.active rfl (hreads.course _))
    exact hreadsOut later (hremaining ▸ List.mem_cons_of_mem source hlater)

/-! ## One line -/

theorem givesLine_readUnit (h : cursor.LinesLeft lines) :
    (cursor.readUnit (Inlet.readUntil newline)).GivesLine lines := by
  rw [readUnit_of_none h.pending]
  exact givesLine_crossing h

theorem LinesLeft.countLine (h : cursor.LinesLeft lines) : cursor.countLine.LinesLeft lines := by
  obtain ⟨hpending, hreadsOut, given, hholds, hlines⟩ := h
  refine ⟨hpending, hreadsOut, given, ?_, hlines⟩
  cases hholds with
  | idle hphase => exact .idle hphase
  | active hphase hcourse => exact .active hphase hcourse
  | exhausted hphase => exact .exhausted hphase

theorem readLineBytes_of_none_left (h : cursor.LinesLeft []) :
    ∃ next, cursor.readLineBytes = (.ok none, next) ∧ next.lineno = cursor.lineno := by
  have hunit := givesLine_readUnit h
  have hlineno := lineno_readUnit (Inlet.readUntil newline) cursor
  unfold readLineBytes Delivery.orFault
  generalize cursor.readUnit (Inlet.readUntil newline) = delivery at hunit hlineno ⊢
  obtain ⟨got, fault, next⟩ := delivery
  cases hunit with
  | ended hgot hfault hnext =>
    obtain rfl : got = [] := hgot
    obtain rfl : fault = none := hfault
    exact ⟨next, rfl, hlineno⟩

theorem readLineBytes_of_left {id : String} {line : Bytes}
    (h : cursor.LinesLeft ((id, line) :: lines)) :
    ∃ next, cursor.readLineBytes = (.ok (some line), next) ∧ next.LinesLeft lines
      ∧ next.lineno = cursor.lineno + 1 := by
  have hunit := givesLine_readUnit h
  have hlineno := lineno_readUnit (Inlet.readUntil newline) cursor
  unfold readLineBytes Delivery.orFault
  generalize cursor.readUnit (Inlet.readUntil newline) = delivery at hunit hlineno ⊢
  obtain ⟨got, fault, next⟩ := delivery
  cases hunit with
  | line hgot hfault hid hnext =>
    obtain rfl : fault = none := hfault
    refine ⟨next.countLine, ?_, hnext.countLine, congrArg (· + 1) hlineno⟩
    simp only [List.isEmpty_iff, if_neg hgot]

end Cursor

/-- How a line comes as text: as the text of which it is the bytes, or as a failure to read its source if
it is the bytes of no text. -/
inductive TextOf (id : String) (line : Bytes) : Except SourceError String → Prop where
  | text {text : String} (htext : Utf8.encode text = line) : TextOf id line (.ok text)
  | malformed {error : SourceError} (hnone : ∀ text, Utf8.encode text ≠ line)
      (hstage : error.stage = .reading) (htarget : error.target = id)
      (hkind : error.kind = .invalidData) : TextOf id line (.error error)

namespace Cursor

variable {cursor : Cursor Script} {lines : List (String × Bytes)}

theorem readLine_of_none_left (h : cursor.LinesLeft []) :
    ∃ next, cursor.readLine = (.ok none, next) := by
  have hunit := givesLine_readUnit h
  rw [readLine_eq_decoding]
  unfold Delivery.orFault
  generalize cursor.readUnit (Inlet.readUntil newline) = delivery at hunit ⊢
  obtain ⟨got, fault, next⟩ := delivery
  cases hunit with
  | ended hgot hfault hnext =>
    obtain rfl : got = [] := hgot
    obtain rfl : fault = none := hfault
    exact ⟨next, rfl⟩

theorem readLine_of_left {id : String} {line : Bytes} (h : cursor.LinesLeft ((id, line) :: lines)) :
    ∃ item next, cursor.readLine = (item.map some, next) ∧ TextOf id line item
      ∧ next.LinesLeft lines := by
  have hunit := givesLine_readUnit h
  rw [readLine_eq_decoding]
  unfold Delivery.orFault
  generalize cursor.readUnit (Inlet.readUntil newline) = delivery at hunit ⊢
  obtain ⟨got, fault, next⟩ := delivery
  cases hunit with
  | line hgot hfault hid hnext =>
    obtain rfl : fault = none := hfault
    simp only [List.isEmpty_iff, if_neg hgot]
    cases hdecode : Utf8.decode got with
    | ok text =>
      exact ⟨.ok text, _, rfl, .text (Utf8.decode_ok_iff.1 hdecode), hnext.countLine⟩
    | error fault =>
      refine ⟨.error (.ofReading id (.malformed fault)), _, ?_, ?_, hnext⟩
      · rw [hid]
        rfl
      · exact .malformed (Utf8.decode_error_iff.1 ⟨fault, hdecode⟩) rfl rfl rfl

/-! ## All lines -/

/-- The lines that are left come one after another, and then the end is reported. -/
theorem answers_readLineBytes (h : cursor.LinesLeft lines) :
    let reads := List.replicate (lines.length + 1) (BlockingOperation.common .readLineBytes)
    (Run.trace serve reads cursor).map Prod.fst
        = lines.map (fun line => .ok (.bytes (some line.2))) ++ [.ok (.bytes none)]
      ∧ (Run.last serve reads cursor).lineno = cursor.lineno + lines.length := by
  induction lines generalizing cursor with
  | nil =>
    obtain ⟨next, hread, hlineno⟩ := readLineBytes_of_none_left h
    have hserve : cursor.serve (.common .readLineBytes) = (.ok (.bytes none), next) := by
      rw [serve, perform, hread]
      rfl
    simp only [List.length_nil, List.replicate, Run.trace, Run.last, List.foldl, hserve]
    exact ⟨rfl, hlineno⟩
  | cons first lines ih =>
    obtain ⟨id, line⟩ := first
    obtain ⟨next, hread, hnext, hlineno⟩ := readLineBytes_of_left h
    have hserve : cursor.serve (.common .readLineBytes) = (.ok (.bytes (some line)), next) := by
      rw [serve, perform, hread]
      rfl
    obtain ⟨hanswers, hlast⟩ := ih hnext
    rw [List.length_cons, List.replicate_succ]
    refine ⟨?_, ?_⟩
    · rw [Run.trace, List.map_cons, hserve, hanswers]
      rfl
    · rw [Run.last, List.foldl_cons, hserve]
      exact hlast.trans (by omega)

/-- The lines that are left come as text one after another, and then no more. -/
theorem items_eachLine (count : Nat) (h : cursor.LinesLeft lines) :
    List.Forall₂ (fun line item => TextOf line.1 line.2 item) (lines.take count)
      (cursor.eachLine count).1 := by
  induction count generalizing cursor lines with
  | zero => exact .nil
  | succ count ih =>
    match lines with
    | [] =>
      obtain ⟨next, hread⟩ := readLine_of_none_left h
      rw [eachLine, hread]
      exact .nil
    | (id, line) :: lines =>
      obtain ⟨item, next, hread, hitem, hnext⟩ := readLine_of_left h
      rw [eachLine, hread]
      cases item with
      | ok text => exact .cons hitem (ih hnext)
      | error error => exact .cons hitem (ih hnext)

theorem linesLeft_ofSources {world : World} {sources : List (Source Script)}
    (hreads : ∀ source ∈ sources, source.ReadsOut world.files) :
    (ofSources world sources).LinesLeft (streamLines
      (contents world.files world.input.left (SourceList.ofList sources).remaining)) where
  pending := rfl
  readsOut source hsource := by
    by_cases hnil : sources = []
    · subst hnil
      cases List.mem_singleton.1 hsource
      exact ⟨.standardInput, rfl, trivial⟩
    · have hremaining : (ofSources world sources).remaining = sources := if_neg (by simpa using hnil)
      exact hreads source (hremaining ▸ hsource)
  holds := ⟨_, .idle rfl, rfl⟩

end Cursor

/-- **Lines are divided source by source.** Over sources that open and are read without failures, each
reader in blocks of any size and ended for good when it first gives nothing: reading the bytes of lines
until there are none gives the lines of each source in the order of the list, and counts them. As text
the same lines come one by one; one that is the bytes of no text comes as a failure to read its source,
and those behind it still come. -/
theorem lines_divided_by_source (world : World) (sources : List (Source Script))
    (hreads : ∀ source ∈ sources, source.ReadsOut world.files) :
    let lines := streamLines
      (contents world.files world.input.left (SourceList.ofList sources).remaining)
    let reads := List.replicate (lines.length + 1) (BlockingOperation.common .readLineBytes)
    let cursor := Cursor.ofSources world sources
    (Run.trace Cursor.serve reads cursor).map Prod.fst
        = lines.map (fun line => .ok (.bytes (some line.2))) ++ [.ok (.bytes none)]
      ∧ (Run.last Cursor.serve reads cursor).lineno = lines.length
      ∧ ∀ count, List.Forall₂ (fun line item => TextOf line.1 line.2 item) (lines.take count)
          (cursor.eachLine count).1 := by
  intro lines reads cursor
  have hleft : cursor.LinesLeft lines := Cursor.linesLeft_ofSources hreads
  obtain ⟨hanswers, hlineno⟩ := Cursor.answers_readLineBytes hleft
  exact ⟨hanswers, hlineno.trans (Nat.zero_add _), fun count => Cursor.items_eachLine count hleft⟩

/-- A last line without a line end, a source without bytes, a line that is no text, and standard
input. -/
theorem lines_divided_by_source_unterminated :
    let sources : List (Source Script) :=
      [⟨"a", .scripted "a" (.ok ⟨[.bytes [120], .bytes [10, 121]], none⟩)⟩, ⟨"b", .memory "b" []⟩,
        ⟨"c", .memory "c" [255, 10, 122, 10]⟩, .standardInput]
    let world : World := { input := .ofBytes [119] }
    let lines := streamLines
      (contents world.files world.input.left (SourceList.ofList sources).remaining)
    let reads := List.replicate (lines.length + 1) (BlockingOperation.common .readLineBytes)
    let cursor := Cursor.ofSources world sources
    (∀ source ∈ sources, source.ReadsOut world.files)
      ∧ lines = [("a", [120, 10]), ("a", [121]), ("c", [255, 10]), ("c", [122, 10]), ("-", [119])]
      ∧ (Run.trace Cursor.serve reads cursor).map Prod.fst
        = lines.map (fun line => .ok (.bytes (some line.2))) ++ [.ok (.bytes none)]
      ∧ (Run.last Cursor.serve reads cursor).lineno = lines.length
      ∧ ∀ count, List.Forall₂ (fun line item => TextOf line.1 line.2 item) (lines.take count)
          (cursor.eachLine count).1 := by
  intro sources world lines reads cursor
  have hreads : ∀ source ∈ sources, source.ReadsOut world.files := by
    refine List.forall_mem_cons.2 ⟨⟨_, rfl, ⟨rfl, by simp⟩, .of_no_end (by simp) (by simp)⟩, ?_⟩
    refine List.forall_mem_cons.2 ⟨⟨_, rfl, ⟨rfl, by simp [Behaviour.serving]⟩, .of_plain []⟩, ?_⟩
    refine List.forall_mem_cons.2 ⟨⟨_, rfl, ⟨rfl, by simp [Behaviour.serving]⟩, .of_plain _⟩, ?_⟩
    exact List.forall_mem_singleton.2 ⟨.standardInput, rfl, trivial⟩
  exact ⟨hreads, by decide, lines_divided_by_source world sources hreads⟩

end InputChain
