import InputChain.Proofs.Ending.Left
import InputChain.Proofs.Ending.Resumption

/-!
# Reading a stream out

A stream whose sources never fail can be read out by one read to the end, by reads of blocks or by
reads of lines. They give the same bytes just if no reader resumes: blocks and lines give what the
readers serve in front of their first ends, and over one that resumes a read to the end gives more.

* `RunsOut`: a read repeated to the end, and the bytes it gives in all.
* `ReadsOn`, `Cursor.readsOn_read`, `Cursor.readsOn_readLineBytes`: reads that give everything left.
* `RunsOut.cut`, `RunsOut.of_cut`: the cut readers are read out alike by what keeps every end.
* `Cursor.length_leftOf_cut`: a read to the end gives more if a reader resumes.
* `Cursor.readOut_iff`: sources that never fail are read out alike just if no reader resumes.
* **`ends_kept_iff`**: when the first end of every reader ends its source.
-/

namespace InputChain

/-! ## Reads repeated to the end -/

/-- Repeated until it says that the stream has ended, the read gives these bytes in all. -/
inductive RunsOut (read : Cursor Script → Except SourceError (Option Bytes) × Cursor Script) :
    Cursor Script → Bytes → Prop where
  | ended {cursor next : Cursor Script} (h : read cursor = (.ok none, next)) : RunsOut read cursor []
  | given {cursor next : Cursor Script} {got rest : Bytes} (h : read cursor = (.ok (some got), next))
      (hrest : RunsOut read next rest) : RunsOut read cursor (got ++ rest)

section RunsOut

variable {read : Cursor Script → Except SourceError (Option Bytes) × Cursor Script}
  {files : FileTree} {cursor : Cursor Script} {bytes : Bytes}

theorem RunsOut.unique {other : Bytes} (h : RunsOut read cursor bytes)
    (h' : RunsOut read cursor other) : bytes = other := by
  induction h generalizing other with
  | ended hread =>
    cases h' with
    | ended => rfl
    | given hread' => cases hread.symm.trans hread'
  | given hread _ ih =>
    cases h' with
    | ended hread' => cases hread.symm.trans hread'
    | given hread' hrest' =>
      cases hread.symm.trans hread'
      rw [ih hrest']

/-- A read takes some of what is left of every stream of unbroken readers, or says rightly that nothing
is. -/
def ReadsOn (files : FileTree)
    (read : Cursor Script → Except SourceError (Option Bytes) × Cursor Script) : Prop :=
  ∀ cursor : Cursor Script, cursor.Whole files →
    (∃ next, read cursor = (.ok none, next) ∧ cursor.left = [])
      ∨ ∃ got next, read cursor = (.ok (some got), next) ∧ got ≠ [] ∧ next.Whole files
        ∧ cursor.left = got ++ next.left

/-- Such a read, repeated to the end, gives everything left. -/
theorem ReadsOn.runsOut (hread : ReadsOn files read) (h : cursor.Whole files) :
    RunsOut read cursor cursor.left := by
  induction hlength : cursor.left.length using Nat.strongRecOn generalizing cursor with
  | ind length ih =>
    rcases hread cursor h with ⟨next, hended, hnil⟩ | ⟨got, next, hgiven, hgot, hnext, hleft⟩
    · rw [hnil]
      exact .ended hended
    · rw [hleft]
      refine .given hgiven (ih next.left.length ?_ hnext rfl)
      rw [← hlength, hleft, List.length_append]
      exact Nat.lt_add_of_pos_left (List.length_pos_iff.2 hgot)

section Cut

variable {Fits : Inlet Script → Prop}
  (hkeeps : ∀ {cursor : Cursor Script}, cursor.Over files Fits →
    Cursor.Keeps files Fits (read cursor) (read (cursor.cut files)))

include hkeeps

/-- What keeps every end reads the cut readers out alike. -/
theorem RunsOut.cut (h : cursor.Over files Fits) (hout : RunsOut read cursor bytes) :
    RunsOut read (cursor.cut files) bytes := by
  induction hout with
  | ended hread =>
    have hcut := (hkeeps h).eq
    rw [hread] at hcut
    exact .ended hcut
  | given hread _ ih =>
    have hstep := hkeeps h
    have hcut := hstep.eq
    have hover := hstep.fits
    rw [hread] at hcut hover
    exact .given hcut (ih hover)

theorem RunsOut.of_cut (h : cursor.Over files Fits) (hout : RunsOut read (cursor.cut files) bytes) :
    RunsOut read cursor bytes := by
  generalize hcursor : cursor.cut files = cut at hout
  induction hout generalizing cursor with
  | ended hread =>
    subst hcursor
    have hcut := (hkeeps h).eq.symm.trans hread
    exact .ended (Prod.ext (Prod.mk.inj hcut).1 rfl)
  | given hread _ ih =>
    subst hcursor
    have hcut := (hkeeps h).eq.symm.trans hread
    exact .given (Prod.ext (Prod.mk.inj hcut).1 rfl) (ih (hkeeps h).fits (Prod.mk.inj hcut).2)

end Cut

end RunsOut

namespace Cursor

variable {files : FileTree}

theorem readsOn_read {count : Nat} (hcount : count ≠ 0) : ReadsOn files (Cursor.read count) := by
  intro cursor h
  obtain ⟨hfault, hnext, hleft⟩ := @fronts_gather files cursor count h
  have hread : cursor.read count
      = (.ok (if (cursor.gather count).got.isEmpty then none else some (cursor.gather count).got),
          (cursor.gather count).next) := by
    rw [Cursor.read, if_neg hcount, Delivery.holdBack, hfault]
    rfl
  by_cases hgot : (cursor.gather count).got = []
  · exact Or.inl ⟨_, by rw [hread, hgot]; rfl, left_of_gather_nil hcount h hgot⟩
  · refine Or.inr ⟨_, _, ?_, hgot, hnext, hleft⟩
    rw [hread, if_neg (by simpa using hgot)]

theorem readsOn_readLineBytes : ReadsOn files Cursor.readLineBytes := by
  intro cursor h
  obtain ⟨hfault, hnext, hleft⟩ := fronts_readUnit (fun hreader => Inlet.fronts_readUntil hreader newline) h
  have hline : (cursor.readUnit (Inlet.readUntil newline)).orFault
      = (.ok (cursor.readUnit (Inlet.readUntil newline)).got,
          (cursor.readUnit (Inlet.readUntil newline)).next) := by
    rw [Delivery.orFault, hfault]
  by_cases hgot : (cursor.readUnit (Inlet.readUntil newline)).got = []
  · refine Or.inl ⟨_, by rw [readLineBytes, hline, hgot]; rfl, ?_⟩
    exact left_of_readUnit_nil (fun hreader => Inlet.fronts_readUntil hreader newline) h hgot
  · refine Or.inr ⟨_, (cursor.readUnit (Inlet.readUntil newline)).next.countLine, ?_, hgot,
      ⟨⟨hnext.fits.world, hnext.fits.active, hnext.fits.sources⟩, hnext.opens, hnext.pending⟩, hleft⟩
    rw [readLineBytes, hline]
    exact if_neg (by simpa using hgot)

end Cursor

/-! ## A read to the end gives more -/

/-- If a reader that never fails resumes, bytes are in hand at its first end, and more is behind it. -/
theorem Script.Unfailing.drain_of_resumes {script : Script} {last : Option UInt8}
    (h : script.Unfailing) (hresumes : script.resumesAfter last) :
    (last.isSome ∨ script.drain.got ≠ []) ∧ script.drain.next.drain.got ≠ [] := by
  obtain ⟨answers, thereafter⟩ := script
  induction answers generalizing last with
  | nil => cases hresumes
  | cons answer rest ih =>
    obtain ⟨content, rfl⟩ := h.2 answer List.mem_cons_self
    by_cases hcontent : content = []
    · subst hcontent
      cases last with
      | none => cases hresumes
      | some b =>
        have hpasses : passesEnd b ⟨rest, thereafter⟩ := hresumes
        have hgoes : goesOnThrough ⟨rest, thereafter⟩ := by
          rcases Bool.or_eq_true_iff.1 hpasses with hgoes | hgoes
          · exact hgoes
          · rw [goesOnThrough, h.tail.awake]
            exact (Bool.and_eq_true_iff.1 hgoes).2
        have hmore := drain_of_goesOnThrough hgoes
        rw [h.tail.drain.1] at hmore
        exact ⟨Or.inl rfl, hmore.resolve_right Bool.noConfusion⟩
    · rw [drain_bytes hcontent]
      rw [resumesAfter, resumesFrom, if_neg (by simpa using hcontent)] at hresumes
      refine ⟨Or.inr ?_, (ih h.tail hresumes).2⟩
      exact List.append_ne_nil_of_left_ne_nil hcontent _

/-- The reader never fails. -/
def Reader.Unfailing : Reader Script → Prop
  | .script answers => answers.Unfailing
  | .standardInput => True

/-- The source opens to a reader that never fails. -/
def Source.Unfailing (files : FileTree) (source : Source Script) : Prop :=
  ∃ reader, source.provider.opened files = .ok reader ∧ reader.Unfailing

namespace Cursor

variable {files : FileTree} {cursor : Cursor Script} {id : String} {reader : Reader Script}

/-- An open source is read through its first end, and on if it resumes. -/
theorem gatherRest_of_unfailing (hphase : cursor.phase = .active id [] reader)
    (hpending : cursor.pending = none) (h : reader.Unfailing) :
    ∃ extra, cursor.gatherRest
        = (cursor.withInlet id
            (Inlet.readRest ⟨[], reader, cursor.world.input⟩).next).close.gatherRest.after
          ((Inlet.readRest ⟨[], reader, cursor.world.input⟩).got ++ extra)
      ∧ (Inlet.resumes ⟨[], reader, cursor.world.input⟩ → extra ≠ []) := by
  generalize hreply : Inlet.readRest ⟨[], reader, cursor.world.input⟩ = reply
  cases reader with
  | standardInput =>
    have hspent : Inlet.Spent reply.next := by
      rw [← hreply]
      exact ⟨rfl, rfl, rfl⟩
    have hfault : reply.fault = none := by
      rw [← hreply]
      rfl
    refine ⟨[], ?_, fun hresumes => (nomatch hresumes)⟩
    rw [List.append_nil]
    by_cases hgot : reply.got = []
    · rw [gatherRest_of_end hpending hphase hreply hfault hgot, hgot]
      rfl
    · rw [gatherRest_of_more hpending hphase hreply hfault hgot, gatherRest_of_spent hpending hspent]
  | script script =>
    have hfault : reply.fault = none := by
      rw [← hreply]
      exact (Script.Unfailing.drain h).1
    by_cases hgot : reply.got = []
    · refine ⟨[], ?_, fun hresumes => ?_⟩
      · rw [gatherRest_of_end hpending hphase hreply hfault hgot, hgot]
        rfl
      · have hmore := (Script.Unfailing.drain_of_resumes h hresumes).1
        rw [← hreply] at hgot
        exact absurd hgot (hmore.resolve_left Bool.noConfusion)
    · have hnext : reply.next = ⟨[], .script script.drain.next, cursor.world.input⟩ := by
        rw [← hreply]
        rfl
      rw [gatherRest_of_more hpending hphase hreply hfault hgot, hnext]
      rcases @gatherRest_active
        (cursor.withInlet id ⟨[], .script script.drain.next, cursor.world.input⟩) id []
        script.drain.next rfl hpending with ⟨-, hfails⟩ | ⟨extra, hrest, hextra⟩
      · exact absurd (Script.Unfailing.drain h).2 hfails
      · refine ⟨extra, ?_, fun hresumes => ?_⟩
        · rw [hrest, Delivery.after_after]
        · exact hextra (Or.inl (Script.Unfailing.drain_of_resumes h hresumes).2)

/-- So is the next source, in front of what comes behind it. -/
theorem gatherRest_past {source : Source Script} {sources : SourceList Script}
    (hphase : cursor.phase = .idle) (hpending : cursor.pending = none)
    (hnext : cursor.sources.next? = some (source, sources))
    (hopen : source.provider.opened cursor.world.files = .ok reader) (h : reader.Unfailing) :
    ∃ behind : Cursor Script, ∃ extra, behind.phase = .idle ∧ behind.pending = none
      ∧ behind.world.files = cursor.world.files
      ∧ behind.world.input = (Inlet.readRest ⟨[], reader, cursor.world.input⟩).next.input
      ∧ behind.sources = sources
      ∧ cursor.gatherRest = behind.gatherRest.after
          ((Inlet.readRest ⟨[], reader, cursor.world.input⟩).got ++ extra)
      ∧ (Inlet.resumes ⟨[], reader, cursor.world.input⟩ → extra ≠ []) := by
  obtain ⟨extra, hrest, hextra⟩ := @gatherRest_of_unfailing
    (cursor.enter source.id reader sources) source.id reader rfl hpending h
  refine ⟨((cursor.enter source.id reader sources).withInlet source.id
    (Inlet.readRest ⟨[], reader, cursor.world.input⟩).next).close,
    extra, rfl, hpending, rfl, rfl, rfl, ?_, hextra⟩
  rw [gatherRest_of_opened hpending hphase hnext hopen]
  exact hrest

/-- The first end of a reader that never fails is where it is cut. -/
theorem readRest_cut_of_unfailing (h : reader.Unfailing) (input : StandardInput) :
    (Inlet.readRest ⟨[], reader.cut, input⟩).got = (Inlet.readRest ⟨[], reader, input⟩).got
      ∧ (Inlet.readRest ⟨[], reader.cut, input⟩).next.input
        = (Inlet.readRest ⟨[], reader, input⟩).next.input := by
  cases reader with
  | script script => exact ⟨Script.Unfailing.drain_cut h, rfl⟩
  | standardInput => exact ⟨rfl, rfl⟩

theorem resumes_of_opened {source : Source Script} (input : StandardInput)
    (hopen : source.provider.opened files = .ok reader) :
    Inlet.resumes ⟨[], reader, input⟩ = source.resumes files := by
  rw [Source.resumes, hopen]
  cases reader <;> rfl

/-- **A read to the end gives at least what the readers serve in front of their first ends**, and more
if one of them resumes. -/
theorem length_leftOf_cut (hphase : cursor.phase = .idle) (hpending : cursor.pending = none)
    (hworld : cursor.world.files = files) (h : ∀ source ∈ cursor.remaining, source.Unfailing files) :
    (leftOf files cursor.world.input (cursor.remaining.map (Source.cut files))).length
        ≤ cursor.gatherRest.got.length
      ∧ ((∃ source ∈ cursor.remaining, source.resumes files) →
          (leftOf files cursor.world.input (cursor.remaining.map (Source.cut files))).length
            < cursor.gatherRest.got.length) := by
  induction hlist : cursor.remaining generalizing cursor with
  | nil =>
    refine ⟨Nat.zero_le _, ?_⟩
    rintro ⟨source, hmem, -⟩
    cases hmem
  | cons source rest ih =>
    rw [hlist] at h
    obtain ⟨reader, hopen, hreader⟩ := h source List.mem_cons_self
    obtain ⟨list, hnext, hlater⟩ := SourceList.next?_of_remaining hlist
    have hopenCut : (source.cut files).provider.opened files = .ok reader.cut := by
      rw [Source.opened_cut, hopen]
      rfl
    obtain ⟨behind, extra, hidle, hnone, hfiles, hinput, hsources, hgather, hextra⟩ :=
      gatherRest_past hphase hpending hnext (hworld ▸ hopen) hreader
    have hremaining : behind.remaining = rest := by rw [remaining, hsources, hlater]
    have hlater : ∀ later ∈ behind.remaining, later.Unfailing files := fun later hmem =>
      h later (List.mem_cons_of_mem source (hremaining ▸ hmem))
    obtain ⟨hle, hlt⟩ := ih hidle hnone (hfiles.trans hworld) hlater hremaining
    obtain ⟨hgot, hinputCut⟩ := readRest_cut_of_unfailing hreader cursor.world.input
    rw [hinput] at hle hlt
    rw [hgather, List.map_cons, leftOf, hopenCut]
    simp only [hgot, hinputCut, Delivery.after, List.length_append]
    refine ⟨by omega, ?_⟩
    rintro ⟨given, hmem, hresumes⟩
    rcases List.mem_cons.1 hmem with rfl | hmem
    · rw [← resumes_of_opened cursor.world.input hopen] at hresumes
      have hpos := List.length_pos_iff.2 (hextra hresumes)
      omega
    · have hless := hlt ⟨given, hmem, hresumes⟩
      omega

/-- Cut at their first ends, sources that never fail are whole. -/
theorem whole_cut (hphase : cursor.phase = .idle) (hpending : cursor.pending = none)
    (hworld : cursor.world.files = files) (h : ∀ source ∈ cursor.remaining, source.Unfailing files) :
    (cursor.cut files).Whole files := by
  have hopens : ∀ source ∈ (cursor.cut files).remaining, ∃ reader,
      source.provider.opened files = .ok reader ∧ reader.Unbroken := by
    intro source hmem
    rw [cut, remaining_map] at hmem
    obtain ⟨given, hgiven, rfl⟩ := List.mem_map.1 hmem
    obtain ⟨reader, hopen, hreader⟩ := h given hgiven
    refine ⟨reader.cut, by rw [Source.opened_cut, hopen]; rfl, ?_⟩
    cases reader with
    | script script => exact Script.Unfailing.cut hreader
    | standardInput => trivial
  refine ⟨⟨hworld, fun hactive => ?_, fun source hmem reader hopen input => ?_⟩, ?_, hpending⟩
  · cases (phase_cut_idle hphase).symm.trans hactive
  · obtain ⟨given, hgiven, hunbroken⟩ := hopens source hmem
    cases hopen.symm.trans hgiven
    exact hunbroken
  · exact fun source hmem => (hopens source hmem).imp fun _ hgiven => hgiven.1

theorem got_of_readToEnd {bytes : Bytes} (h : cursor.readToEnd.1 = .ok bytes) :
    cursor.gatherRest.got = bytes := by
  rw [readToEnd, Delivery.holdBack] at h
  split at h
  · exact Except.ok.inj h
  · split at h
    · cases h
    · exact Except.ok.inj h

/-- **Sources that never fail are read out alike just if no reader resumes.** -/
theorem readOut_iff (hphase : cursor.phase = .idle) (hpending : cursor.pending = none)
    (hworld : cursor.world.files = files) (h : ∀ source ∈ cursor.remaining, source.Unfailing files) :
    (∃ bytes, cursor.readToEnd.1 = .ok bytes ∧ (∀ count ≠ 0, RunsOut (Cursor.read count) cursor bytes)
        ∧ RunsOut Cursor.readLineBytes cursor bytes)
      ↔ ∀ source ∈ cursor.remaining, source.resumes files = false := by
  have hwhole := whole_cut hphase hpending hworld h
  have hleft : (cursor.cut files).left
      = leftOf files cursor.world.input (cursor.remaining.map (Source.cut files)) := by
    rw [left_idle (phase_cut_idle hphase), ← hworld, ← remaining_map (Source.cut cursor.world.files) Reader.cut]
    rfl
  constructor
  · rintro ⟨bytes, hend, hblocks, -⟩ source hmem
    refine Bool.eq_false_iff.2 fun hresumes => ?_
    -- blocks never go on past an end, so they give what the cut readers do
    have hover : cursor.Over files (fun _ => True) :=
      ⟨hworld, fun _ => trivial, fun _ _ _ _ _ => trivial⟩
    have hcut := RunsOut.cut (fun h => keeps_read servedInBytes_of_all h 1) hover
      (hblocks 1 Nat.one_ne_zero)
    have hbytes := hcut.unique ((readsOn_read Nat.one_ne_zero).runsOut hwhole)
    have hless := (length_leftOf_cut hphase hpending hworld h).2 ⟨source, hmem, hresumes⟩
    rw [← hleft, ← hbytes, got_of_readToEnd hend] at hless
    exact Nat.lt_irrefl _ hless
  · intro hresumes
    have hover := Over.of_not_resumes hworld hphase hresumes
    refine ⟨(cursor.cut files).left, ?_, fun count hcount => ?_, ?_⟩
    · obtain ⟨hfault, hgot⟩ := gatherRest_of_whole hwhole
      have hrest : (cursor.cut files).readToEnd.1 = .ok (cursor.cut files).left := by
        rw [readToEnd, Delivery.holdBack, hfault, hgot]
      rw [(keeps_readToEnd hover).eq] at hrest
      exact hrest
    · exact RunsOut.of_cut (fun h => keeps_read servedInBytes_of_not_resumes h count) hover
        ((readsOn_read hcount).runsOut hwhole)
    · exact RunsOut.of_cut keeps_readLineBytes hover (readsOn_readLineBytes.runsOut hwhole)

end Cursor

/-- **The first end of every reader ends its source just if no reader resumes.** Then nothing that is
asked of a cursor shows more than it does over readers that have ended there for good: no byte and no
failure that a reader would serve after its first end is given. And of sources that never fail, one
read to the end, blocks and lines give the same bytes just if no reader resumes. -/
theorem ends_kept_iff (world : World) (list : SourceList Script) :
    ((∀ operations : List BlockingOperation,
        (Cursor.ofList world (list.map (Source.cut world.files))).observations operations
          = (Cursor.ofList world list).observations operations)
      ↔ ∀ source ∈ list.remaining, source.resumes world.files = false)
    ∧ ((∀ source ∈ list.remaining, source.Unfailing world.files) →
      ((∃ bytes, (Cursor.ofList world list).readToEnd.1 = .ok bytes
          ∧ (∀ count ≠ 0, RunsOut (Cursor.read count) (Cursor.ofList world list) bytes)
          ∧ RunsOut Cursor.readLineBytes (Cursor.ofList world list) bytes)
        ↔ ∀ source ∈ list.remaining, source.resumes world.files = false)) := by
  have hkept := @Cursor.indistinct_iff world.files (Cursor.ofList world list) rfl rfl rfl
  have hread := @Cursor.readOut_iff world.files (Cursor.ofList world list) rfl rfl rfl
  exact ⟨hkept, hread⟩

/-- A reader that answers with nothing once and has ended, and a text behind it. -/
theorem ends_kept_past_ended_reader :
    let list := SourceList.ofList [⟨"a", .scripted "a" (.ok ⟨[.bytes [97], .bytes []], none⟩)⟩,
      ⟨"b", .memory "b" [98]⟩]
    (∀ source ∈ list.remaining, source.Unfailing ({} : World).files)
      ∧ (∀ source ∈ list.remaining, source.resumes ({} : World).files = false)
      ∧ ∃ bytes, (Cursor.ofList {} list).readToEnd.1 = .ok bytes
          ∧ (∀ count ≠ 0, RunsOut (Cursor.read count) (Cursor.ofList {} list) bytes)
          ∧ RunsOut Cursor.readLineBytes (Cursor.ofList {} list) bytes := by
  intro list
  have hunfailing : ∀ source ∈ list.remaining, source.Unfailing ({} : World).files := by
    intro source hmem
    rcases List.mem_cons.1 hmem with rfl | hmem
    · exact ⟨_, rfl, rfl, by simp⟩
    · obtain rfl := List.mem_singleton.1 hmem
      exact ⟨_, rfl, rfl, by simp [Behaviour.serving]⟩
  have hresumes : ∀ source ∈ list.remaining, source.resumes ({} : World).files = false := by
    decide
  exact ⟨hunfailing, hresumes, ((ends_kept_iff {} list).2 hunfailing).2 hresumes⟩

/-- Behind its first end the reader still has a byte to give. A read to the end gives it, and so do
lines; blocks do not, and over the reader that has ended there nothing does. -/
theorem readToEnd_passes_first_end :
    let list := SourceList.ofList
      [⟨"a", .scripted "a" (.ok ⟨[.bytes [97], .bytes [], .bytes [98]], none⟩)⟩]
    let cursor := Cursor.ofList {} list
    let cut := Cursor.ofList {} (list.map (Source.cut ({} : World).files))
    cursor.readToEnd.1 = .ok [97, 98]
      ∧ cursor.readLineBytes.2.readLineBytes.1 = .ok (some [98])
      ∧ (cursor.read 5).1 = .ok (some [97]) ∧ ((cursor.read 5).2.read 5).1 = .ok none
      ∧ cut.readToEnd.1 = .ok [97] := by
  decide +kernel

end InputChain
