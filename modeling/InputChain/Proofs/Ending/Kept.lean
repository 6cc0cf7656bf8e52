import InputChain.Proofs.Ending.Mirrors
import InputChain.Proofs.Mapped

/-!
# Ends that are kept

A cursor over sources cut at their first ends does what the cursor over the sources themselves does,
as long as no read goes on past an end. Reads of single bytes, blocks and plain reads never do; reads
of lines and to the end do not unless a reader resumes.

* `Source.cut`, `Cursor.cut`: the source and the cursor whose readers have ended for good at their
  first ends.
* `Cursor.Over`: what is open and what will be opened is of some sort.
* `Cursor.crossing_cut`: one unit.
* `BlockingOperation.keepsEnds`, **`Cursor.serve_cut_of_keepsEnds`**: operations that keep every end.
* **`Cursor.serve_cut`**: every operation, if no reader resumes.
-/

namespace InputChain

/-- The source whose reader has ended for good at its first end. -/
def Source.cut (files : FileTree) (source : Source Script) : Source Script :=
  match source.provider.opened files with
  | .ok (.script answers) => ⟨source.id, .scripted source.provider.name (.ok answers.cut)⟩
  | _ => source

theorem Source.id_cut (files : FileTree) (source : Source Script) :
    (source.cut files).id = source.id := by
  unfold cut
  split <;> rfl

theorem Source.opened_cut (files : FileTree) (source : Source Script) :
    (source.cut files).provider.opened files = (source.provider.opened files).map Reader.cut := by
  unfold cut
  split
  · rename_i answers hopen
    rw [hopen]
    rfl
  · rename_i hopen
    cases hreader : source.provider.opened files with
    | error error => rfl
    | ok reader =>
      cases reader with
      | script answers => exact absurd hreader (hopen answers)
      | standardInput => rfl

/-- The cursor over sources whose readers have ended for good at their first ends. -/
def Cursor.cut (files : FileTree) (cursor : Cursor Script) : Cursor Script :=
  cursor.map (Source.cut files) Reader.cut

/-- The delivery, seen from that cursor. -/
def Delivery.cut (files : FileTree) (delivery : Delivery Script) : Delivery Script :=
  delivery.map (Source.cut files) Reader.cut

namespace Cursor

variable {files : FileTree} {Fits : Inlet Script → Prop} {cursor : Cursor Script}

/-- The cursor works with these files, and what is open and what will be opened is of this sort. -/
structure Over (files : FileTree) (Fits : Inlet Script → Prop) (cursor : Cursor Script) : Prop where
  world : cursor.world.files = files
  active : ∀ {id held reader}, cursor.phase = .active id held reader →
    Fits ⟨held, reader, cursor.world.input⟩
  sources : ∀ source ∈ cursor.remaining, ∀ reader,
    source.provider.opened files = .ok reader → ∀ input, Fits ⟨[], reader, input⟩

theorem Over.withInlet (h : cursor.Over files Fits) {id : String} {inlet : Inlet Script}
    (hfits : Fits inlet) : (cursor.withInlet id inlet).Over files Fits where
  world := h.world
  active hactive := by
    cases hactive
    exact hfits
  sources := h.sources

theorem Over.close (h : cursor.Over files Fits) : cursor.close.Over files Fits :=
  ⟨h.world, fun hactive => (nomatch hactive), h.sources⟩

section Idle

variable {source : Source Script} {rest : SourceList Script}
  (hremaining : cursor.remaining = source :: rest.remaining)

include hremaining

theorem Over.enter (h : cursor.Over files Fits) {reader : Reader Script}
    (hopen : source.provider.opened files = .ok reader) :
    (cursor.enter source.id reader rest).Over files Fits where
  world := h.world
  active hactive := by
    cases hactive
    exact h.sources source (hremaining ▸ List.mem_cons_self) reader hopen _
  sources given hgiven := h.sources given (hremaining ▸ List.mem_cons_of_mem _ hgiven)

theorem Over.refuse (h : cursor.Over files Fits) (hphase : cursor.phase = .idle) :
    (cursor.refuse rest).Over files Fits where
  world := h.world
  active hactive := by cases hphase.symm.trans hactive
  sources given hgiven := h.sources given (hremaining ▸ List.mem_cons_of_mem _ hgiven)

end Idle

theorem phase_cut_active {id : String} {held : Bytes} {reader : Reader Script}
    (hphase : cursor.phase = .active id held reader) :
    (cursor.cut files).phase = .active id held reader.cut :=
  phase_map hphase

theorem phase_cut_idle (hphase : cursor.phase = .idle) : (cursor.cut files).phase = .idle :=
  phase_map hphase

theorem phase_cut_exhausted (hphase : cursor.phase = .exhausted) :
    (cursor.cut files).phase = .exhausted :=
  phase_map hphase

theorem next?_cut {source : Source Script} {rest : SourceList Script}
    (hnext : cursor.sources.next? = some (source, rest)) :
    (cursor.cut files).sources.next?
      = some (source.cut files, rest.map (Source.cut files)) :=
  next?_map_some hnext

theorem opened_cut {source : Source Script} {result : Except IoError (Reader Script)}
    (hworld : cursor.world.files = files)
    (hopen : source.provider.opened cursor.world.files = result) :
    (source.cut files).provider.opened (cursor.cut files).world.files
      = result.map Reader.cut := by
  subst hworld
  rw [← hopen]
  exact source.opened_cut cursor.world.files

/-- A closed source leaves nothing but what it took of standard input. -/
theorem close_withInlet (id : String) {left right : Inlet Script} (h : left.input = right.input) :
    (cursor.withInlet id left).close = (cursor.withInlet id right).close := by
  simp only [close, withInlet, h]

/-! ## One unit -/

section Unit

variable {unit : Inlet Script → Reply (Inlet Script)} (hunit : Mirrors Fits unit)

include hunit

/-- **A unit is served alike over what the sources are cut to.** -/
theorem crossing_cut (h : cursor.Over files Fits) :
    (cursor.cut files).crossing unit = (cursor.crossing unit).cut files
      ∧ (cursor.crossing unit).next.Over files Fits := by
  fun_induction crossing unit cursor with
  | case1 cursor hphase =>
    have hphase' := @phase_cut_exhausted files cursor hphase
    exact ⟨crossing_of_exhausted hphase', h⟩
  | case2 cursor id held reader hphase reply cursor' error hfault =>
    have halike : reply.Alike Fits (unit ⟨held, reader.cut, cursor.world.input⟩) :=
      hunit _ (h.active hphase)
    obtain ⟨hnext, hfits⟩ := halike.next (Or.inr (by rw [hfault]; rfl))
    rw [crossing_of_fault (phase_cut_active hphase) rfl (halike.fault.trans hfault)]
    refine ⟨?_, h.withInlet hfits⟩
    exact Delivery.mk.injEq .. ▸ ⟨halike.got, rfl, congrArg ((cursor.cut files).withInlet id) hnext⟩
  | case3 cursor id held reader hphase reply cursor' hfault hgot _ ih =>
    have halike : reply.Alike Fits (unit ⟨held, reader.cut, cursor.world.input⟩) :=
      hunit _ (h.active hphase)
    have hgot' := halike.got.trans (List.isEmpty_iff.1 hgot)
    have hclosed : ((cursor.cut files).withInlet id
        (unit ⟨held, reader.cut, cursor.world.input⟩).next).close = cursor'.close.cut files := by
      rw [close_withInlet id halike.input]
      exact (cursor'.close_map (Source.cut files) Reader.cut).symm
    rw [crossing_of_end (phase_cut_active hphase) rfl (halike.fault.trans hfault) hgot']
    exact hclosed ▸ ih ⟨h.world, fun hactive => (by cases hactive), h.sources⟩
  | case4 cursor id held reader hphase reply cursor' hfault hgot =>
    have halike : reply.Alike Fits (unit ⟨held, reader.cut, cursor.world.input⟩) :=
      hunit _ (h.active hphase)
    have hsome : reply.got ≠ [] := fun hnil => hgot (List.isEmpty_iff.2 hnil)
    obtain ⟨hnext, hfits⟩ := halike.next (Or.inl hsome)
    rw [crossing_of_got (phase_cut_active hphase) rfl (halike.fault.trans hfault)
      (fun hnil => hsome (halike.got.symm.trans hnil))]
    refine ⟨?_, h.withInlet hfits⟩
    exact Delivery.mk.injEq .. ▸ ⟨halike.got, rfl, congrArg ((cursor.cut files).withInlet id) hnext⟩
  | case5 cursor hphase hnext =>
    have hnext' : (cursor.cut files).sources.next? = none := next?_map_none hnext
    rw [crossing_of_no_source (phase_cut_idle hphase) hnext']
    exact ⟨rfl, h.world, fun hactive => (by cases hactive), h.sources⟩
  | case6 cursor hphase source rest hnext error hopen =>
    have hopen' := opened_cut h.world hopen
    rw [crossing_of_refused (phase_cut_idle hphase) (next?_cut hnext) hopen',
      Source.id_cut]
    refine ⟨?_, h.refuse (SourceList.remaining_next? hnext) hphase⟩
    exact congrArg (Delivery.mk _ _) (refuse_map ..).symm
  | case7 cursor hphase source rest hnext reader hopen _ ih =>
    have hopen' := opened_cut h.world hopen
    have henter : (cursor.cut files).enter source.id reader.cut (rest.map (Source.cut files))
        = (cursor.enter source.id reader rest).cut files := (enter_map ..).symm
    rw [crossing_of_opened (phase_cut_idle hphase) (next?_cut hnext) hopen',
      Source.id_cut, henter]
    exact ih (h.enter (SourceList.remaining_next? hnext) (h.world ▸ hopen))

theorem readUnit_cut (h : cursor.Over files Fits) :
    (cursor.cut files).readUnit unit = (cursor.readUnit unit).cut files
      ∧ (cursor.readUnit unit).next.Over files Fits := by
  have hpending' : (cursor.cut files).pending = cursor.pending := rfl
  unfold readUnit
  rw [hpending']
  cases hpending : cursor.pending with
  | none => exact crossing_cut hunit h
  | some error => exact ⟨rfl, h.world, h.active, h.sources⟩

end Unit

/-! ## Operations that keep every end -/

theorem gather_cut (hunit : ∀ count, Mirrors Fits (Inlet.takeUpTo count)) {count : Nat}
    (h : cursor.Over files Fits) :
    (cursor.cut files).gather count = (cursor.gather count).cut files
      ∧ (cursor.gather count).next.Over files Fits := by
  fun_induction gather count cursor with
  | case1 cursor => exact ⟨gather_zero _, h⟩
  | case2 count cursor hcount delivery hgot =>
    obtain ⟨hread, hover⟩ := readUnit_cut (hunit count) h
    have hgot' : ((cursor.cut files).readUnit (Inlet.takeUpTo count)).got = [] := by
      rw [hread]
      exact hgot
    exact ⟨(gather_of_nil hcount hgot').trans hread, hover⟩
  | case3 count cursor hcount delivery hgot _ ih =>
    obtain ⟨hread, hover⟩ := readUnit_cut (hunit count) h
    have hgot' : ((cursor.cut files).readUnit (Inlet.takeUpTo count)).got ≠ [] := by
      rw [hread]
      exact hgot
    obtain ⟨hrest, hlast⟩ := ih hover
    refine ⟨?_, hlast⟩
    rw [gather_of_got hcount hgot', hread]
    exact congrArg (Delivery.after delivery.got) hrest

/-- An answer and the cursor behind it are the same over what the sources are cut to, and the cursor
goes on over sources of this sort. -/
structure Keeps {ρ : Type} (files : FileTree) (Fits : Inlet Script → Prop)
    (step stepCut : ρ × Cursor Script) : Prop where
  eq : stepCut = step.map id (Cursor.cut files)
  fits : step.2.Over files Fits

theorem Keeps.map {ρ π : Type} {step stepCut : ρ × Cursor Script} (h : Keeps files Fits step stepCut)
    (answer : ρ → π) : Keeps files Fits (step.map answer id) (stepCut.map answer id) where
  eq := by rw [h.eq]; rfl
  fits := h.fits

theorem keeps_holdBack {delivery : Delivery Script} (h : delivery.next.Over files Fits) :
    Keeps files Fits delivery.holdBack (delivery.cut files).holdBack where
  eq := (delivery.holdBack_map (Source.cut files) Reader.cut).symm
  fits := by
    unfold Delivery.holdBack
    split
    · exact h
    · split
      · exact h
      · exact ⟨h.world, h.active, h.sources⟩

theorem keeps_orFault {delivery : Delivery Script} (h : delivery.next.Over files Fits) :
    Keeps files Fits delivery.orFault (delivery.cut files).orFault where
  eq := (delivery.orFault_map (Source.cut files) Reader.cut).symm
  fits := by
    unfold Delivery.orFault
    split <;> exact h

theorem keeps_answer {delivery : Delivery Script} (h : delivery.next.Over files Fits) :
    Keeps files Fits delivery.answer (delivery.cut files).answer where
  eq := by
    obtain ⟨got, _ | error, next⟩ := delivery <;> rfl
  fits := by
    unfold Delivery.answer
    split <;> exact h

end Cursor

/-- The inlets of this sort serve what is read in bytes and blocks alike. -/
structure ServedInBytes (Fits : Inlet Script → Prop) : Prop where
  takeUpTo : ∀ count, Mirrors Fits (Inlet.takeUpTo count)
  read : ∀ room, room ≠ 0 → Mirrors Fits (Inlet.read room)
  fill : Mirrors Fits Inlet.fill
  consume : ∀ inlet count, Fits inlet → Fits (inlet.consume count)

/-- Every inlet does. -/
theorem servedInBytes_of_all : ServedInBytes fun _ => True where
  takeUpTo := Inlet.mirrors_takeUpTo
  read room _ := Inlet.mirrors_read room
  fill := Inlet.mirrors_fill
  consume _ _ _ := trivial

/-- The inlets that do not resume do, and still do not. -/
theorem servedInBytes_of_not_resumes : ServedInBytes (Inlet.resumes · = false) where
  takeUpTo count := (Inlet.mirrors_takeUpTo count).of_kept Inlet.resumes_takeUpTo
  read room hroom := (Inlet.mirrors_read room).of_kept (Inlet.resumes_read hroom)
  fill := Inlet.mirrors_fill.of_kept fun h hread => (Inlet.resumes_fill hread).trans h
  consume _ count := Inlet.resumes_of_suffix (List.drop_suffix count _)

/-- Whether an operation never goes on past an end: it does if it reads lines or to the end. -/
def BlockingOperation.keepsEnds : BlockingOperation → Bool
  | .common (.read (some _)) => true
  | .common .readByte => true
  | .common .skip => true
  | .common _ => false
  | .readLines => false
  | .nextLine => false
  | _ => true

namespace Cursor

variable {files : FileTree} {Fits : Inlet Script → Prop} {cursor : Cursor Script}

theorem keeps_skip {ρ : Type} (answer : ρ) (h : cursor.Over files Fits) :
    Keeps files Fits (answer, cursor.skip) (answer, (cursor.cut files).skip) where
  eq := Prod.ext rfl (cursor.skip_map (Source.cut files) Reader.cut).symm
  fits := by
    show cursor.skip.Over files Fits
    unfold skip
    split
    · exact h.close
    · exact h

section InBytes

variable (hserved : ServedInBytes Fits) (h : cursor.Over files Fits)

include hserved h

theorem keeps_read (count : Nat) :
    Keeps files Fits (cursor.read count) ((cursor.cut files).read count) := by
  by_cases hcount : count = 0
  · subst hcount
    exact ⟨rfl, h⟩
  · obtain ⟨hgather, hover⟩ := @gather_cut files Fits cursor hserved.takeUpTo count h
    rw [Cursor.read, if_neg hcount, Cursor.read, if_neg hcount, hgather]
    exact (keeps_holdBack hover).map _

theorem keeps_consume {ρ : Type} (answer : ρ) (count : Nat) :
    Keeps files Fits (answer, Seamless.consume count cursor)
      (answer, Seamless.consume count (cursor.cut files)) := by
  unfold Seamless.consume
  cases hphase : cursor.phase with
  | active id held reader =>
    rw [phase_cut_active hphase]
    refine ⟨rfl, h.world, fun hactive => ?_, h.sources⟩
    cases hactive
    exact hserved.consume _ count (h.active hphase)
  | idle =>
    rw [phase_cut_idle hphase]
    exact ⟨rfl, h⟩
  | exhausted =>
    have hphase' := @phase_cut_exhausted files cursor hphase
    rw [hphase']
    exact ⟨rfl, h⟩

/-- **What is read in bytes and blocks keeps every end**, whatever the readers do. -/
theorem serve_cut_of_keepsEnds {operation : BlockingOperation} (hkeeps : operation.keepsEnds) :
    Keeps files Fits (cursor.serve operation) ((cursor.cut files).serve operation) := by
  match operation with
  | .common (.read (some count)) => exact ((keeps_read hserved h count).map _).map _
  | .common .readByte =>
    obtain ⟨hread, hover⟩ := readUnit_cut (hserved.takeUpTo 1) h
    have horFault := keeps_orFault hover
    rw [← hread] at horFault
    exact ((horFault.map _).map _).map _
  | .common .skip => exact keeps_skip _ h
  | .setLineno lineno => exact ⟨rfl, h.world, h.active, h.sources⟩
  | .plainRead room =>
    by_cases hroom : room = 0
    · subst hroom
      exact ⟨rfl, h⟩
    · obtain ⟨hread, hover⟩ := readUnit_cut (hserved.read room hroom) h
      rw [serve, serve, Seamless.read, if_neg hroom, Seamless.read, if_neg hroom, hread]
      exact keeps_answer hover
  | .fill =>
    obtain ⟨hread, hover⟩ := readUnit_cut hserved.fill h
    rw [serve, serve, Seamless.fill, Seamless.fill, hread]
    exact keeps_answer hover
  | .consume count => exact keeps_consume hserved h _ count

end InBytes

/-! ## Operations that go on past no end if no reader resumes -/

section NotResuming

variable (h : cursor.Over files (Inlet.resumes · = false))

include h

/-- The unit of a line, bytes in front of a failure being lost. -/
theorem keeps_line :
    Keeps files (Inlet.resumes · = false)
      (cursor.readUnit (Inlet.readUntil newline)).orFault
      ((cursor.cut files).readUnit (Inlet.readUntil newline)).orFault := by
  obtain ⟨hread, hover⟩ := readUnit_cut Inlet.mirrors_readUntil h
  rw [hread]
  exact keeps_orFault hover

theorem keeps_readLineBytes :
    Keeps files (Inlet.resumes · = false) cursor.readLineBytes
      (cursor.cut files).readLineBytes := by
  have hline := keeps_line h
  unfold readLineBytes
  rw [hline.eq]
  have hover := hline.fits
  generalize (cursor.readUnit (Inlet.readUntil newline)).orFault = step at hover ⊢
  obtain ⟨_ | line, next⟩ := step
  · exact ⟨rfl, hover⟩
  · cases line with
    | nil => exact ⟨rfl, hover⟩
    | cons b rest => exact ⟨rfl, hover.world, hover.active, hover.sources⟩

theorem keeps_readLine :
    Keeps files (Inlet.resumes · = false) cursor.readLine (cursor.cut files).readLine := by
  have hline := keeps_line h
  rw [readLine_eq_decoding, readLine_eq_decoding, hline.eq]
  have hover := hline.fits
  generalize (cursor.readUnit (Inlet.readUntil newline)).orFault = step at hover ⊢
  obtain ⟨_ | line, next⟩ := step
  · exact ⟨rfl, hover⟩
  · cases line with
    | nil => exact ⟨rfl, hover⟩
    | cons b rest =>
      have hid : (next.cut files).currentId? = next.currentId? :=
        next.currentId?_map (Source.cut files) Reader.cut
      simp only [Prod.map, id, List.isEmpty_cons, Bool.false_eq_true, if_false, hid]
      cases Utf8.decode (b :: rest) with
      | ok text => exact ⟨rfl, hover.world, hover.active, hover.sources⟩
      | error fault => exact ⟨rfl, hover⟩

theorem keeps_eachLine (count : Nat) :
    Keeps files (Inlet.resumes · = false) (cursor.eachLine count)
      ((cursor.cut files).eachLine count) := by
  induction count generalizing cursor with
  | zero => exact ⟨rfl, h⟩
  | succ count ih =>
    have hline := keeps_readLine h
    unfold eachLine
    rw [hline.eq]
    have hover := hline.fits
    generalize cursor.readLine = step at hover ⊢
    obtain ⟨_ | _ | text, next⟩ := step
    · exact (ih hover).map _
    · exact ⟨rfl, hover⟩
    · exact (ih hover).map _

theorem keeps_readLines :
    Keeps files (Inlet.resumes · = false) cursor.readLines (cursor.cut files).readLines := by
  fun_induction readLines cursor with
  | case1 cursor error next hread =>
    have hline := keeps_readLine h
    rw [hread] at hline
    exact ⟨readLines_of_error hline.eq, hline.fits⟩
  | case2 cursor next hread =>
    have hline := keeps_readLine h
    rw [hread] at hline
    exact ⟨readLines_of_end hline.eq, hline.fits⟩
  | case3 cursor text next hread _ rest last hrest ih =>
    have hline := keeps_readLine h
    rw [hread] at hline
    rw [readLines_of_line hline.eq]
    have hlines := (ih hline.fits).map (Except.map (text :: ·))
    rw [hrest] at hlines
    exact hlines

omit h in
/-- A source of which nothing more is to be had is closed. -/
theorem gatherRest_of_spent {id : String} {inlet : Inlet Script} (hpending : cursor.pending = none)
    (hspent : inlet.Spent) :
    (cursor.withInlet id inlet).gatherRest = (cursor.withInlet id inlet).close.gatherRest := by
  obtain ⟨hgot, hfault, hinput⟩ := hspent
  have hclosed := @gatherRest_of_end (cursor.withInlet id inlet) hpending id _ _ rfl _ rfl hfault hgot
  rw [hclosed]
  exact congrArg gatherRest (close_withInlet id hinput)

/-- A read to the end is served alike over what the sources are cut to, and goes on over readers that do
not resume. -/
def RestKept (files : FileTree) (cursor : Cursor Script) : Prop :=
  (cursor.cut files).gatherRest = cursor.gatherRest.cut files
    ∧ cursor.gatherRest.next.Over files (Inlet.resumes · = false)

/-- An open source is read to its end alike if what comes behind it is. -/
theorem restKept_of_active {id : String} {held : Bytes} {reader : Reader Script}
    (hpending : cursor.pending = none) (hphase : cursor.phase = .active id held reader)
    (hbehind : ∀ inlet : Inlet Script, RestKept files (cursor.withInlet id inlet).close) :
    RestKept files cursor := by
  have hpending' : (cursor.cut files).pending = none := hpending
  have hphase' := @phase_cut_active files cursor id held reader hphase
  obtain ⟨hgot, hfault, hinput, hfailed, hspent⟩ := Inlet.readRest_cut (h.active hphase)
  generalize hreply : Inlet.readRest ⟨held, reader, cursor.world.input⟩ = reply at *
  generalize hreply' : (Inlet.cut ⟨held, reader, cursor.world.input⟩).readRest = reply' at *
  have hclosed : ((cursor.cut files).withInlet id reply'.next).close
      = (cursor.withInlet id reply.next).close.cut files := by
    rw [close_withInlet id hinput]
    exact ((cursor.withInlet id reply.next).close_map (Source.cut files) Reader.cut).symm
  obtain ⟨hrest, hlast⟩ := hbehind reply.next
  unfold RestKept
  cases hfault' : reply.fault with
  | some error =>
    obtain ⟨hnext, hresumes⟩ := hfailed (by rw [hfault']; rfl)
    rw [gatherRest_of_fault hpending hphase hreply hfault',
      gatherRest_of_fault hpending' hphase' hreply' (hfault.trans hfault')]
    refine ⟨?_, h.withInlet hresumes⟩
    exact Delivery.mk.injEq .. ▸ ⟨hgot, rfl, congrArg ((cursor.cut files).withInlet id) hnext⟩
  | none =>
    by_cases hnil : reply.got = []
    · rw [gatherRest_of_end hpending hphase hreply hfault' hnil,
        gatherRest_of_end hpending' hphase' hreply' (hfault.trans hfault') (hgot.trans hnil),
        hclosed]
      exact ⟨hrest, hlast⟩
    · obtain ⟨hdone, hdone'⟩ := hspent hfault' hnil
      rw [gatherRest_of_more hpending hphase hreply hfault' hnil,
        gatherRest_of_more hpending' hphase' hreply' (hfault.trans hfault')
          (fun h => hnil (hgot.symm.trans h)),
        gatherRest_of_spent hpending hdone, gatherRest_of_spent hpending' hdone', hclosed, hrest,
        hgot]
      exact ⟨rfl, hlast⟩

/-- With no source open, the stream is read to its end alike if it is from the next source on. -/
theorem restKept_of_idle (hpending : cursor.pending = none) (hphase : cursor.phase = .idle)
    (hnext : ∀ source reader rest, cursor.sources.next? = some (source, rest) →
      source.provider.opened files = .ok reader →
        RestKept files (cursor.enter source.id reader rest)) : RestKept files cursor := by
  have hpending' : (cursor.cut files).pending = none := hpending
  have hphase' := @phase_cut_idle files cursor hphase
  unfold RestKept
  cases hlist : cursor.sources.next? with
  | none =>
    have hlist' : (cursor.cut files).sources.next? = none := next?_map_none hlist
    rw [gatherRest_of_no_source hpending hphase hlist,
      gatherRest_of_no_source hpending' hphase' hlist']
    exact ⟨rfl, h.world, fun hactive => (nomatch hactive), h.sources⟩
  | some next =>
    obtain ⟨source, rest⟩ := next
    cases hopen : source.provider.opened cursor.world.files with
    | error error =>
      rw [gatherRest_of_refused hpending hphase hlist hopen,
        gatherRest_of_refused hpending' hphase' (next?_cut hlist) (opened_cut h.world hopen),
        Source.id_cut]
      refine ⟨?_, h.refuse (SourceList.remaining_next? hlist) hphase⟩
      exact congrArg (Delivery.mk _ _) (refuse_map ..).symm
    | ok reader =>
      have henter : (cursor.cut files).enter source.id reader.cut (rest.map (Source.cut files))
          = (cursor.enter source.id reader rest).cut files := (enter_map ..).symm
      rw [gatherRest_of_opened hpending hphase hlist hopen,
        gatherRest_of_opened hpending' hphase' (next?_cut hlist) (opened_cut h.world hopen),
        Source.id_cut, henter]
      exact hnext source reader rest hlist (h.world ▸ hopen)

/-- **A stream is read to its end alike unless a reader resumes.** -/
theorem gatherRest_cut (hpending : cursor.pending = none) : RestKept files cursor := by
  -- every way on closes the open source or opens the next
  induction hcrossings : cursor.crossings using Nat.strongRecOn generalizing cursor with
  | ind crossings ih =>
    subst hcrossings
    match hphase : cursor.phase with
    | .exhausted =>
      have hpending' : (cursor.cut files).pending = none := hpending
      have hphase' := @phase_cut_exhausted files cursor hphase
      rw [RestKept, gatherRest_of_exhausted hpending hphase,
        gatherRest_of_exhausted hpending' hphase']
      exact ⟨rfl, h⟩
    | .active id held reader =>
      refine restKept_of_active h hpending hphase fun inlet => ?_
      refine ih _ ?_ ⟨h.world, fun hactive => (nomatch hactive), h.sources⟩ hpending rfl
      simp only [Cursor.crossings, Cursor.close, withInlet, remaining, hphase]
      omega
    | .idle =>
      refine restKept_of_idle h hpending hphase fun source reader rest hnext hopen => ?_
      have hremaining : cursor.remaining = source :: rest.remaining :=
        SourceList.remaining_next? hnext
      refine ih _ ?_ (h.enter hremaining hopen) hpending rfl
      have hlength := congrArg List.length hremaining
      simp only [remaining, List.length_cons] at hlength
      simp only [Cursor.crossings, Cursor.enter, remaining, hphase]
      omega

theorem keeps_readToEnd :
    Keeps files (Inlet.resumes · = false) cursor.readToEnd (cursor.cut files).readToEnd := by
  have hgather : RestKept files cursor := by
    cases hpending : cursor.pending with
    | none => exact gatherRest_cut h hpending
    | some error =>
      have hpending' : (cursor.cut files).pending = some error := hpending
      rw [RestKept, gatherRest_of_pending hpending, gatherRest_of_pending hpending']
      exact ⟨rfl, h.world, h.active, h.sources⟩
  rw [readToEnd, readToEnd, hgather.1]
  exact keeps_holdBack hgather.2

/-- **Every operation keeps every end if no reader resumes.** -/
theorem serve_cut (operation : BlockingOperation) :
    Keeps files (Inlet.resumes · = false) (cursor.serve operation)
      ((cursor.cut files).serve operation) := by
  cases hkeeps : operation.keepsEnds with
  | true => exact serve_cut_of_keepsEnds servedInBytes_of_not_resumes h hkeeps
  | false =>
    match operation with
    | .common (.read none) => exact ((keeps_readToEnd h).map _).map _
    | .common .readToEnd => exact ((keeps_readToEnd h).map _).map _
    | .common .readLine => exact ((keeps_readLine h).map _).map _
    | .common .readLineBytes => exact ((keeps_readLineBytes h).map _).map _
    | .readLines =>
      rw [serve, serve]
      exact (keeps_readLines h).map _
    | .nextLine =>
      rw [serve, serve]
      exact (keeps_eachLine h 1).map _

end NotResuming

end Cursor

end InputChain
