import InputChain.Proofs.Answers
import InputChain.Proofs.Origin

/-!
# Whose data, whose failure

A reader of a stream wants to know which source gave what it reads. After an answer of one unit the
cursor tells: the open source is the entry that gave every byte of it. A failure names its source
itself, however long it was held, and a failure that was not held leaves the cursor where it happened.

* `SourceList.Raises`: the failures that an entry of the list can raise.
* `Cursor.Finds`, `Cursor.finds_crossing`: what a unit finds, at which entry and at which moment.
* `Cursor.ServedBy`: bytes that were all served by one entry, which is still the open one.
* `Cursor.RaisedAt`: a failure that an entry raised, where the cursor still stands.
* `Cursor.servedBy_serve`, `Cursor.servedBy_read`, `Cursor.raisedAt_serve`: data and failures of one
  operation.
* `Cursor.Accountable`: the invariant, which a failure that is held needs.
* **`data_and_failures_attributed`**: after every run.
-/

namespace InputChain

/-! ## What operations answer -/

/-- The unit that an operation reads, if it never reads more than one. -/
def BlockingOperation.unit? : BlockingOperation → Option (Inlet Script → Reply (Inlet Script))
  | .common .readByte => some (Inlet.takeUpTo 1)
  | .common .readLine => some (Inlet.readUntil newline)
  | .common .readLineBytes => some (Inlet.readUntil newline)
  | .nextLine => some (Inlet.readUntil newline)
  | .plainRead 0 => none
  | .plainRead room => some (Inlet.read room)
  | .fill => some Inlet.fill
  | _ => none

theorem BlockingOperation.asksForData_of_unit? {operation : BlockingOperation}
    {unit : Inlet Script → Reply (Inlet Script)} (h : operation.unit? = some unit) :
    operation.asksForData := by
  match operation with
  | .common .readByte | .common .readLine | .common .readLineBytes | .nextLine | .fill => rfl
  | .plainRead (room + 1) => rfl

theorem BlockingOperation.isUnit_of_unit? {operation : BlockingOperation}
    {unit : Inlet Script → Reply (Inlet Script)} (h : operation.unit? = some unit) :
    Inlet.IsUnit unit := by
  match operation with
  | .common .readByte => cases h; exact .takeUpTo Nat.one_ne_zero
  | .common .readLine | .common .readLineBytes | .nextLine => cases h; exact .readUntil newline
  | .plainRead (room + 1) => cases h; exact .read (Nat.succ_ne_zero room)
  | .fill => cases h; exact .fill

namespace Cursor

variable {cursor : Cursor Script}

/-- **An operation of one unit hands over all that the unit gave**, and stays where the unit was found. -/
theorem content_of_unit {operation : BlockingOperation} {unit : Inlet Script → Reply (Inlet Script)}
    (hunit : operation.unit? = some unit) {response : Response}
    (hanswer : (cursor.serve operation).1 = .ok response) (hgot : response.content ≠ []) :
    response.content = (cursor.readUnit unit).got
      ∧ (cursor.serve operation).2
        = { (cursor.readUnit unit).next with lineno := (cursor.serve operation).2.lineno } := by
  match operation with
  | .common .readByte =>
    cases hunit
    have hbound : (cursor.readUnit (Inlet.takeUpTo 1)).got.length ≤ 1 :=
      length_got_readUnit fun inlet => inlet.length_got_takeUpTo 1
    have hback := @Delivery.got_of_orFault (cursor.readUnit (Inlet.takeUpTo 1))
    rw [serve, perform, readByte] at hanswer ⊢
    generalize (cursor.readUnit (Inlet.takeUpTo 1)).orFault = step at hanswer hback ⊢
    obtain ⟨_ | got, next⟩ := step
    · cases hanswer
    · cases hanswer
      obtain ⟨hgot', rfl⟩ := hback rfl
      refine ⟨?_, rfl⟩
      rw [hgot'] at hbound ⊢
      exact toList_head?_of_length hbound
  | .common .readLine =>
    cases hunit
    have hline := @text_of_readLine cursor
    rw [serve, perform] at hanswer ⊢
    generalize cursor.readLine = step at hanswer hline ⊢
    obtain ⟨_ | _ | text, next⟩ := step
    · cases hanswer
    · cases hanswer
      exact absurd rfl hgot
    · cases hanswer
      obtain ⟨htext, rfl⟩ := hline rfl
      exact ⟨htext, rfl⟩
  | .common .readLineBytes =>
    cases hunit
    have hline := @line_of_readLineBytes cursor
    rw [serve, perform] at hanswer ⊢
    generalize cursor.readLineBytes = step at hanswer hline ⊢
    obtain ⟨_ | _ | line, next⟩ := step
    · cases hanswer
    · cases hanswer
      exact absurd rfl hgot
    · cases hanswer
      obtain ⟨hgiven, rfl⟩ := hline rfl
      exact ⟨hgiven, rfl⟩
  | .nextLine =>
    cases hunit
    have hline := @text_of_readLine cursor
    rw [serve, eachLine] at hanswer ⊢
    generalize cursor.readLine = step at hanswer hline ⊢
    obtain ⟨_ | _ | text, next⟩ := step
    · cases hanswer
      exact absurd rfl hgot
    · cases hanswer
      exact absurd rfl hgot
    · cases hanswer
      obtain ⟨htext, rfl⟩ := hline rfl
      exact ⟨htext, rfl⟩
  | .plainRead (room + 1) =>
    cases hunit
    rw [serve, Seamless.read, if_neg (Nat.succ_ne_zero room)] at hanswer ⊢
    obtain ⟨rfl, hnext⟩ := Delivery.got_of_answer hanswer
    rw [hnext]
    exact ⟨rfl, rfl⟩
  | .fill =>
    cases hunit
    rw [serve, Seamless.fill] at hanswer ⊢
    obtain ⟨rfl, hnext⟩ := Delivery.got_of_answer hanswer
    rw [hnext]
    exact ⟨rfl, rfl⟩

end Cursor

/-! ## The failures of an entry -/

/-- The entry at this index of the list raises the failure: it does not open in this world; a unit that
is read of it fails; or a line that it gives is not UTF-8. -/
inductive SourceList.Raises (list : SourceList Script) (world : World) (index : Nat) :
    SourceError → Prop where
  | opening {source : Source Script} {error : IoError} (hentry : list.sources[index]? = some source)
      (hopen : source.provider.opened world.files = .error error) :
      Raises list world index (.ofOpening source.id error)
  | reading {source : Source Script} {inlet : Inlet Script}
      {unit : Inlet Script → Reply (Inlet Script)} {error : IoError}
      (hinlet : list.HasInlet world index source inlet) (hunit : Inlet.IsUnit unit)
      (hfault : (unit inlet).fault = some error) : Raises list world index (.ofReading source.id error)
  | decoding {source : Source Script} {inlet : Inlet Script} {fault : Utf8.Fault}
      (hinlet : list.HasInlet world index source inlet)
      (hline : (inlet.readUntil newline).fault = none)
      (hdecode : Utf8.decode (inlet.readUntil newline).got = .error fault) :
      Raises list world index (.ofReading source.id (.malformed fault))

namespace Cursor

/-- The entry at some index raised the failure, and the cursor still stands there: with no source open
if it did not open, else with that entry open. -/
def RaisedAt (list : SourceList Script) (world : World) (error : SourceError)
    (cursor : Cursor Script) : Prop :=
  ∃ index, list.Raises world index error ∧ cursor.sourceIndex? = some index
    ∧ cursor.currentId? = match error.stage with
      | .opening => none
      | _ => some error.target

/-- At some moment of the operation the entry at this index was open, and these bytes are all that the
unit gave of it then; after the operation it is still the open one. -/
structure ServedBy (list : SourceList Script) (world : World) (operation : BlockingOperation)
    (unit : Inlet Script → Reply (Inlet Script)) (cursor next : Cursor Script) (got : Bytes)
    (index : Nat) (source : Source Script) : Prop where
  moment : ∃ before held reader, ComesOf operation cursor before
    ∧ before.phase = .active source.id held reader
    ∧ list.HasInlet world index source ⟨held, reader, before.world.input⟩
    ∧ (unit ⟨held, reader, before.world.input⟩).got = got
  sourceIndex? : next.sourceIndex? = some index
  currentId? : next.currentId? = some source.id

/-! ## What a unit finds -/

section Finds

variable (list : SourceList Script) (world : World) (operation : BlockingOperation)
  (unit : Inlet Script → Reply (Inlet Script))

/-- What a unit finds from a cursor on: nothing, an entry that does not open, or an entry of which it is
read. -/
inductive Finds (cursor : Cursor Script) : Delivery Script → Prop where
  | nothing (next : Cursor Script) : Finds cursor ⟨[], none, next⟩
  | refused {index : Nat} {source : Source Script} {error : IoError} {next : Cursor Script}
      (hentry : list.sources[index]? = some source)
      (hopen : source.provider.opened world.files = .error error)
      (hindex : next.sourceIndex? = some index) (hclosed : next.currentId? = none) :
      Finds cursor ⟨[], some (.ofOpening source.id error), next⟩
  | reads {index : Nat} {source : Source Script} {held : Bytes} {reader : Reader Script}
      {before : Cursor Script} (hcomes : ComesOf operation cursor before)
      (hphase : before.phase = .active source.id held reader)
      (hindex : before.sourceIndex? = some index)
      (hinlet : list.HasInlet world index source ⟨held, reader, before.world.input⟩) :
      Finds cursor ⟨(unit ⟨held, reader, before.world.input⟩).got,
        (unit ⟨held, reader, before.world.input⟩).fault.map (.ofReading source.id),
        before.withInlet source.id (unit ⟨held, reader, before.world.input⟩).next⟩

end Finds

variable {list : SourceList Script} {world : World} {operation : BlockingOperation}
  {unit : Inlet Script → Reply (Inlet Script)} {cursor : Cursor Script} {delivery : Delivery Script}
  {error : SourceError}

theorem sourceIndex?_of_succ {index : Nat} (h : cursor.sources.position = index + 1) :
    cursor.sourceIndex? = some index := by
  unfold sourceIndex?
  rw [h]

theorem Finds.head {later : Cursor Script} (hcomes : ComesOf operation cursor later)
    (h : Finds list world operation unit later delivery) :
    Finds list world operation unit cursor delivery := by
  cases h with
  | nothing next => exact .nothing next
  | refused hentry hopen hindex hclosed => exact .refused hentry hopen hindex hclosed
  | reads hlater hphase hindex hinlet => exact .reads (hcomes.trans hlater) hphase hindex hinlet

theorem Finds.raisedAt (hunit : Inlet.IsUnit unit) (h : Finds list world operation unit cursor delivery)
    (hfault : delivery.fault = some error) : RaisedAt list world error delivery.next := by
  cases h with
  | nothing => cases hfault
  | refused hentry hopen hindex hclosed =>
    cases hfault
    exact ⟨_, .opening hentry hopen, hindex, hclosed⟩
  | reads _ _ hindex hinlet =>
    obtain ⟨given, hgiven, rfl⟩ := Option.map_eq_some_iff.1 hfault
    exact ⟨_, .reading hinlet hunit hgiven, hindex, rfl⟩

theorem Finds.servedBy (h : Finds list world operation unit cursor delivery)
    (hgot : delivery.got ≠ []) :
    ∃ index source, ServedBy list world operation unit cursor delivery.next delivery.got index source := by
  cases h with
  | nothing => exact absurd rfl hgot
  | refused => exact absurd rfl hgot
  | reads hcomes hphase hindex hinlet =>
    exact ⟨_, _, ⟨_, _, _, hcomes, hphase, hinlet, rfl⟩, hindex, rfl⟩

section Asks

variable (hasks : operation.asksForData)

include hasks

/-- **A unit is found at the entry that is open after it**, or at the one that has just failed to
open. -/
theorem finds_crossing (hunit : Inlet.IsUnit unit) (h : cursor.Anchored list world) :
    Finds list world operation unit cursor (cursor.crossing unit) := by
  fun_induction crossing unit cursor with
  | case1 cursor => exact .nothing cursor
  | case2 cursor id held reader hphase reply cursor' error =>
    rename_i hfault
    obtain ⟨index, source, -, hposition, rfl, hinlet⟩ := h.inlet hphase
    have hreads := @Finds.reads list world operation unit cursor index source held reader cursor .refl
      hphase (sourceIndex?_of_succ hposition) hinlet
    rwa [show (unit ⟨held, reader, cursor.world.input⟩).fault = some error from hfault] at hreads
  | case3 cursor id held reader hphase reply cursor' hfault hgot _ =>
    rename_i ih
    have hend := hunit.meetsEnd _ (List.isEmpty_iff.1 hgot) hfault
    exact .head (.single (.ends hasks hphase hend)) (ih (h.ends hend))
  | case4 cursor id held reader hphase reply cursor' hfault =>
    obtain ⟨index, source, -, hposition, rfl, hinlet⟩ := h.inlet hphase
    have hreads := @Finds.reads list world operation unit cursor index source held reader cursor .refl
      hphase (sourceIndex?_of_succ hposition) hinlet
    rwa [show (unit ⟨held, reader, cursor.world.input⟩).fault = none from hfault] at hreads
  | case5 => exact .nothing _
  | case6 cursor hphase source rest hnext error hopen =>
    refine .refused (h.next? hnext) (h.files ▸ hopen)
      (sourceIndex?_of_succ (SourceList.position_next? hnext)) ?_
    rw [currentId?, refuse, hphase]
  | case7 cursor hphase source rest hnext reader hopen _ ih =>
    exact .head (.single (.opens hasks hphase hnext hopen)) (ih (h.enter hnext hopen))

theorem finds_readUnit (hunit : Inlet.IsUnit unit) (h : cursor.Anchored list world)
    (hpending : cursor.pending = none) :
    Finds list world operation unit cursor (cursor.readUnit unit) := by
  rw [readUnit_of_none hpending]
  exact finds_crossing hasks hunit h

/-! ## Several units -/

/-- Bytes gathered unit after unit: if they are all that were asked for, the last of them were served by
the entry that is then open. -/
theorem servedBy_gather (count : Nat) (hcount : count ≠ 0) (h : cursor.Anchored list world)
    (hpending : cursor.pending = none) (hall : (cursor.gather count).got.length = count) :
    ∃ front back room index source, (cursor.gather count).got = front ++ back ∧ back ≠ []
      ∧ ServedBy list world operation (Inlet.takeUpTo room) cursor (cursor.gather count).next back
          index source := by
  fun_induction gather count cursor with
  | case1 => exact absurd rfl hcount
  | case2 count cursor _ delivery hgot =>
    rw [hgot] at hall
    exact absurd hall.symm hcount
  | case3 count cursor _ delivery hgot _ ih =>
    have hunit : Inlet.IsUnit (Inlet.takeUpTo count) := .takeUpTo hcount
    by_cases hlast : count - delivery.got.length = 0
    · obtain ⟨index, source, hserved⟩ := (finds_readUnit hasks hunit h hpending).servedBy hgot
      rw [hlast, gather_zero]
      exact ⟨[], delivery.got, count, index, source, List.append_nil _, hgot, hserved⟩
    · have hrest : (delivery.next.gather (count - delivery.got.length)).got.length
          = count - delivery.got.length := by
        simp only [Delivery.after, List.length_append] at hall
        omega
      obtain ⟨front, back, room, index, source, hsplit, hback, hserved⟩ :=
        ih hlast (h.readUnit hunit) (pending_readUnit cursor) hrest
      obtain ⟨before, held, reader, hcomes, hmoment⟩ := hserved.moment
      refine ⟨delivery.got ++ front, back, room, index, source, ?_, hback,
        ⟨before, held, reader, (comesOf_readUnit hasks hunit).trans hcomes, hmoment⟩,
        hserved.sourceIndex?, hserved.currentId?⟩
      rw [List.append_assoc, ← hsplit]
      rfl

theorem raisedAt_gather (count : Nat) (h : cursor.Anchored list world)
    (hpending : cursor.pending = none) (hfault : (cursor.gather count).fault = some error) :
    RaisedAt list world error (cursor.gather count).next := by
  fun_induction gather count cursor with
  | case1 => cases hfault
  | case2 count cursor hcount delivery hgot =>
    exact (finds_readUnit hasks (.takeUpTo hcount) h hpending).raisedAt (.takeUpTo hcount) hfault
  | case3 count cursor hcount delivery hgot _ ih =>
    exact ih (h.readUnit (.takeUpTo hcount)) (pending_readUnit cursor) hfault

theorem raisedAt_gatherRest (h : cursor.Anchored list world) (hpending : cursor.pending = none)
    (hfault : cursor.gatherRest.fault = some error) :
    RaisedAt list world error cursor.gatherRest.next := by
  fun_induction gatherRest cursor with
  | case1 cursor delivery hsome =>
    exact (finds_readUnit hasks .readRest h hpending).raisedAt .readRest hfault
  | case2 cursor delivery hsome hgot =>
    exact (finds_readUnit hasks .readRest h hpending).raisedAt .readRest hfault
  | case3 cursor delivery hsome hgot _ ih =>
    exact ih (h.readUnit .readRest) (pending_readUnit cursor) hfault

/-! ## Lines -/

/-- A line that cannot be given is a failure of the entry that is then open, or of the one that has just
failed to open. -/
theorem raisedAt_readLine (h : cursor.Anchored list world) (hpending : cursor.pending = none)
    (herror : cursor.readLine.1 = .error error) : RaisedAt list world error cursor.readLine.2 := by
  have hfinds := finds_readUnit hasks (.readUntil newline) h hpending
  cases hfault : (cursor.readUnit (Inlet.readUntil newline)).fault with
  | some given =>
    rw [readLine_of_fault hfault] at herror ⊢
    cases herror
    exact hfinds.raisedAt (.readUntil newline) hfault
  | none =>
    by_cases hgot : (cursor.readUnit (Inlet.readUntil newline)).got = []
    · rw [readLine_of_nil hfault hgot] at herror
      cases herror
    · cases hdecode : Utf8.decode (cursor.readUnit (Inlet.readUntil newline)).got with
      | ok text =>
        rw [readLine_of_text hfault hgot hdecode] at herror
        cases herror
      | error fault =>
        rw [readLine_of_malformed hfault hgot hdecode] at herror ⊢
        cases herror
        generalize cursor.readUnit (Inlet.readUntil newline) = delivery at hfinds hfault hgot hdecode ⊢
        cases hfinds with
        | nothing => exact absurd rfl hgot
        | refused => cases hfault
        | reads _ _ hindex hinlet =>
          exact ⟨_, .decoding hinlet (Option.map_eq_none_iff.1 hfault) hdecode, hindex, rfl⟩

theorem raisedAt_readLineBytes (h : cursor.Anchored list world) (hpending : cursor.pending = none)
    (herror : cursor.readLineBytes.1 = .error error) :
    RaisedAt list world error cursor.readLineBytes.2 := by
  have hfinds := finds_readUnit hasks (.readUntil newline) h hpending
  cases hfault : (cursor.readUnit (Inlet.readUntil newline)).fault with
  | some given =>
    rw [readLineBytes_of_fault hfault] at herror ⊢
    cases herror
    exact hfinds.raisedAt (.readUntil newline) hfault
  | none =>
    by_cases hgot : (cursor.readUnit (Inlet.readUntil newline)).got = []
    · rw [readLineBytes_of_nil hfault hgot] at herror
      cases herror
    · rw [readLineBytes_of_line hfault hgot] at herror
      cases herror

/-- Of several lines, the one that cannot be given is the failure reported. -/
theorem raisedAt_readLines (h : cursor.Anchored list world) (hpending : cursor.pending = none)
    (herror : cursor.readLines.1 = .error error) : RaisedAt list world error cursor.readLines.2 := by
  fun_induction readLines cursor with
  | case1 cursor given next hread =>
    cases herror
    have hline := @raisedAt_readLine list world operation cursor error hasks h hpending
    rw [hread] at hline
    exact hline rfl
  | case2 => cases herror
  | case3 cursor text next hread _ rest last hrest ih =>
    have hnext : next = cursor.readLine.2 := by rw [hread]
    have hrestError : rest = .error error := by
      cases rest with
      | error given => exact herror
      | ok texts => cases herror
    rw [hrest] at ih
    refine ih ?_ ?_ hrestError
    · rw [hnext]
      exact h.comesOf (comesOf_readLine hasks)
    · rw [hnext]
      exact pending_readLine cursor

/-! ## Operations -/

/-- **A failure that is reported was raised by an entry, and the cursor still stands there**, if no
failure was held. -/
theorem raisedAt_serve (h : cursor.Anchored list world) (hpending : cursor.pending = none)
    (hreports : reportsFailure (cursor.serve operation).1) :
    ∃ error, (cursor.serve operation).1 = operation.report error
      ∧ RaisedAt list world error (cursor.serve operation).2 := by
  match operation with
  | .common (.read (some count)) =>
    have hcount : count ≠ 0 := by simpa [BlockingOperation.asksForData] using hasks
    have hback := @Delivery.fault_of_holdBack (cursor.gather count)
    have hraised := fun error => @raisedAt_gather list world _ cursor error hasks count h hpending
    rw [serve, perform, read, if_neg hcount] at hreports ⊢
    generalize (cursor.gather count).holdBack = step at hreports hback ⊢
    obtain ⟨error | got, next⟩ := step
    · obtain ⟨hfault, rfl⟩ := hback rfl
      exact ⟨error, rfl, hraised error hfault⟩
    · cases hreports
  | .common (.read none) | .common .readToEnd =>
    have hback := @Delivery.fault_of_holdBack cursor.gatherRest
    have hraised := fun error => @raisedAt_gatherRest list world _ cursor error hasks h hpending
    rw [serve, perform, readToEnd] at hreports ⊢
    generalize cursor.gatherRest.holdBack = step at hreports hback ⊢
    obtain ⟨error | got, next⟩ := step
    · obtain ⟨hfault, rfl⟩ := hback rfl
      exact ⟨error, rfl, hraised error hfault⟩
    · cases hreports
  | .common .readByte =>
    have hunit : Inlet.IsUnit (Inlet.takeUpTo 1) := .takeUpTo Nat.one_ne_zero
    have hback := @Delivery.fault_of_orFault (cursor.readUnit (Inlet.takeUpTo 1))
    have hfinds := finds_readUnit hasks hunit h hpending
    rw [serve, perform, readByte] at hreports ⊢
    generalize (cursor.readUnit (Inlet.takeUpTo 1)).orFault = step at hreports hback ⊢
    obtain ⟨error | got, next⟩ := step
    · obtain ⟨hfault, rfl⟩ := hback rfl
      exact ⟨error, rfl, hfinds.raisedAt hunit hfault⟩
    · cases hreports
  | .common .readLine =>
    have hraised := fun error => @raisedAt_readLine list world _ cursor error hasks h hpending
    rw [serve, perform] at hreports ⊢
    generalize cursor.readLine = step at hreports hraised ⊢
    obtain ⟨error | found, next⟩ := step
    · exact ⟨error, rfl, hraised error rfl⟩
    · cases hreports
  | .common .readLineBytes =>
    have hraised := fun error => @raisedAt_readLineBytes list world _ cursor error hasks h hpending
    rw [serve, perform] at hreports ⊢
    generalize cursor.readLineBytes = step at hreports hraised ⊢
    obtain ⟨error | found, next⟩ := step
    · exact ⟨error, rfl, hraised error rfl⟩
    · cases hreports
  | .readLines =>
    have hraised := fun error => @raisedAt_readLines list world _ cursor error hasks h hpending
    rw [serve] at hreports ⊢
    generalize cursor.readLines = step at hreports hraised ⊢
    obtain ⟨error | texts, next⟩ := step
    · exact ⟨error, rfl, hraised error rfl⟩
    · cases hreports
  | .nextLine =>
    have hraised := fun error => @raisedAt_readLine list world _ cursor error hasks h hpending
    rw [serve, eachLine] at hreports ⊢
    generalize cursor.readLine = step at hreports hraised ⊢
    obtain ⟨error | _ | text, next⟩ := step
    · exact ⟨error, rfl, hraised error rfl⟩
    · cases hreports
    · cases hreports
  | .plainRead room =>
    have hroom : room ≠ 0 := by simpa [BlockingOperation.asksForData] using hasks
    rw [serve, Seamless.read, if_neg hroom] at hreports ⊢
    obtain ⟨error, hfault, hanswer⟩ := Delivery.fault_of_answer hreports
    rw [hanswer]
    exact ⟨error, rfl, (finds_readUnit hasks (.read hroom) h hpending).raisedAt (.read hroom) hfault⟩
  | .fill =>
    rw [serve, Seamless.fill] at hreports ⊢
    obtain ⟨error, hfault, hanswer⟩ := Delivery.fault_of_answer hreports
    rw [hanswer]
    exact ⟨error, rfl, (finds_readUnit hasks .fill h hpending).raisedAt .fill hfault⟩

end Asks

/-- **Data of one unit was all served by the entry that is open after it**, if no failure is held. -/
theorem servedBy_serve (hunit : operation.unit? = some unit) (h : cursor.Anchored list world)
    (hpending : cursor.pending = none) {response : Response}
    (hanswer : (cursor.serve operation).1 = .ok response) (hgot : response.content ≠ []) :
    ∃ index source, ServedBy list world operation unit cursor (cursor.serve operation).2
      response.content index source := by
  obtain ⟨hcontent, hnext⟩ := content_of_unit hunit hanswer hgot
  have hfinds := finds_readUnit (BlockingOperation.asksForData_of_unit? hunit)
    (BlockingOperation.isUnit_of_unit? hunit) h hpending
  obtain ⟨index, source, hserved⟩ := hfinds.servedBy (hcontent ▸ hgot)
  rw [hcontent, hnext]
  exact ⟨index, source, hserved.moment, hserved.sourceIndex?, hserved.currentId?⟩

/-- **The last byte of a full read was served by the entry that is open after it**, if no failure is
held. -/
theorem servedBy_read {count : Nat} (hcount : count ≠ 0) (h : cursor.Anchored list world)
    (hpending : cursor.pending = none) {got : Bytes}
    (hanswer : (cursor.serve (.common (.read (some count)))).1 = .ok (.bytes (some got)))
    (hall : got.length = count) :
    ∃ front back room index source, got = front ++ back ∧ back ≠ []
      ∧ ServedBy list world (.common (.read (some count))) (Inlet.takeUpTo room) cursor
          (cursor.serve (.common (.read (some count)))).2 back index source := by
  have hback := @Delivery.got_of_holdBack (cursor.gather count)
  have hserved := @servedBy_gather list world (.common (.read (some count))) cursor
    (by simpa [BlockingOperation.asksForData] using hcount) count hcount h hpending
  rw [serve, perform, read, if_neg hcount] at hanswer ⊢
  generalize (cursor.gather count).holdBack = step at hanswer hback ⊢
  obtain ⟨error | _ | ⟨b, given⟩, next⟩ := step
  · cases hanswer
  · cases hanswer
  · cases hanswer
    obtain ⟨hgot, hnext⟩ := hback rfl
    obtain ⟨front, back, room, index, source, hsplit, hsome, hback⟩ := hserved (hgot ▸ hall)
    refine ⟨front, back, room, index, source, hgot.symm.trans hsplit, hsome, hback.moment, ?_, ?_⟩
    · rw [show next = _ from hnext]
      exact hback.sourceIndex?
    · rw [show next = _ from hnext]
      exact hback.currentId?

/-! ## The invariant -/

/-- What is open is the entry taken last, and a failure that is held was raised by an entry; at the end
of the stream none is held. -/
structure Accountable (list : SourceList Script) (world : World) (cursor : Cursor Script) : Prop where
  anchored : cursor.Anchored list world
  heldBeforeEnd : cursor.HeldBeforeEnd
  raised : ∀ error, cursor.pending = some error → ∃ index, list.Raises world index error

theorem accountable_ofList (world : World) (list : SourceList Script) :
    (ofList world list).Accountable list world :=
  ⟨anchored_ofList world list, heldBeforeEnd_of_pending rfl, nofun⟩

/-- **Every operation that comes to hold a failure has met it at an entry.** -/
theorem accountable_serve (operation : BlockingOperation) (h : cursor.Accountable list world) :
    (cursor.serve operation).2.Accountable list world := by
  refine ⟨anchored_serve operation h.anchored, heldBeforeEnd_serve operation h.heldBeforeEnd,
    fun error herror => ?_⟩
  cases hasks : operation.asksForData with
  | false => exact h.raised error ((serve_of_quiet cursor hasks).1 ▸ herror)
  | true =>
    obtain ⟨hpending, hbulk, -⟩ := pending_serve_of_asks hasks h.heldBeforeEnd herror
    match operation with
    | .common (.read (some count)) =>
      have hcount : count ≠ 0 := by simpa [BlockingOperation.asksForData] using hasks
      rw [serve, perform, read, if_neg hcount] at herror
      have hback := Delivery.pending_holdBack (pending_gather hcount) herror
      obtain ⟨index, hindex, -⟩ := raisedAt_gather hasks count h.anchored hpending hback.1
      exact ⟨index, hindex⟩
    | .common (.read none) | .common .readToEnd =>
      have hback := Delivery.pending_holdBack pending_gatherRest herror
      obtain ⟨index, hindex, -⟩ := raisedAt_gatherRest hasks h.anchored hpending hback.1
      exact ⟨index, hindex⟩

end Cursor

theorem content_of_report {operation : BlockingOperation} {error : SourceError} {response : Response}
    (h : operation.report error = .ok response) : response.content = [] := by
  cases operation with
  | nextLine =>
    cases h
    rfl
  | _ => cases h

theorem reportsFailure_of_isQuiet {response : Response} (h : response.isQuiet) :
    reportsFailure (.ok response) = false := by
  match response with
  | .bytes (some []) | .slice [] | .done => rfl

/-- **Data and failures are attributed to the right source.** After every run: bytes that are handed over
as one unit were all served by one entry of the list, which is then the open source, by index and
identifier; so is the last piece of a read of so many bytes that gives them all. Whatever failure is
reported was raised by an entry, with its identifier and by what was being done to it; and if it was not
held before, the cursor still stands at that entry, with no source open if it did not open. -/
theorem data_and_failures_attributed (world : World) (list : SourceList Script)
    (past : List BlockingOperation) :
    let cursor := Run.last Cursor.serve past (Cursor.ofList world list)
    (∀ operation unit response, operation.unit? = some unit →
        (cursor.serve operation).1 = .ok response → response.content ≠ [] →
        ∃ index source, Cursor.ServedBy list world operation unit cursor (cursor.serve operation).2
          response.content index source)
    ∧ (∀ count got, count ≠ 0 →
        (cursor.serve (.common (.read (some count)))).1 = .ok (.bytes (some got)) →
        got.length = count →
        ∃ front back room index source, got = front ++ back ∧ back ≠ []
          ∧ Cursor.ServedBy list world (.common (.read (some count))) (Inlet.takeUpTo room) cursor
              (cursor.serve (.common (.read (some count)))).2 back index source)
    ∧ ∀ operation, reportsFailure (cursor.serve operation).1 →
        ∃ error, (cursor.serve operation).1 = operation.report error
          ∧ (∃ index, list.Raises world index error)
          ∧ (cursor.pending = none → Cursor.RaisedAt list world error (cursor.serve operation).2) := by
  intro cursor
  have h : cursor.Accountable list world :=
    Run.last_induction Cursor.serve (fun operation _ => Cursor.accountable_serve operation) past
      (Cursor.accountable_ofList world list)
  refine ⟨fun operation unit response hunit hanswer hgot => ?_,
    fun count got hcount hanswer hall => ?_, fun operation hreports => ?_⟩
  · cases hpending : cursor.pending with
    | none => exact Cursor.servedBy_serve hunit h.anchored hpending hanswer hgot
    | some error =>
      rw [Cursor.serve_of_pending hpending (BlockingOperation.asksForData_of_unit? hunit)] at hanswer
      exact absurd (content_of_report hanswer) hgot
  · cases hpending : cursor.pending with
    | none => exact Cursor.servedBy_read hcount h.anchored hpending hanswer hall
    | some error =>
      have hasks : (BlockingOperation.common (.read (some count))).asksForData := by
        simpa [BlockingOperation.asksForData] using hcount
      rw [Cursor.serve_of_pending hpending hasks] at hanswer
      cases hanswer
  · cases hasks : operation.asksForData with
    | false =>
      obtain ⟨-, -, response, hresponse, hquiet, -⟩ := Cursor.serve_of_quiet cursor hasks
      rw [hresponse, reportsFailure_of_isQuiet hquiet] at hreports
      cases hreports
    | true =>
      cases hpending : cursor.pending with
      | none =>
        obtain ⟨error, hanswer, hat⟩ := Cursor.raisedAt_serve hasks h.anchored hpending hreports
        obtain ⟨index, hindex, -⟩ := id hat
        exact ⟨error, hanswer, ⟨index, hindex⟩, fun _ => hat⟩
      | some error =>
        rw [Cursor.serve_of_pending hpending hasks]
        exact ⟨error, rfl, h.raised error hpending, fun hnone => by cases hnone⟩

/-- A line of one source and a read through two; then a source with the identifier of the first does not
open, once reported at once and once held until after a skip. -/
theorem data_and_failures_attributed_in_turn :
    let list := SourceList.ofList [⟨"a", .memory "a" [120, 10, 121]⟩, ⟨"c", .memory "c" [122]⟩,
      ⟨"a", .scripted "a" (.error (.bare .notFound))⟩]
    let cursor (past : List BlockingOperation) := Run.last Cursor.serve past (Cursor.ofList {} list)
    let line : BlockingOperation := .common .readLineBytes
    let both : BlockingOperation := .common (.read (some 2))
    let missing := SourceError.ofOpening "a" (.bare .notFound)
    ((cursor []).serve line).1 = .ok (.bytes (some [120, 10]))
      ∧ (∃ index source, Cursor.ServedBy list {} line (Inlet.readUntil newline) (cursor [])
          ((cursor []).serve line).2 [120, 10] index source)
      ∧ ((cursor [line]).serve both).1 = .ok (.bytes (some [121, 122]))
      ∧ (∃ front back room index source, [121, 122] = front ++ back ∧ back ≠ []
          ∧ Cursor.ServedBy list {} both (Inlet.takeUpTo room) (cursor [line])
              ((cursor [line]).serve both).2 back index source)
      ∧ (cursor [line, both]).pending = none
      ∧ ((cursor [line, both]).serve line).1 = .error (.source missing)
      ∧ Cursor.RaisedAt list {} missing ((cursor [line, both]).serve line).2
      ∧ ((cursor [line, .common .readToEnd, .common .skip]).serve line).1 = .error (.source missing)
      ∧ ∃ index, list.Raises {} index missing := by
  intro list cursor line both missing
  have hfirst : (cursor []).readLineBytes.1 = .ok (some [120, 10]) := by decide +kernel
  have hboth : ((cursor [line]).read 2).1 = .ok (some [121, 122]) := by decide +kernel
  have hpending : (cursor [line, both]).pending = none := by decide +kernel
  have hmissing : (cursor [line, both]).readLineBytes.1 = .error missing := by decide +kernel
  have hheld : (cursor [line, .common .readToEnd, .common .skip]).readLineBytes.1 = .error missing := by
    decide +kernel
  have hlineOk : ((cursor []).serve line).1 = .ok (.bytes (some [120, 10])) :=
    congrArg (fun answer => (answer.map Response.bytes).mapError Failure.source) hfirst
  have hbothOk : ((cursor [line]).serve both).1 = .ok (.bytes (some [121, 122])) :=
    congrArg (fun answer => (answer.map Response.bytes).mapError Failure.source) hboth
  have hlineFails : ((cursor [line, both]).serve line).1 = .error (.source missing) :=
    congrArg (fun answer => (answer.map Response.bytes).mapError Failure.source) hmissing
  have hlineHeld : ((cursor [line, .common .readToEnd, .common .skip]).serve line).1
      = .error (.source missing) :=
    congrArg (fun answer => (answer.map Response.bytes).mapError Failure.source) hheld
  obtain ⟨hunit, -, -⟩ := data_and_failures_attributed {} list []
  obtain ⟨-, hread, -⟩ := data_and_failures_attributed {} list [line]
  obtain ⟨-, -, hfails⟩ := data_and_failures_attributed {} list [line, both]
  obtain ⟨-, -, hholds⟩ := data_and_failures_attributed {} list [line, .common .readToEnd, .common .skip]
  obtain ⟨error, hreport, -, hat⟩ := hfails line (congrArg reportsFailure hlineFails)
  cases hlineFails.symm.trans hreport
  obtain ⟨error, hreport', hraised, -⟩ := hholds line (congrArg reportsFailure hlineHeld)
  cases hlineHeld.symm.trans hreport'
  exact ⟨hlineOk, hunit line _ _ rfl hlineOk (List.cons_ne_nil _ _), hbothOk,
    hread 2 _ (by decide) hbothOk rfl, hpending, hlineFails, hat hpending, hlineHeld, hraised⟩

end InputChain
