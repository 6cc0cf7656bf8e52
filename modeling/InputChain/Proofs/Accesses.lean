import InputChain.Proofs.HeldFailure
import Mathlib.Logic.Relation

/-!
# One access at a time

Whatever is asked of a cursor, its sources are opened and closed one at a time: an operation is a
sequence of moments, and from one moment to the next at most one source is opened, refused or closed. A
source is closed only when its reader has reported its end or when it is skipped, and opened only by an
operation that asks for data while no source is open.

* `Inlet.ReportsEnd`, `Inlet.IsUnit`, `Inlet.IsUnit.meetsEnd`: a unit that gives nothing and does not
  fail has met the end of the reader.
* `Cursor.Follows`, `Cursor.ComesOf`: what can happen from one moment to the next, and while an
  operation is served.
* `Cursor.comesOf_crossing`, `Cursor.comesOf_gather`, `Cursor.comesOf_gatherRest`: units.
* **`Cursor.comesOf_serve`**: every operation.
-/

namespace InputChain

/-! ## The end of a reader -/

namespace Inlet

/-- With nothing held, the reader answers a request with nothing. -/
def ReportsEnd (inlet later : Inlet Script) : Prop :=
  inlet.held = [] ∧ ∃ room, room ≠ 0 ∧ inlet.pullThrough room = ⟨[], none, later⟩

/-- A unit that gives nothing and does not fail has met the end of the reader. -/
def MeetsEnd (unit : Inlet Script → Reply (Inlet Script)) : Prop :=
  ∀ inlet, (unit inlet).got = [] → (unit inlet).fault = none → inlet.ReportsEnd (unit inlet).next

/-- An answer of nothing is no interruption, so it is the answer of a request made again as well. -/
theorem readThrough_of_end {room : Nat} (hroom : room ≠ 0) {script : Script}
    (hgot : (script.read room).got = []) (hfault : (script.read room).fault = none) :
    script.readThrough room = script.read room := by
  obtain ⟨answers, thereafter⟩ := script
  match answers with
  | [] => rfl
  | .bytes content :: rest => rfl
  | .fault error :: rest => simp [Script.read, hroom] at hfault

theorem eq_of_end {reply : Reply (Inlet Script)} (hgot : reply.got = []) (hfault : reply.fault = none) :
    reply = ⟨[], none, reply.next⟩ := by
  obtain ⟨got, fault, next⟩ := reply
  obtain rfl : got = [] := hgot
  obtain rfl : fault = none := hfault
  rfl

theorem reportsEnd_pull {room : Nat} (hroom : room ≠ 0) {inlet : Inlet Script}
    (hheld : inlet.held = []) (hgot : (inlet.pull room).got = [])
    (hfault : (inlet.pull room).fault = none) : inlet.ReportsEnd (inlet.pull room).next := by
  have hthrough : inlet.pullThrough room = inlet.pull room := by
    obtain ⟨held, script | _, input⟩ := inlet
    · exact congrArg (ofScript _) (readThrough_of_end hroom hgot hfault)
    · rfl
  exact ⟨hheld, room, hroom, hthrough.trans (eq_of_end hgot hfault)⟩

theorem meetsEnd_fill : MeetsEnd fill := by
  intro inlet hgot hfault
  obtain ⟨hheld, hfill⟩ := fillBy_of_nil (fun inlet => held_pull blockSize inlet) hgot
  rw [fill, hfill] at hgot hfault ⊢
  exact reportsEnd_pull (by decide) hheld hgot hfault

theorem meetsEnd_takeUpTo {count : Nat} (hcount : count ≠ 0) : MeetsEnd (takeUpTo count) := by
  intro inlet hgot hfault
  obtain ⟨hheld, hpull⟩ := takeUpTo_of_nil hcount hgot
  rw [hpull] at hgot hfault ⊢
  exact reportsEnd_pull (by decide) hheld hgot hfault

theorem meetsEnd_read {room : Nat} (hroom : room ≠ 0) : MeetsEnd (read room) := by
  intro inlet hgot hfault
  unfold read at hgot hfault ⊢
  split at hgot
  · rename_i hpast
    rw [if_pos hpast] at hfault ⊢
    exact reportsEnd_pull hroom (List.isEmpty_iff.1 hpast.1) hgot hfault
  · rename_i hpast
    rw [if_neg hpast] at hfault ⊢
    exact meetsEnd_takeUpTo hroom inlet hgot hfault

theorem meetsEnd_readUntil (stop : UInt8) : MeetsEnd (readUntil stop) := by
  intro inlet hgot hfault
  obtain ⟨hheld, hpull⟩ := readUntil_of_nil hgot
  rw [hpull] at hgot hfault ⊢
  exact ⟨hheld, blockSize, by decide, eq_of_end hgot hfault⟩

/-- A reader that is read to its end and gives nothing has answered its next request with nothing. -/
theorem readThrough_of_drain {room : Nat} (hroom : room ≠ 0) {script : Script}
    (hgot : script.drain.got = []) (hfault : script.drain.fault = none) :
    script.readThrough room = script.drain := by
  suffices hgo : ∀ answers, (Script.drain.go script answers).got = [] →
      (Script.drain.go script answers).fault = none →
      Script.readThrough room ⟨answers, script.thereafter⟩ = Script.drain.go script answers from
    hgo script.answers hgot hfault
  clear hgot hfault
  intro answers hgot hfault
  fun_induction Script.drain.go script answers with
  | case1 => exact if_neg hroom
  | case2 error rest herror ih =>
    rw [← ih hgot hfault, Script.readThrough, Script.readThrough]
    simp only [List.dropWhile_cons, Script.isInterruption, herror, if_true]
  | case3 => cases hfault
  | case4 content rest hcontent =>
    cases List.isEmpty_iff.1 hcontent
    exact if_neg hroom
  | case5 content rest hcontent reply ih =>
    exact absurd (List.isEmpty_iff.2 (List.append_eq_nil_iff.1 hgot).1) hcontent

theorem meetsEnd_readRest : MeetsEnd readRest := by
  intro inlet hgot hfault
  obtain ⟨held, script | _, input⟩ := inlet
  · obtain ⟨rfl, hgot⟩ := List.append_eq_nil_iff.1 hgot
    refine ⟨rfl, blockSize, by decide, ?_⟩
    have hdrain : script.readThrough blockSize = script.drain :=
      readThrough_of_drain (by decide) hgot hfault
    rw [pullThrough, pullBy]
    simp only [hdrain]
    exact eq_of_end hgot hfault
  · obtain ⟨rfl, hgot⟩ := List.append_eq_nil_iff.1 hgot
    obtain ⟨held, untaken⟩ := input
    obtain ⟨rfl, rfl⟩ := List.append_eq_nil_iff.1 hgot
    exact ⟨rfl, blockSize, by decide, rfl⟩

/-- The units in which a cursor is read. -/
inductive IsUnit : (Inlet Script → Reply (Inlet Script)) → Prop where
  | takeUpTo {count : Nat} (hcount : count ≠ 0) : IsUnit (takeUpTo count)
  | readUntil (stop : UInt8) : IsUnit (readUntil stop)
  | readRest : IsUnit readRest
  | read {room : Nat} (hroom : room ≠ 0) : IsUnit (read room)
  | fill : IsUnit fill

theorem IsUnit.meetsEnd {unit : Inlet Script → Reply (Inlet Script)} (hunit : IsUnit unit) :
    MeetsEnd unit := by
  cases hunit with
  | takeUpTo hcount => exact meetsEnd_takeUpTo hcount
  | readUntil stop => exact meetsEnd_readUntil stop
  | readRest => exact meetsEnd_readRest
  | read hroom => exact meetsEnd_read hroom
  | fill => exact meetsEnd_fill

end Inlet

/-! ## From one moment to the next -/

namespace Cursor

/-- What can happen to a cursor from one moment to the next while it serves an operation. -/
inductive Follows (operation : BlockingOperation) : Cursor Script → Cursor Script → Prop where
  /-- With no source open, an operation that asks for data opens the next. -/
  | opens {cursor : Cursor Script} {source : Source Script} {rest : SourceList Script}
      {reader : Reader Script} (hasks : operation.asksForData = true)
      (hphase : cursor.phase = .idle) (hnext : cursor.sources.next? = some (source, rest))
      (hopen : source.provider.opened cursor.world.files = .ok reader) :
      Follows operation cursor (cursor.enter source.id reader rest)
  /-- It does not open. -/
  | refuses {cursor : Cursor Script} {source : Source Script} {rest : SourceList Script}
      {error : IoError} (hasks : operation.asksForData = true) (hphase : cursor.phase = .idle)
      (hnext : cursor.sources.next? = some (source, rest))
      (hopen : source.provider.opened cursor.world.files = .error error) :
      Follows operation cursor (cursor.refuse rest)
  /-- There is no next. -/
  | exhausts {cursor : Cursor Script} (hasks : operation.asksForData = true)
      (hphase : cursor.phase = .idle) (hnext : cursor.sources.next? = none) :
      Follows operation cursor { cursor with phase := .exhausted }
  /-- A unit is read of the open source. -/
  | reads {cursor : Cursor Script} {id : String} {held : Bytes} {reader : Reader Script}
      {unit : Inlet Script → Reply (Inlet Script)} (hasks : operation.asksForData = true)
      (hphase : cursor.phase = .active id held reader) (hunit : Inlet.IsUnit unit) :
      Follows operation cursor
        (cursor.withInlet id (unit ⟨held, reader, cursor.world.input⟩).next)
  /-- The reader reports its end, and its source is closed. -/
  | ends {cursor : Cursor Script} {id : String} {held : Bytes} {reader : Reader Script}
      {later : Inlet Script} (hasks : operation.asksForData = true)
      (hphase : cursor.phase = .active id held reader)
      (hend : Inlet.ReportsEnd ⟨held, reader, cursor.world.input⟩ later) :
      Follows operation cursor (cursor.withInlet id later).close
  /-- The open source is skipped. -/
  | skips {cursor : Cursor Script} {id : String} {held : Bytes} {reader : Reader Script}
      (hskip : operation = .common .skip) (hphase : cursor.phase = .active id held reader) :
      Follows operation cursor cursor.close
  /-- Bytes that are held are taken. -/
  | consumes {cursor : Cursor Script} {count : Nat} {id : String} {held : Bytes}
      {reader : Reader Script} (hconsume : operation = .consume count)
      (hphase : cursor.phase = .active id held reader) :
      Follows operation cursor { cursor with phase := .active id (held.drop count) reader }
  /-- Only the count of lines or the failure that is held changes. -/
  | notes {cursor : Cursor Script} (lineno : Nat) (pending : Option SourceError) :
      Follows operation cursor { cursor with lineno, pending }

/-- One cursor comes of another while it serves an operation, one moment after another. -/
abbrev ComesOf (operation : BlockingOperation) : Cursor Script → Cursor Script → Prop :=
  Relation.ReflTransGen (Follows operation)

variable {operation : BlockingOperation} {cursor : Cursor Script}

/-- The list stays the same, and so do the files. -/
theorem sources_comesOf {later : Cursor Script} (hcomes : ComesOf operation cursor later) :
    later.sources.sources = cursor.sources.sources ∧ later.world.files = cursor.world.files := by
  induction hcomes with
  | refl => exact ⟨rfl, rfl⟩
  | tail _ hfollows ih =>
    obtain ⟨hsources, hfiles⟩ := ih
    cases hfollows with
    | opens _ _ hnext => exact ⟨(SourceList.sources_next? hnext).trans hsources, hfiles⟩
    | refuses _ _ hnext => exact ⟨(SourceList.sources_next? hnext).trans hsources, hfiles⟩
    | _ => exact ⟨hsources, hfiles⟩

/-! ## Units -/

section Unit

variable (hasks : operation.asksForData = true)

include hasks

section

variable {unit : Inlet Script → Reply (Inlet Script)} (hunit : Inlet.IsUnit unit)

include hunit

/-- **A unit opens and closes one source at a time.** -/
theorem comesOf_crossing : ComesOf operation cursor (cursor.crossing unit).next := by
  fun_induction crossing unit cursor with
  | case1 => exact .refl
  | case2 cursor id held reader hphase => exact .single (.reads hasks hphase hunit)
  | case3 cursor id held reader hphase reply cursor' hfault hgot _ =>
    rename_i ih
    exact .head (.ends hasks hphase (hunit.meetsEnd _ (List.isEmpty_iff.1 hgot) hfault)) ih
  | case4 cursor id held reader hphase => exact .single (.reads hasks hphase hunit)
  | case5 cursor hphase hnext => exact .single (.exhausts hasks hphase hnext)
  | case6 cursor hphase source rest hnext error hopen =>
    exact .single (.refuses hasks hphase hnext hopen)
  | case7 cursor hphase source rest hnext reader hopen _ ih =>
    exact .head (.opens hasks hphase hnext hopen) ih

theorem comesOf_readUnit : ComesOf operation cursor (cursor.readUnit unit).next := by
  unfold readUnit
  split
  · exact .single (.notes cursor.lineno none)
  · exact comesOf_crossing hasks hunit

end

theorem comesOf_gather (count : Nat) : ComesOf operation cursor (cursor.gather count).next := by
  fun_induction gather count cursor with
  | case1 => exact .refl
  | case2 count cursor hcount => exact comesOf_readUnit hasks (.takeUpTo hcount)
  | case3 count cursor hcount delivery hgot _ ih =>
    exact (comesOf_readUnit hasks (.takeUpTo hcount)).trans ih

theorem comesOf_gatherRest : ComesOf operation cursor cursor.gatherRest.next := by
  fun_induction gatherRest cursor with
  | case1 => exact comesOf_readUnit hasks .readRest
  | case2 => exact comesOf_readUnit hasks .readRest
  | case3 cursor delivery hfault hgot _ ih =>
    exact (comesOf_readUnit hasks .readRest).trans ih

end Unit

/-! ## Answers -/

theorem comesOf_orFault {delivery : Delivery Script} (h : ComesOf operation cursor delivery.next) :
    ComesOf operation cursor delivery.orFault.2 := by
  unfold Delivery.orFault
  split <;> exact h

theorem comesOf_answer {delivery : Delivery Script} (h : ComesOf operation cursor delivery.next) :
    ComesOf operation cursor delivery.answer.2 := by
  unfold Delivery.answer
  split <;> exact h

theorem comesOf_holdBack {delivery : Delivery Script} (h : ComesOf operation cursor delivery.next) :
    ComesOf operation cursor delivery.holdBack.2 := by
  unfold Delivery.holdBack
  split
  · exact h
  · split
    · exact h
    · exact h.tail (.notes _ _)

/-! ## Operations -/

section Lines

variable (hasks : operation.asksForData = true)

include hasks

theorem comesOf_readLineBytes : ComesOf operation cursor cursor.readLineBytes.2 := by
  have hunit := comesOf_orFault (@comesOf_readUnit operation cursor hasks _
    (.readUntil newline))
  unfold readLineBytes
  generalize (cursor.readUnit (Inlet.readUntil newline)).orFault = step at hunit ⊢
  obtain ⟨_ | line, next⟩ := step
  · exact hunit
  · simp only
    split
    · exact hunit
    · exact hunit.tail (.notes _ _)

theorem comesOf_readLine : ComesOf operation cursor cursor.readLine.2 := by
  have hunit := comesOf_orFault (@comesOf_readUnit operation cursor hasks _
    (.readUntil newline))
  rw [readLine_eq_decoding]
  generalize (cursor.readUnit (Inlet.readUntil newline)).orFault = step at hunit ⊢
  obtain ⟨_ | line, next⟩ := step
  · exact hunit
  · simp only
    split
    · exact hunit
    · split
      · exact hunit.tail (.notes _ _)
      · exact hunit

theorem comesOf_readLines : ComesOf operation cursor cursor.readLines.2 := by
  fun_induction readLines cursor with
  | case1 cursor error next hread =>
    have hline := @comesOf_readLine operation cursor hasks
    rwa [hread] at hline
  | case2 cursor next hread =>
    have hline := @comesOf_readLine operation cursor hasks
    rwa [hread] at hline
  | case3 cursor text next hread _ rest last hrest ih =>
    have hline := @comesOf_readLine operation cursor hasks
    rw [hread] at hline
    rw [hrest] at ih
    exact hline.trans ih

end Lines

theorem comesOf_skip : ComesOf (.common .skip) cursor cursor.skip := by
  unfold skip
  split
  · rename_i hphase
    exact .single (.skips rfl hphase)
  · exact .refl

theorem comesOf_consume (count : Nat) :
    ComesOf (.consume count) cursor (Seamless.consume count cursor) := by
  unfold Seamless.consume
  split
  · rename_i hphase
    exact .single (.consumes rfl hphase)
  · exact .refl

/-- **Every operation opens and closes one source at a time.** -/
theorem comesOf_serve (operation : BlockingOperation) (cursor : Cursor Script) :
    ComesOf operation cursor (cursor.serve operation).2 := by
  match operation with
  | .common (.read (some count)) =>
    rw [serve, perform, read]
    split
    · exact .refl
    · rename_i hcount
      exact comesOf_holdBack (comesOf_gather (by simpa [BlockingOperation.asksForData] using hcount) count)
  | .common (.read none) => exact comesOf_holdBack (comesOf_gatherRest rfl)
  | .common .readToEnd => exact comesOf_holdBack (comesOf_gatherRest rfl)
  | .common .readByte =>
    exact comesOf_orFault (comesOf_readUnit rfl (.takeUpTo Nat.one_ne_zero))
  | .common .readLine => exact comesOf_readLine rfl
  | .common .readLineBytes => exact comesOf_readLineBytes rfl
  | .common .skip => exact comesOf_skip
  | .setLineno lineno => exact .single (.notes lineno cursor.pending)
  | .readLines => exact comesOf_readLines rfl
  | .nextLine =>
    rw [serve, Prod.map_snd, eachLine_one_snd]
    exact comesOf_readLine rfl
  | .plainRead room =>
    rw [serve, Seamless.read]
    split
    · exact .refl
    · rename_i hroom
      exact comesOf_answer (comesOf_readUnit (by simpa [BlockingOperation.asksForData] using hroom)
        (.read hroom))
  | .fill => exact comesOf_answer (comesOf_readUnit rfl .fill)
  | .consume count => exact comesOf_consume count

end Cursor

end InputChain
