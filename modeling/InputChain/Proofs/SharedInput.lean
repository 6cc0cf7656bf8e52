import InputChain.Proofs.Deeds
import InputChain.Proofs.InputLeft
import Mathlib.Data.List.Flatten

/-!
# Standard input in several entries

Standard input may stand at several entries of a list. They share it: what one of them has drawn is gone
for the others, be it served, still held, or dropped with the block that was held when the entry was
skipped. So the bytes of standard input are accounted for, in their order, by what the entries served
and what was dropped; and if nothing is skipped, the first entry serves them all.

* `Cursor.Turn`, `Cursor.turn_readUnit`: where a unit is read, with nothing drawn before.
* `Cursor.Accounted`, `Cursor.Accounted.trans`: deeds that account for what is drawn, one after another.
* `Cursor.Turn.accounted`, **`Cursor.accounted_deliver`**, **`Cursor.accounted_deedsOf`**: a unit, a call,
  a run of calls.
* **`standard_input_shared`**: every run.
-/

namespace InputChain

namespace Cursor

variable {list : SourceList Script} {world : World} {cursor later next : Cursor Script} {first : Nat}

/-! ## Where a unit is read -/

/-- How a unit of a cursor comes about: it finds nothing, or it is read of a source that is open when
nothing of standard input has been drawn yet. -/
inductive Turn (unit : Inlet Script → Reply (Inlet Script)) (cursor : Cursor Script) :
    Delivery Script → Prop where
  | nothing {next : Cursor Script} {fault : Option SourceError} (hcomes : ComesOf .fill cursor next)
      (hleft : next.inputLeft = cursor.inputLeft) : Turn unit cursor ⟨[], fault, next⟩
  | reads {before : Cursor Script} {id : String} {held : Bytes} {reader : Reader Script}
      (hcomes : ComesOf .fill cursor before) (hleft : before.inputLeft = cursor.inputLeft)
      (hphase : before.phase = .active id held reader) :
      Turn unit cursor ⟨(unit ⟨held, reader, before.world.input⟩).got,
        (unit ⟨held, reader, before.world.input⟩).fault.map (.ofReading id),
        before.withInlet id (unit ⟨held, reader, before.world.input⟩).next⟩

section Turn

variable {unit : Inlet Script → Reply (Inlet Script)} {delivery : Delivery Script}

theorem Turn.head {moment : Cursor Script} (hfollows : Follows .fill cursor moment)
    (hleft : moment.inputLeft = cursor.inputLeft) (h : Turn unit moment delivery) :
    Turn unit cursor delivery := by
  cases h with
  | nothing hcomes hmore => exact .nothing (.head hfollows hcomes) (hmore.trans hleft)
  | reads hcomes hmore hphase => exact .reads (.head hfollows hcomes) (hmore.trans hleft) hphase

theorem turn_crossing (hunit : Inlet.IsUnit unit) (cursor : Cursor Script) :
    Turn unit cursor (cursor.crossing unit) := by
  fun_induction crossing unit cursor with
  | case1 cursor => exact .nothing .refl rfl
  | case2 cursor id held reader hphase reply cursor' error =>
    rename_i hfault
    have hreads := @Turn.reads unit cursor cursor id held reader .refl rfl hphase
    rwa [show (unit ⟨held, reader, cursor.world.input⟩).fault = some error from hfault] at hreads
  | case3 cursor id held reader hphase reply cursor' hfault hgot _ =>
    rename_i ih
    have hend := hunit.meetsEnd _ (List.isEmpty_iff.1 hgot) hfault
    exact .head (.ends rfl hphase hend) (inputLeft_ends hphase hend).1 ih
  | case4 cursor id held reader hphase reply cursor' hfault =>
    have hreads := @Turn.reads unit cursor cursor id held reader .refl rfl hphase
    rwa [show (unit ⟨held, reader, cursor.world.input⟩).fault = none from hfault] at hreads
  | case5 cursor hphase hnext =>
    exact .nothing (.single (.exhausts rfl hphase hnext)) (inputLeft_exhaust hphase)
  | case6 cursor hphase source rest hnext error hopen =>
    exact .nothing (.single (.refuses rfl hphase hnext hopen)) rfl
  | case7 cursor hphase source rest hnext reader hopen _ ih =>
    exact .head (.opens rfl hphase hnext hopen) (inputLeft_enter hphase) ih

theorem turn_readUnit (hunit : Inlet.IsUnit unit) (cursor : Cursor Script) :
    Turn unit cursor (cursor.readUnit unit) := by
  unfold readUnit
  split
  · exact .nothing (.single (.notes cursor.lineno none)) rfl
  · exact turn_crossing hunit cursor

/-- A plain read without room is not a unit, but it finds nothing either. -/
theorem turn_plainRead (room : Nat) (cursor : Cursor Script) :
    Turn (Inlet.read room) cursor (Seamless.read room cursor) := by
  unfold Seamless.read
  split
  · exact .nothing .refl rfl
  · rename_i hroom
    exact turn_readUnit (.read hroom) cursor

/-- Bytes that are shown and then consumed are drawn as if they had been taken. -/
theorem turn_fillConsume (count : Nat) (cursor : Cursor Script) :
    Turn (Inlet.takeUpTo count) cursor
      ⟨(Seamless.fill cursor).got.take count, (Seamless.fill cursor).fault,
        (cursor.deliver (.fillConsume count)).2⟩ := by
  have hturn : Turn Inlet.fill cursor (Seamless.fill cursor) := turn_readUnit .fill cursor
  rw [deliver_fillConsume]
  generalize Seamless.fill cursor = delivery at hturn ⊢
  cases hturn with
  | @nothing next fault hcomes hleft =>
    simp only [List.take_nil, List.length_nil, consume_zero]
    exact .nothing hcomes hleft
  | @reads before id held reader hcomes hleft hphase =>
    have hreads := @Turn.reads (Inlet.takeUpTo count) cursor before id held reader hcomes hleft hphase
    have hconsume : (Inlet.takeUpTo count ⟨held, reader, before.world.input⟩).next
        = (Inlet.fill ⟨held, reader, before.world.input⟩).next.consume
            ((Inlet.fill ⟨held, reader, before.world.input⟩).got.take count).length := by
      rw [Inlet.takeUpTo, Inlet.consume, Inlet.consume, Inlet.fill, Inlet.held_fillBy, drop_length_take]
    rw [hconsume] at hreads
    exact hreads

end Turn

/-! ## Deeds that account for what is drawn -/

/-- Of these deeds, done while so much of standard input was left, the first entry did all that is done
with it: it is drained before it is left; nobody else serves any of it; and what is opened behind it is
opened when the deeds before have used up all that was left. -/
structure Prompt (list : SourceList Script) (first : Nat) (left : Bytes) (deeds : List Deed)
    (next : Cursor Script) : Prop where
  drained : next.DrainedBehind first
  served : ∀ index got, .served index got ∈ deeds → list.readsInput index → got ≠ [] → index = first
  opened : ∀ before noted after index, deeds = before ++ .access noted :: after →
    noted.opening? = some index → first < index →
    left = before.flatMap (Deed.takenOf list.readsInput)

/-- These deeds lead from one cursor to the next and account for what is drawn in between. -/
structure Accounted (list : SourceList Script) (cursor : Cursor Script) (deeds : List Deed)
    (next : Cursor Script) : Prop where
  journal : next.journal = cursor.journal ++ deeds.filterMap Deed.access?
  input : cursor.inputLeft = deeds.flatMap (Deed.takenOf list.readsInput) ++ next.inputLeft
  dropped : ∀ index held, .dropped index held ∈ deeds →
    held.length ≤ blockSize ∧ [.dropped index held, .access (.closed index)] <:+: deeds
  prompt : (∀ index held, .dropped index held ∉ deeds) → ∀ first, list.IsFirstInput first →
    cursor.DrainedBehind first → Prompt list first cursor.inputLeft deeds next

namespace Accounted

theorem refl (list : SourceList Script) (cursor : Cursor Script) : Accounted list cursor [] cursor where
  journal := (List.append_nil _).symm
  input := rfl
  dropped _ _ hmem := nomatch hmem
  prompt _ first _ hdrained := by
    refine ⟨hdrained, fun _ _ hmem => (nomatch hmem), fun before noted after _ hdeeds => ?_⟩
    exact absurd hdeeds.symm (List.append_ne_nil_of_right_ne_nil before (List.cons_ne_nil _ after))

/-- Deeds that account one after another account together. -/
theorem trans {deeds more : List Deed} (h : Accounted list cursor deeds next)
    (h' : Accounted list next more later) : Accounted list cursor (deeds ++ more) later where
  journal := by rw [h'.journal, h.journal, List.filterMap_append, List.append_assoc]
  input := by rw [h.input, h'.input, List.flatMap_append, List.append_assoc]
  dropped index held hmem := by
    rcases List.mem_append.1 hmem with hmem | hmem
    · obtain ⟨hlength, hclosed⟩ := h.dropped index held hmem
      exact ⟨hlength, hclosed.trans (List.prefix_append ..).isInfix⟩
    · obtain ⟨hlength, hclosed⟩ := h'.dropped index held hmem
      exact ⟨hlength, hclosed.trans (List.suffix_append ..).isInfix⟩
  prompt hnone first hfirst hdrained := by
    have hdeeds := h.prompt (fun index held hmem => hnone index held (List.mem_append_left _ hmem)) first
      hfirst hdrained
    have hmore := h'.prompt (fun index held hmem => hnone index held (List.mem_append_right _ hmem))
      first hfirst hdeeds.drained
    refine ⟨hmore.drained, fun index got hmem => ?_, fun before noted after index hsplit hopening
      hbehind => ?_⟩
    · rcases List.mem_append.1 hmem with hmem | hmem
      · exact hdeeds.served index got hmem
      · exact hmore.served index got hmem
    · -- the access is among the later deeds, the first of them included, or among the earlier
      rcases List.append_eq_append_iff.1 hsplit with ⟨front, rfl, hlater⟩ | ⟨back, rfl, hback⟩
      · rw [List.flatMap_append, ← hmore.opened front noted after index hlater hopening hbehind]
        exact h.input
      · cases back with
        | nil =>
          rw [List.append_nil] at h
          have hnext := hmore.opened [] noted after index hback.symm hopening hbehind
          rw [h.input, hnext]
          exact List.append_nil _
        | cons deed back =>
          obtain ⟨rfl, rfl⟩ := List.cons_eq_cons.1 hback
          exact hdeeds.opened before noted back index rfl hopening hbehind

end Accounted

/-! ## One unit -/

theorem InOrder.lt_of_opening? (h : cursor.InOrder list) {noted : Access} {index : Nat}
    (hmem : noted ∈ cursor.journal) (hopening : noted.opening? = some index) :
    index < cursor.sources.position := by
  obtain ⟨count, hposition, hjournal⟩ := h.journal
  have hindex : index ∈ cursor.journal.filterMap Access.opening? :=
    List.mem_filterMap.2 ⟨noted, hmem, hopening⟩
  rw [hjournal.openings, List.mem_range'_1] at hindex
  exact hposition ▸ hindex.2

namespace Turn

variable {unit : Inlet Script → Reply (Inlet Script)} {delivery : Delivery Script}
  (h : Turn unit cursor delivery)

include h

theorem journal : cursor.journal <+: delivery.next.journal := by
  cases h with
  | nothing hcomes => exact journal_comesOf hcomes
  | @reads before _ _ _ hcomes =>
    show cursor.journal <+: before.journal
    exact journal_comesOf hcomes

theorem lt_of_opening? (horder : cursor.InOrder list) {noted : Access} {index : Nat}
    (hmem : noted ∈ delivery.next.journal) (hopening : noted.opening? = some index) :
    index < delivery.next.sources.position := by
  cases h with
  | nothing hcomes => exact (horder.comesOf hcomes).lt_of_opening? hmem hopening
  | reads hcomes => exact (horder.comesOf hcomes).lt_of_opening? hmem hopening

variable (hanchored : cursor.Anchored list world)

include hanchored

/-- Bytes come of an entry that was still to come when the list was begun. -/
theorem entry (hgot : delivery.got ≠ []) :
    ∃ index, delivery.next.sources.position = index + 1 ∧ list.position ≤ index := by
  cases h with
  | nothing => exact absurd rfl hgot
  | reads hcomes _ hphase =>
    obtain ⟨index, source, hindex, hposition, -⟩ := (hanchored.comesOf hcomes).inlet hphase
    exact ⟨index, hposition, hindex⟩

/-- If a unit stands behind an entry that was drained, nothing was left for it. -/
theorem left_of_further (hdrained : cursor.DrainedBehind first) (hfirst : list.readsInput first)
    (hfurther : first + 1 < delivery.next.sources.position) : cursor.inputLeft = [] := by
  cases h with
  | nothing hcomes hleft =>
    exact hleft.symm.trans ((hdrained.comesOf hanchored hfirst hcomes nofun).of_further hfurther)
  | reads hcomes hleft =>
    exact hleft.symm.trans ((hdrained.comesOf hanchored hfirst hcomes nofun).of_further hfurther)

variable (hdraws : ∀ inlet : Inlet Script, inlet.Draws (unit inlet).got (unit inlet).next)

include hdraws

/-- What a unit draws of standard input is what it gives, if it comes of an entry that is standard
input. -/
theorem input : cursor.inputLeft
    = (if list.readsInput (delivery.next.sources.position - 1) then delivery.got else [])
      ++ delivery.next.inputLeft := by
  cases h with
  | nothing _ hleft => rw [ite_self, List.nil_append, hleft]
  | @reads before id held reader hcomes hleft hphase =>
    have hreader := (hanchored.comesOf hcomes).reader_iff hphase
    obtain ⟨hinput, hscript⟩ := inputLeft_withInlet hphase (hdraws _)
    rw [← hleft]
    show before.inputLeft = (if list.readsInput (before.sources.position - 1) then _ else []) ++ _
    split
    · rename_i hreads
      exact hinput (hreader.2 hreads)
    · rename_i hreads
      exact hscript (mt hreader.1 hreads)

theorem drained (hdrained : cursor.DrainedBehind first) (hfirst : list.readsInput first) :
    delivery.next.DrainedBehind first := by
  cases h with
  | nothing hcomes => exact hdrained.comesOf hanchored hfirst hcomes nofun
  | @reads before id held reader hcomes _ hphase =>
    refine (hdrained.comesOf hanchored hfirst hcomes nofun).of_suffix ?_ rfl fun _ => rfl
    obtain ⟨hinput, hscript⟩ := inputLeft_withInlet hphase (hdraws ⟨held, reader, before.world.input⟩)
    by_cases hreader : reader = .standardInput
    · exact ⟨_, (hinput hreader).symm⟩
    · exact hscript hreader ▸ List.suffix_rfl

/-- **The deeds of one unit** account for what it draws. -/
theorem accounted (horder : cursor.InOrder list) {served : Bytes}
    (hserved : list.readsInput (delivery.next.sources.position - 1) → served = delivery.got) :
    Accounted list cursor (cursor.unitDeeds delivery.next served) delivery.next where
  journal := by
    rw [unitDeeds, List.filterMap_append, Deed.filterMap_access?]
    show _ = cursor.journal ++ (delivery.next.journal.drop cursor.journal.length ++ [])
    rw [List.append_nil]
    exact (List.prefix_iff_eq_append.1 h.journal).symm
  input := by
    rw [flatMap_unitDeeds fun _ => rfl, h.input hanchored hdraws]
    show _ = (if list.readsInput (delivery.next.sources.position - 1) then served else []) ++ _
    split
    · rename_i hreads
      rw [hserved hreads]
    · rfl
  dropped _ _ hmem := absurd hmem not_dropped_of_unitDeeds
  prompt _ first hfirst hdrained := by
    refine ⟨h.drained hanchored hdraws hdrained hfirst.readsInput, fun index got hmem hreads hgot => ?_,
      fun before noted after index hdeeds hopening hbehind => ?_⟩
    · rcases List.mem_append.1 hmem with hmem | hmem
      · obtain ⟨noted, -, hdeed⟩ := List.mem_map.1 hmem
        cases hdeed
      · cases List.mem_singleton.1 hmem
        have hgiven := hserved hreads
        obtain ⟨index, hposition, hindex⟩ := h.entry hanchored (hgiven ▸ hgot)
        rw [hposition, Nat.add_sub_cancel] at hreads ⊢
        -- behind the first entry nothing was left that could be served
        refine Nat.le_antisymm (Nat.le_of_not_lt fun hlater => hgot ?_) (hfirst.least index hindex hreads)
        have hnil := h.left_of_further hanchored hdrained hfirst.readsInput (by omega)
        have hinput := h.input hanchored hdraws
        rw [hnil, hposition, Nat.add_sub_cancel, if_pos hreads] at hinput
        exact hgiven.trans (List.append_eq_nil_iff.1 hinput.symm).1
    · obtain ⟨hmem, earlier, rfl⟩ := accesses_of_unitDeeds hdeeds
      have hposition := h.lt_of_opening? horder hmem hopening
      rw [Deed.flatMap_access fun _ => rfl]
      exact h.left_of_further hanchored hdrained hfirst.readsInput (by omega)

end Turn

/-! ## Calls -/

theorem Accounted.note {deeds : List Deed} (h : Accounted list cursor deeds next) (lineno : Nat)
    (pending : Option SourceError) : Accounted list cursor deeds { next with lineno, pending } where
  journal := h.journal
  input := h.input
  dropped := h.dropped
  prompt hnone first hfirst hdrained :=
    ⟨(h.prompt hnone first hfirst hdrained).drained, (h.prompt hnone first hfirst hdrained).served,
      (h.prompt hnone first hfirst hdrained).opened⟩

section Answers

variable {delivery : Delivery Script} {deeds : List Deed}
  (h : Accounted list cursor deeds delivery.next)

include h

theorem accounted_holdBack : Accounted list cursor deeds delivery.holdBack.2 := by
  unfold Delivery.holdBack
  split
  · exact h
  · split
    · exact h
    · exact h.note _ _

theorem accounted_orFault : Accounted list cursor deeds delivery.orFault.2 := by
  unfold Delivery.orFault
  split <;> exact h

theorem accounted_answer : Accounted list cursor deeds delivery.answer.2 := by
  unfold Delivery.answer
  split <;> exact h

end Answers

section Calls

variable (hanchored : cursor.Anchored list world) (horder : cursor.InOrder list)

include hanchored horder

theorem accounted_takeUpTo {count : Nat} (hcount : count ≠ 0) :
    Accounted list cursor
      (cursor.unitDeeds (cursor.readUnit (Inlet.takeUpTo count)).next
        (cursor.readUnit (Inlet.takeUpTo count)).got)
      (cursor.readUnit (Inlet.takeUpTo count)).next :=
  (turn_readUnit (.takeUpTo hcount) cursor).accounted hanchored (Inlet.draws_takeUpTo count) horder
    fun _ => rfl

theorem accounted_readRest :
    Accounted list cursor
      (cursor.unitDeeds (cursor.readUnit Inlet.readRest).next (cursor.readUnit Inlet.readRest).got)
      (cursor.readUnit Inlet.readRest).next :=
  (turn_readUnit .readRest cursor).accounted hanchored Inlet.draws_readRest horder fun _ => rfl

theorem accounted_gather (count : Nat) :
    Accounted list cursor (cursor.gatherDeeds count) (cursor.gather count).next := by
  fun_induction gatherDeeds count cursor with
  | case1 cursor =>
    rw [gather_zero]
    exact .refl list cursor
  | case2 count cursor hcount delivery hgot =>
    rw [gather_of_nil hcount hgot]
    exact accounted_takeUpTo hanchored horder hcount
  | case3 count cursor hcount delivery hgot _ ih =>
    rw [gather_of_got hcount hgot]
    exact (accounted_takeUpTo hanchored horder hcount).trans
      (ih (hanchored.readUnit (.takeUpTo hcount))
        (horder.comesOf (@comesOf_readUnit .fill cursor rfl _ (.takeUpTo hcount))))

theorem accounted_gatherRest :
    Accounted list cursor cursor.gatherRestDeeds cursor.gatherRest.next := by
  fun_induction gatherRestDeeds cursor with
  | case1 cursor delivery hfault =>
    rw [gatherRest_of_stop (.inl hfault)]
    exact accounted_readRest hanchored horder
  | case2 cursor delivery hfault hgot =>
    rw [gatherRest_of_stop (.inr hgot)]
    exact accounted_readRest hanchored horder
  | case3 cursor delivery hfault hgot _ ih =>
    rw [gatherRest_of_got (Option.not_isSome_iff_eq_none.1 hfault) hgot]
    exact (accounted_readRest hanchored horder).trans
      (ih (hanchored.readUnit .readRest)
        (horder.comesOf (@comesOf_readUnit .fill cursor rfl _ .readRest)))

omit horder in
/-- A line of standard input is not cut off. -/
theorem lineGot_of_readsInput
    (hreads : list.readsInput ((cursor.readUnit (Inlet.readUntil newline)).next.sources.position - 1)) :
    lineGot (cursor.readUnit (Inlet.readUntil newline))
      = (cursor.readUnit (Inlet.readUntil newline)).got := by
  have hturn := turn_readUnit (.readUntil newline) cursor
  generalize cursor.readUnit (Inlet.readUntil newline) = delivery at hturn hreads ⊢
  cases hturn with
  | nothing => exact ite_self []
  | @reads before id held reader hcomes _ hphase =>
    have hreader := ((hanchored.comesOf hcomes).reader_iff hphase).2 hreads
    have hfault : (Inlet.readUntil newline ⟨held, reader, before.world.input⟩).fault = none :=
      Inlet.unfailing_readUntil hreader newline
    rw [lineGot, hfault]
    rfl

theorem accounted_line : Accounted list cursor cursor.lineDeeds
    (cursor.readUnit (Inlet.readUntil newline)).next :=
  (turn_readUnit (.readUntil newline) cursor).accounted hanchored (Inlet.draws_readUntil newline) horder
    (lineGot_of_readsInput hanchored)

theorem accounted_readLine : Accounted list cursor cursor.lineDeeds cursor.readLine.2 := by
  obtain ⟨lineno, hnext⟩ := cursor.readLine_snd
  rw [hnext]
  exact (accounted_line hanchored horder).note lineno _

theorem accounted_readLineBytes : Accounted list cursor cursor.lineDeeds cursor.readLineBytes.2 := by
  obtain ⟨lineno, hnext⟩ := cursor.readLineBytes_snd
  rw [hnext]
  exact (accounted_line hanchored horder).note lineno _

omit horder in
/-- A skip drops what is held, which is no more than a block. -/
theorem accounted_skip : Accounted list cursor cursor.skipDeeds cursor.skip := by
  cases hphase : cursor.phase with
  | active id held reader =>
    have hreader := hanchored.reader_iff hphase
    obtain ⟨index, source, -, hposition, -, hinlet⟩ := hanchored.inlet hphase
    obtain ⟨opened, -, hdrawn⟩ := hinlet.opened
    rw [skipDeeds, skip]
    simp only [hphase]
    refine ⟨rfl, ?_, fun index held hmem => ?_, fun hnone => ?_⟩
    · show cursor.inputLeft
        = (if list.readsInput (cursor.sources.position - 1) then held else []) ++ [] ++ cursor.world.input.left
      rw [List.append_nil]
      cases reader with
      | standardInput => rw [if_pos (hreader.1 rfl), inputLeft_of_standardInput hphase]
      | script script =>
        have hother : ¬ list.readsInput (cursor.sources.position - 1) := fun hreads => by
          cases hreader.2 hreads
        rw [if_neg hother, inputLeft_of_script hphase, List.nil_append]
    · obtain hdropped | hmem := List.mem_cons.1 hmem
      · cases hdropped
        exact ⟨hdrawn.length_held, List.infix_rfl⟩
      · cases List.mem_singleton.1 hmem
    · exact absurd List.mem_cons_self (hnone _ held)
  | idle =>
    rw [skipDeeds, skip]
    simp only [hphase]
    exact .refl list cursor
  | exhausted =>
    rw [skipDeeds, skip]
    simp only [hphase]
    exact .refl list cursor

theorem accounted_fillConsume (count : Nat) :
    Accounted list cursor (cursor.deeds (.fillConsume count)) (cursor.deliver (.fillConsume count)).2 := by
  have haccounted := (turn_fillConsume count cursor).accounted hanchored (Inlet.draws_takeUpTo count)
    horder fun _ => rfl
  rw [deliver_fillConsume] at haccounted ⊢
  rwa [unitDeeds_consume] at haccounted

/-- **The deeds of every call account for what it draws.** -/
theorem accounted_deliver (call : Call) :
    Accounted list cursor (cursor.deeds call) (cursor.deliver call).2 := by
  match call with
  | .ask (.read (some count)) =>
    have hgather := accounted_gather hanchored horder count
    show Accounted list cursor (cursor.gatherDeeds count) (cursor.read count).2
    unfold read
    split
    · rename_i hcount
      rw [hcount, gather_zero] at hgather
      rw [hcount]
      exact hgather
    · exact accounted_holdBack hgather
  | .ask (.read none) => exact accounted_holdBack (accounted_gatherRest hanchored horder)
  | .ask .readToEnd => exact accounted_holdBack (accounted_gatherRest hanchored horder)
  | .ask .readByte =>
    exact accounted_orFault (accounted_takeUpTo hanchored horder Nat.one_ne_zero)
  | .ask .readLine => exact accounted_readLine hanchored horder
  | .ask .readLineBytes => exact accounted_readLineBytes hanchored horder
  | .ask .skip => exact accounted_skip hanchored
  | .plainRead room =>
    exact accounted_answer
      ((turn_plainRead room cursor).accounted hanchored (Inlet.draws_read room) horder fun _ => rfl)
  | .fillConsume count => exact accounted_fillConsume hanchored horder count

/-- **The deeds of every run account for what it draws.** -/
theorem accounted_deedsOf (calls : List Call) :
    Accounted list cursor (cursor.deedsOf calls) (Run.last deliver calls cursor) := by
  induction calls generalizing cursor with
  | nil => exact .refl list cursor
  | cons call rest ih =>
    have hnext := deliver_keeps (fun operation before h => anchored_serve operation h) call hanchored
    exact (accounted_deliver hanchored horder call).trans (ih hnext
      (deliver_keeps (fun operation before h => h.comesOf (comesOf_serve operation before)) call horder))

end Calls

end Cursor

/-! ## Runs -/

/-- What is served of some entries is left of what was taken when the dropped is left out. -/
theorem sublist_takenOf (entries : Nat → Bool) (deeds : List Deed) :
    (deeds.flatMap (Deed.gotOf entries)).Sublist (deeds.flatMap (Deed.takenOf entries)) := by
  refine List.Sublist.flatMap_right deeds fun deed _ => ?_
  cases deed with
  | dropped => exact List.nil_sublist _
  | _ => exact List.Sublist.refl _

/-- If nothing was dropped, and of the entries only one served anything, all that was taken is what that
one served. -/
theorem takenOf_eq_gotOf {entries : Nat → Bool} {first : Nat} (hfirst : entries first)
    {deeds : List Deed} (hnone : ∀ index held, .dropped index held ∉ deeds)
    (hserved : ∀ index got, .served index got ∈ deeds → entries index → got ≠ [] → index = first) :
    deeds.flatMap (Deed.takenOf entries) = deeds.flatMap (Deed.gotOf (· == first)) := by
  refine List.flatMap_congr fun deed hmem => ?_
  cases deed with
  | access => rfl
  | dropped index held => exact absurd hmem (hnone index held)
  | served index got =>
    show (if entries index then got else []) = if index == first then got else []
    by_cases hindex : index = first
    · rw [if_pos (hindex ▸ hfirst), if_pos (beq_iff_eq.2 hindex)]
    · rw [if_neg (mt beq_iff_eq.1 hindex)]
      split
      · rename_i hentry
        exact Decidable.byContradiction fun hgot => hindex (hserved index got hmem hentry hgot)
      · rfl

/-- **The entries that are standard input share it, and repeat nothing.** Whatever is asked of a cursor
over any list: each answer hands over the bytes served for it; what is opened and closed in between is
what the journal tells; and standard input consists, in its order, of what its entries served, what was
dropped of them, and what is left. So what they served, in the order of serving, is standard input with
some bytes left out. Only what is held of an entry when it is skipped is dropped, at most a block.

If nothing is skipped, the first of these entries serves all of standard input before anything behind it
is opened, and the others serve nothing. -/
theorem standard_input_shared (world : World) (list : SourceList Script) (calls : List Call) :
    let start := Cursor.ofList world list
    let deeds := start.deedsOf calls
    let last := Run.last Cursor.deliver calls start
    (∀ past call, past ++ [call] <+: calls →
      let cursor := Run.last Cursor.deliver past start
      HandsOver (cursor.deliver call).1 (cursor.deeds call)
        ∧ start.deedsOf past ++ cursor.deeds call <+: deeds) ∧
    last.journal = deeds.filterMap Deed.access? ∧
    world.input.left = deeds.flatMap (Deed.takenOf list.readsInput) ++ last.inputLeft ∧
    (deeds.flatMap (Deed.gotOf list.readsInput)).Sublist world.input.left ∧
    (∀ index held, .dropped index held ∈ deeds →
      held.length ≤ blockSize ∧ [.dropped index held, .access (.closed index)] <:+: deeds
        ∧ .ask .skip ∈ calls) ∧
    (.ask .skip ∉ calls → ∀ first, list.IsFirstInput first →
      (∀ index got, .served index got ∈ deeds → list.readsInput index → index ≠ first → got = []) ∧
      (∀ before noted after index, deeds = before ++ .access noted :: after →
        noted.opening? = some index → first < index →
        before.flatMap (Deed.gotOf (· == first)) = world.input.left)) := by
  intro start deeds last
  have haccounted : Cursor.Accounted list start deeds last :=
    Cursor.accounted_deedsOf (Cursor.anchored_ofList world list) (.start world list) calls
  refine ⟨fun past call hpast => ⟨Cursor.handsOver_deliver .., ?_⟩, haccounted.journal, haccounted.input,
    ?_, fun index held hmem => ?_, fun hskip first hfirst => ?_⟩
  · obtain ⟨rest, rfl⟩ := hpast
    have hcall : (Run.last Cursor.deliver past start).deedsOf [call]
        = (Run.last Cursor.deliver past start).deeds call := List.append_nil _
    show _ <+: start.deedsOf (past ++ [call] ++ rest)
    rw [Cursor.deedsOf_append, Cursor.deedsOf_append, hcall]
    exact List.prefix_append ..
  · refine (sublist_takenOf list.readsInput deeds).trans ?_
    have hinput : world.input.left
        = deeds.flatMap (Deed.takenOf list.readsInput) ++ last.inputLeft := haccounted.input
    rw [hinput]
    exact List.sublist_append_left ..
  · obtain ⟨hlength, hclosed⟩ := haccounted.dropped index held hmem
    exact ⟨hlength, hclosed, Cursor.skip_mem_of_dropped hmem⟩
  · have hnone : ∀ index held, .dropped index held ∉ deeds :=
      fun index held hmem => hskip (Cursor.skip_mem_of_dropped hmem)
    have hprompt := haccounted.prompt hnone first hfirst
      fun hposition => absurd hposition (Nat.not_lt.2 hfirst.toCome)
    refine ⟨fun index got hmem hreads hother => ?_, fun before noted after index hdeeds hopening
      hbehind => ?_⟩
    · exact Decidable.byContradiction fun hgot => hother (hprompt.served index got hmem hreads hgot)
    · have hbefore : ∀ deed ∈ before, deed ∈ deeds :=
        fun deed hmem => hdeeds ▸ List.mem_append_left _ hmem
      have htaken : world.input.left = before.flatMap (Deed.takenOf list.readsInput) :=
        hprompt.opened before noted after index hdeeds hopening hbehind
      rw [htaken]
      exact (takenOf_eq_gotOf hfirst.readsInput (fun index held hmem => hnone index held (hbefore _ hmem))
        fun index got hmem => hprompt.served index got (hbefore _ hmem)).symm

/-- Standard input stands in front of a source in memory and behind it. When it is skipped, what is held of
it is lost; when it is read, the first entry serves it all, and the other finds nothing left. -/
theorem standard_input_shared_by_two_entries :
    let world : World := { input := .ofBytes [97, 98, 10, 99] }
    let list : SourceList Script :=
      .ofList [.standardInput, ⟨"m", .memory "m" [120]⟩, .standardInput]
    let start := Cursor.ofList world list
    let skipping : List Call := [.ask .readByte, .fillConsume 1, .ask .skip, .ask .readToEnd]
    let reading : List Call := [.ask .readLine, .plainRead 8, .ask (.read (some 2))]
    let shown := (start.deliver (.ask .readByte)).2
    (start.deedsOf skipping
        = [.access (.opened 0), .served 0 [97], .served 0 [98], .dropped 0 [10, 99], .access (.closed 0),
          .access (.opened 1), .served 1 [120], .access (.closed 1), .access (.opened 2),
          .access (.closed 2), .served 2 []] ∧
      HandsOver (shown.deliver (.fillConsume 1)).1 (shown.deeds (.fillConsume 1)) ∧
      [.dropped 0 [10, 99], .access (.closed 0)] <:+: start.deedsOf skipping) ∧
    (start.deedsOf reading
        = [.access (.opened 0), .served 0 [97, 98, 10], .served 0 [99], .access (.closed 0),
          .access (.opened 1), .served 1 [120], .access (.closed 1), .access (.opened 2),
          .access (.closed 2), .served 2 []] ∧
      list.IsFirstInput 0 ∧
      (∀ got, .served 2 got ∈ start.deedsOf reading → got = []) ∧
      [.access (.opened 0), .served 0 [97, 98, 10], .served 0 [99], .access (.closed 0)].flatMap
        (Deed.gotOf (· == 0)) = world.input.left) := by
  intro world list start skipping reading shown
  have hskipping : start.deedsOf skipping
      = [.access (.opened 0), .served 0 [97], .served 0 [98], .dropped 0 [10, 99], .access (.closed 0),
        .access (.opened 1), .served 1 [120], .access (.closed 1), .access (.opened 2),
        .access (.closed 2), .served 2 []] := by decide +kernel
  have hreading : start.deedsOf reading
      = [.access (.opened 0), .served 0 [97, 98, 10], .served 0 [99], .access (.closed 0),
        .access (.opened 1), .served 1 [120], .access (.closed 1), .access (.opened 2),
        .access (.closed 2), .served 2 []] := by decide +kernel
  have hfirst : list.IsFirstInput 0 :=
    ⟨Nat.zero_le _, by decide, fun index _ _ => Nat.zero_le index⟩
  obtain ⟨hhands, -, -, -, hdropped, -⟩ := standard_input_shared world list skipping
  obtain ⟨-, -, -, -, -, hprompt⟩ := standard_input_shared world list reading
  obtain ⟨hserved, hopened⟩ := hprompt (by decide) 0 hfirst
  refine ⟨⟨hskipping, (hhands [.ask .readByte] (.fillConsume 1) (by decide)).1, ?_⟩, hreading, hfirst,
    fun got hmem => hserved 2 got hmem (by decide) (by decide), ?_⟩
  · refine (hdropped 0 [10, 99] ?_).2.1
    show Deed.dropped 0 [10, 99] ∈ start.deedsOf skipping
    rw [hskipping]
    decide
  · exact hopened _ (.opened 1) _ 1 hreading rfl (by decide)

end InputChain
