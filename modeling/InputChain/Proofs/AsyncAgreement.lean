import InputChain.Proofs.Mapped
import InputChain.Proofs.Settled

/-!
# The two cursors agree

A cursor whose readers can be not ready and a cursor that waits for the same readers stand alike
after every operation and answer it alike. Settling is the simulation: it takes the one cursor to the
other, and every operation commutes with it.

* `Cursor.settled`: the cursor that waits.
* `AsyncCursor.crossing_settled`, `AsyncCursor.add_settled`: a portion is a unit.
* `AsyncCursor.collect_settled`, `AsyncCursor.collectRest_settled`: portions are collected as units
  are gathered.
* `AsyncCursor.perform_settled`, `AsyncCursor.lines_settled`: one operation, and the lines.
* **`asyncCursor_agrees`**: every run.
-/

namespace InputChain

/-! ## Settling a cursor -/

/-- The provider, with a reader each of whose answers is waited for. -/
def Provider.settled : Provider PolledScript → Provider Script
  | .memory name content => .memory name content
  | .file path => .file path
  | .standardInput => .standardInput
  | .scripted name opening => .scripted name (opening.map PolledScript.settled)

/-- The source, each answer waited for. -/
def Source.settled (source : Source PolledScript) : Source Script :=
  ⟨source.id, source.provider.settled⟩

/-- The cursor that waits where this one asks again. -/
def Cursor.settled (cursor : AsyncCursor) : Cursor Script :=
  cursor.map Source.settled Reader.settled

/-- The delivery, seen from the cursor that waits. -/
def Delivery.settled (delivery : Delivery PolledScript) : Delivery Script :=
  delivery.map Source.settled Reader.settled

theorem Provider.opened_settled (files : FileTree) (provider : Provider PolledScript) :
    provider.settled.opened files = (provider.opened files).map Reader.settled := by
  cases provider with
  | memory name content => rfl
  | file path =>
    simp only [settled, opened]
    split <;> rfl
  | standardInput => rfl
  | scripted name opening => cases opening <;> rfl

theorem SourceList.ofList_settled (sources : List (Source PolledScript)) :
    (ofList sources).map Source.settled = ofList (sources.map Source.settled) := by
  cases sources <;> rfl

/-! ## One portion -/

namespace AsyncCursor

open Cursor

/-- What a portion adds is what the unit gives. -/
theorem add_eq_unit (portion : Portion) (out : Bytes) (inlet : PolledInlet) :
    (inlet.add portion out).got = out ++ (portion.unit inlet.settled).got
      ∧ (inlet.add portion out).fault = (portion.unit inlet.settled).fault
      ∧ (inlet.add portion out).next.settled = (portion.unit inlet.settled).next := by
  have h := inlet.add_settled portion out
  exact ⟨congrArg Reply.got h, congrArg Reply.fault h, congrArg Reply.next h⟩

theorem eq_nil_of_length_le {out got : Bytes} (h : (out ++ got).length ≤ out.length) :
    got = [] := by
  rw [List.length_append] at h
  exact List.length_eq_zero_iff.1 (by omega)

/-- **A portion is a unit after what was collected, wherever the cursor stands.** -/
theorem crossing_settled (portion : Portion) (out : Bytes) (cursor : AsyncCursor) :
    (crossing portion out cursor).settled = (cursor.settled.crossing portion.unit).after out := by
  fun_induction crossing portion out cursor with
  | case1 cursor hphase =>
    have hphase' : cursor.settled.phase = .exhausted := phase_map hphase
    rw [Cursor.crossing_of_exhausted hphase']
    simp only [Delivery.settled, Delivery.map, Delivery.after, List.append_nil, settled]
  | case2 cursor hphase hnext =>
    have hphase' : cursor.settled.phase = .idle := phase_map hphase
    have hnext' : cursor.settled.sources.next? = none := next?_map_none hnext
    rw [Cursor.crossing_of_no_source hphase' hnext']
    simp only [Delivery.settled, Delivery.map, Delivery.after, List.append_nil]
    rfl
  | case3 cursor hphase source rest hnext error hopen =>
    have hphase' : cursor.settled.phase = .idle := phase_map hphase
    have hnext' : cursor.settled.sources.next?
        = some (source.settled, rest.map Source.settled) := next?_map_some hnext
    have hopen' := source.provider.opened_settled cursor.world.files
    rw [hopen] at hopen'
    rw [Cursor.crossing_of_refused hphase' hnext' hopen', settled, ← refuse_map]
    simp only [Delivery.settled, Delivery.map, Delivery.after, List.append_nil]
    rfl
  | case4 cursor hphase source rest hnext reader hopen _ ih =>
    have hphase' : cursor.settled.phase = .idle := phase_map hphase
    have hnext' : cursor.settled.sources.next?
        = some (source.settled, rest.map Source.settled) := next?_map_some hnext
    have hopen' := source.provider.opened_settled cursor.world.files
    rw [hopen] at hopen'
    rw [ih, settled, enter_map, Cursor.crossing_of_opened hphase' hnext' hopen']
    rfl
  | case5 cursor id held reader hphase reply cursor' h _ ih =>
    have hphase' : cursor.settled.phase = .active id held reader.settled := phase_map hphase
    obtain ⟨hgot, hfault, hnext⟩ := add_eq_unit portion out ⟨held, reader, cursor.world.input⟩
    have hfault' := hfault.symm.trans (Option.isNone_iff_eq_none.1 h.1)
    have hgot' : (portion.unit ⟨held, reader.settled, cursor.world.input⟩).got = [] :=
      eq_nil_of_length_le (hgot ▸ h.2)
    have hclosed : cursor'.close.settled = (cursor.settled.withInlet id
        (portion.unit ⟨held, reader.settled, cursor.world.input⟩).next).close :=
      (close_map ..).trans (congrArg (fun inlet => (cursor.settled.withInlet id inlet).close) hnext)
    rw [ih, hclosed, crossing_of_end hphase' rfl hfault' hgot']
    rfl
  | case6 cursor id held reader hphase reply cursor' h =>
    have hphase' : cursor.settled.phase = .active id held reader.settled := phase_map hphase
    obtain ⟨hgot, hfault, hnext⟩ := add_eq_unit portion out ⟨held, reader, cursor.world.input⟩
    have hsettled : cursor'.settled = cursor.settled.withInlet id
        (portion.unit ⟨held, reader.settled, cursor.world.input⟩).next :=
      congrArg (cursor.settled.withInlet id) hnext
    cases hfault' : (portion.unit ⟨held, reader.settled, cursor.world.input⟩).fault with
    | some error =>
      rw [crossing_of_fault hphase' rfl hfault']
      simp only [Delivery.settled, Delivery.map, Delivery.after, Delivery.mk.injEq]
      refine ⟨hgot, ?_, hsettled⟩
      rw [hfault.trans hfault', Option.map_some]
    | none =>
      have hgot' : (portion.unit ⟨held, reader.settled, cursor.world.input⟩).got ≠ [] := by
        intro hnil
        refine h ⟨Option.isNone_iff_eq_none.2 (hfault.trans hfault'), ?_⟩
        have hout : reply.got = out := by rw [hgot, Inlet.settled, hnil, List.append_nil]
        exact Nat.le_of_eq (congrArg List.length hout)
      rw [crossing_of_got hphase' rfl hfault' hgot']
      simp only [Delivery.settled, Delivery.map, Delivery.after, Delivery.mk.injEq]
      refine ⟨hgot, ?_, hsettled⟩
      rw [hfault.trans hfault', Option.map_none]

/-- The failure held for this read is reported alike. -/
theorem add_settled (portion : Portion) (out : Bytes) (cursor : AsyncCursor) :
    (add portion out cursor).settled = (cursor.settled.readUnit portion.unit).after out := by
  have hpending' : cursor.settled.pending = cursor.pending := rfl
  unfold add readUnit
  rw [hpending']
  cases hpending : cursor.pending with
  | none => exact crossing_settled portion out cursor
  | some error =>
    simp only [Delivery.settled, Delivery.map, Delivery.after, Findable.nothing_bytes, List.append_nil]
    rfl

/-- What a read adds is what a unit gives. -/
theorem add_eq_readUnit (portion : Portion) (out : Bytes) (cursor : AsyncCursor) :
    (add portion out cursor).got = out ++ (cursor.settled.readUnit portion.unit).got
      ∧ (add portion out cursor).fault = (cursor.settled.readUnit portion.unit).fault
      ∧ (add portion out cursor).next.settled
        = (cursor.settled.readUnit portion.unit).next := by
  have h := add_settled portion out cursor
  exact ⟨congrArg Delivery.got h, congrArg Delivery.fault h, congrArg Delivery.next h⟩

/-! ## Portions collected -/

/-- Portions are collected as units are gathered. -/
theorem collect_settled (count : Nat) (out : Bytes) (cursor : AsyncCursor) :
    (collect count out cursor).settled
      = (cursor.settled.gather (count - out.length)).after out := by
  fun_induction collect count out cursor with
  | case1 out cursor hcount =>
    rw [Nat.sub_eq_zero_of_le hcount, gather_zero]
    simp only [Delivery.settled, Delivery.map, Delivery.after, List.append_nil, settled]
  | case2 out cursor hcount delivery h =>
    have hadd := add_settled (.upTo (count - out.length)) out cursor
    obtain ⟨hgot, hfault, -⟩ := add_eq_readUnit (.upTo (count - out.length)) out cursor
    have hnil : (cursor.settled.readUnit (Inlet.takeUpTo (count - out.length))).got = [] := by
      rcases h with h | h
      · obtain ⟨error, herror⟩ := Option.isSome_iff_exists.1 h
        exact got_readUnit_of_fault (fun _ _ => Inlet.got_takeUpTo_of_fault)
          (hfault.symm.trans herror)
      · exact eq_nil_of_length_le (hgot ▸ h)
    rw [hadd, gather_of_nil (by omega) hnil]
    rfl
  | case3 out cursor hcount delivery h _ ih =>
    obtain ⟨hgot, -, hnext⟩ := add_eq_readUnit (.upTo (count - out.length)) out cursor
    have hcons : (cursor.settled.readUnit (Inlet.takeUpTo (count - out.length))).got ≠ [] := by
      intro hnil
      refine h (Or.inr (Nat.le_of_eq (congrArg List.length ?_)))
      rw [hgot, Portion.unit, hnil, List.append_nil]
    rw [ih, gather_of_got (by omega) hcons, Delivery.after_after, hnext, hgot, List.length_append,
      Nat.sub_add_eq]
    rfl

/-- Everything left is collected as it is gathered. -/
theorem collectRest_settled (out : Bytes) (cursor : AsyncCursor) :
    (collectRest out cursor).settled = cursor.settled.gatherRest.after out := by
  fun_induction collectRest out cursor with
  | case1 out cursor delivery h =>
    have hadd := add_settled .rest out cursor
    obtain ⟨hgot, hfault, -⟩ := add_eq_readUnit .rest out cursor
    rw [hadd, gatherRest_of_stop]
    · rfl
    · exact h.imp (fun h => hfault ▸ h) fun h => eq_nil_of_length_le (hgot ▸ h)
  | case2 out cursor delivery h _ ih =>
    obtain ⟨hgot, hfault, hnext⟩ := add_eq_readUnit .rest out cursor
    obtain ⟨h₁, h₂⟩ := not_or.1 h
    have hnone : (cursor.settled.readUnit Inlet.readRest).fault = none :=
      hfault.symm.trans (Option.not_isSome_iff_eq_none.1 h₁)
    have hcons : (cursor.settled.readUnit Inlet.readRest).got ≠ [] := by
      intro hnil
      refine h₂ (Nat.le_of_eq (congrArg List.length ?_))
      rw [hgot, Portion.unit, hnil, List.append_nil]
    rw [ih, gatherRest_of_got hnone hcons, Delivery.after_after, hnext, hgot]
    rfl

/-! ## Operations -/

variable (cursor : AsyncCursor)

theorem read_settled (count : Nat) :
    (read count cursor).map id Cursor.settled = cursor.settled.read count := by
  unfold read Cursor.read
  by_cases hcount : count = 0
  · subst hcount
    rw [collect, dif_pos (Nat.zero_le _)]
    rfl
  · have hback := (collect count [] cursor).holdBack_map Source.settled Reader.settled
    rw [← Delivery.settled, collect_settled, List.length_nil, Nat.sub_zero, Delivery.after_nil] at hback
    rw [if_neg hcount, ← hback]
    obtain ⟨_ | got, next⟩ := (collect count [] cursor).holdBack
    · rfl
    · cases got <;> simp [Except.map, hcount, Cursor.settled]

theorem readToEnd_settled :
    (readToEnd cursor).map id Cursor.settled = cursor.settled.readToEnd := by
  unfold readToEnd Cursor.readToEnd
  rw [← Delivery.after_nil cursor.settled.gatherRest, ← collectRest_settled]
  exact Delivery.holdBack_map Source.settled Reader.settled _

/-- A unit is answered alike, bytes in front of a failure being lost. -/
theorem add_orFault_settled (portion : Portion) :
    (cursor.settled.readUnit portion.unit).orFault
      = (add portion [] cursor).orFault.map id Cursor.settled := by
  rw [← Delivery.after_nil (cursor.settled.readUnit portion.unit), ← add_settled]
  exact (Delivery.orFault_map Source.settled Reader.settled _).symm

theorem readByte_settled :
    (readByte cursor).map id Cursor.settled = cursor.settled.readByte := by
  have h := add_orFault_settled cursor (.upTo 1)
  rw [Portion.unit] at h
  unfold readByte Cursor.readByte
  rw [h]
  rfl

theorem readLineBytes_settled :
    (readLineBytes cursor).map id Cursor.settled = cursor.settled.readLineBytes := by
  have h := add_orFault_settled cursor .line
  rw [Portion.unit] at h
  unfold readLineBytes nextLine Cursor.readLineBytes
  rw [h]
  obtain ⟨_ | line, next⟩ := (add .line [] cursor).orFault
  · rfl
  · cases line <;> rfl

theorem readLine_settled :
    (readLine cursor).map id Cursor.settled = cursor.settled.readLine := by
  have h := add_orFault_settled cursor .line
  rw [Portion.unit] at h
  unfold readLine nextLine
  rw [Cursor.readLine_eq_decoding, h]
  obtain ⟨_ | line, next⟩ := (add .line [] cursor).orFault
  · rfl
  · cases line with
    | nil => rfl
    | cons b rest =>
      simp only [Except.map, Prod.map, id, List.isEmpty_cons, reduceCtorEq, if_false,
        Bool.false_eq_true, Cursor.settled, Cursor.currentId?_map]
      cases Utf8.decode (b :: rest) <;> rfl

/-- **One operation.** -/
theorem perform_settled (operation : Operation) :
    (perform operation cursor).map id Cursor.settled
      = cursor.settled.perform operation := by
  match operation with
  | .read (some count) => rw [Cursor.perform, ← read_settled]; rfl
  | .read none => rw [Cursor.perform, ← readToEnd_settled]; rfl
  | .readToEnd => rw [Cursor.perform, ← readToEnd_settled]; rfl
  | .readByte => rw [Cursor.perform, ← readByte_settled]; rfl
  | .readLine => rw [Cursor.perform, ← readLine_settled]; rfl
  | .readLineBytes => rw [Cursor.perform, ← readLineBytes_settled]; rfl
  | .skip =>
    rw [Cursor.perform, Cursor.settled, ← Cursor.skip_map]
    rfl

/-- **The lines, item by item.** -/
theorem lines_settled (count : Nat) :
    (lines count cursor).map id Cursor.settled = cursor.settled.eachLine count := by
  induction count generalizing cursor with
  | zero => rfl
  | succ count ih =>
    have h := readLine_settled cursor
    unfold lines Cursor.eachLine
    rw [← h]
    obtain ⟨_ | _ | text, next⟩ := cursor.readLine
    · simp only [Prod.map, id, ← ih]
    · rfl
    · simp only [Prod.map, id, ← ih]

/-! ## Runs -/

theorem last_settled (operations : List Operation) :
    (Run.last perform operations cursor).settled
      = Run.last Cursor.perform operations cursor.settled := by
  induction operations generalizing cursor with
  | nil => rfl
  | cons operation rest ih =>
    have h := congrArg Prod.snd (perform_settled cursor operation)
    exact (ih _).trans (congrArg (Run.last Cursor.perform rest) h)

theorem trace_settled (operations : List Operation) :
    (Run.trace perform operations cursor).map (Prod.map id Cursor.settled)
      = Run.trace Cursor.perform operations cursor.settled := by
  induction operations generalizing cursor with
  | nil => rfl
  | cons operation rest ih =>
    have h := perform_settled cursor operation
    rw [Run.trace, List.map_cons, Run.trace, ih, h]
    exact congrArg (_ :: Run.trace Cursor.perform rest ·) (congrArg Prod.snd h)

end AsyncCursor

/-- **The two cursors agree.** Over the same sources, however often a reader is not ready, they
answer every list of operations alike and stand alike after each, and from there the lines are the
same, item by item. -/
theorem asyncCursor_agrees (world : World) (sources : List (Source PolledScript))
    (operations : List Operation) :
    (Run.trace AsyncCursor.perform operations (Cursor.ofSources world sources)).map Cursor.observe
        = (Run.trace Cursor.perform operations
            (Cursor.ofSources world (sources.map Source.settled))).map Cursor.observe
      ∧ ∀ count,
          (AsyncCursor.lines count
            (Run.last AsyncCursor.perform operations (Cursor.ofSources world sources))).1
          = (Cursor.eachLine count (Run.last Cursor.perform operations
              (Cursor.ofSources world (sources.map Source.settled)))).1 := by
  have hstart : (Cursor.ofSources world sources : AsyncCursor).settled
      = Cursor.ofSources world (sources.map Source.settled) := by
    simp only [Cursor.ofSources, Cursor.ofList, Cursor.settled, Cursor.map,
      SourceList.ofList_settled, Phase.map]
  refine ⟨?_, fun count => ?_⟩
  · rw [← hstart, ← AsyncCursor.trace_settled, List.map_map]
    exact List.map_congr_left fun step _ =>
      (Cursor.observe_map Reader.settled (fun _ => rfl) step).symm
  · rw [← hstart, ← AsyncCursor.last_settled, ← AsyncCursor.lines_settled]
    rfl

end InputChain
