import InputChain.Proofs.Operations
import Mathlib.Logic.Relation

/-!
# The moments of a cursor whose readers can be not ready

Whatever is asked of such a cursor, it goes from one moment to the next: a source opens or does not, a portion is
added from the open one, it is closed. What no moment changes, no operation and no run changes.

* `AsyncCursor.Follows`, `AsyncCursor.ComesOf`: what can happen from one moment to the next, and in several.
* `AsyncCursor.comesOf_crossing`, `AsyncCursor.comesOf_add`: one portion.
* **`AsyncCursor.comesOf_perform`**: every operation.
* `AsyncCursor.lineno_add`: a portion counts no lines.
* **`AsyncCursor.crossing_found`**: what a portion adds is added from the open source.
-/

namespace InputChain

namespace AsyncCursor

open Cursor

/-! ## From one moment to the next -/

/-- What can happen to a cursor from one moment to the next. -/
inductive Follows : AsyncCursor → AsyncCursor → Prop where
  /-- With no source open, the next one opens. -/
  | opens {cursor : AsyncCursor} {source : Source PolledScript} {rest : SourceList PolledScript}
      {reader : Reader PolledScript} (hphase : cursor.phase = .idle)
      (hnext : cursor.sources.next? = some (source, rest))
      (hopen : source.provider.opened cursor.world.files = .ok reader) :
      Follows cursor (cursor.enter source.id reader rest)
  /-- It does not open. -/
  | refuses {cursor : AsyncCursor} {source : Source PolledScript} {rest : SourceList PolledScript} {error : IoError}
      (hphase : cursor.phase = .idle) (hnext : cursor.sources.next? = some (source, rest))
      (hopen : source.provider.opened cursor.world.files = .error error) :
      Follows cursor (cursor.refuse rest)
  /-- There is no next. -/
  | exhausts {cursor : AsyncCursor} (hphase : cursor.phase = .idle) (hnext : cursor.sources.next? = none) :
      Follows cursor { cursor with phase := .exhausted }
  /-- A portion is added from the open source. -/
  | adds {cursor : AsyncCursor} {id : String} {held : Bytes} {reader : Reader PolledScript} (portion : Portion)
      (out : Bytes) (hphase : cursor.phase = .active id held reader) :
      Follows cursor
        (cursor.withInlet id (PolledInlet.add portion out ⟨held, reader, cursor.world.input⟩).next)
  /-- The open source is closed. -/
  | closes {cursor : AsyncCursor} {id : String} {held : Bytes} {reader : Reader PolledScript}
      (hphase : cursor.phase = .active id held reader) : Follows cursor cursor.close
  /-- Only the count of lines or the failure that is held changes. -/
  | notes {cursor : AsyncCursor} (lineno : Nat) (pending : Option SourceError) :
      Follows cursor { cursor with lineno, pending }

/-- One cursor comes of another, one moment after another. -/
abbrev ComesOf : AsyncCursor → AsyncCursor → Prop :=
  Relation.ReflTransGen Follows

/-- What every moment keeps, several keep. -/
theorem ComesOf.keeps {Holds : AsyncCursor → Prop} (hkeeps : ∀ {cursor later}, Follows cursor later → Holds cursor →
    Holds later) {cursor later : AsyncCursor} (hcomes : ComesOf cursor later) (h : Holds cursor) : Holds later := by
  induction hcomes with
  | refl => exact h
  | tail _ hfollows ih => exact hkeeps hfollows ih

theorem comesOf_crossing (portion : Portion) (out : Bytes) (cursor : AsyncCursor) :
    ComesOf cursor (crossing portion out cursor).next := by
  fun_induction crossing portion out cursor with
  | case1 => exact .refl
  | case2 cursor hphase hnext => exact .single (.exhausts hphase hnext)
  | case3 cursor hphase source rest hnext error hopen => exact .single (.refuses hphase hnext hopen)
  | case4 cursor hphase source rest hnext reader hopen _ ih => exact .head (.opens hphase hnext hopen) ih
  | case5 cursor id held reader hphase reply cursor' _ _ ih =>
    exact .head (.adds portion out hphase) (.head (.closes rfl) ih)
  | case6 cursor id held reader hphase => exact .single (.adds portion out hphase)

theorem comesOf_add (portion : Portion) (out : Bytes) (cursor : AsyncCursor) :
    ComesOf cursor (add portion out cursor).next := by
  unfold add
  split
  · exact .single (.notes cursor.lineno none)
  · exact comesOf_crossing portion out cursor

theorem comesOf_collect (count : Nat) (out : Bytes) (cursor : AsyncCursor) :
    ComesOf cursor (collect count out cursor).next := by
  fun_induction collect count out cursor with
  | case1 => exact .refl
  | case2 => exact comesOf_add _ _ _
  | case3 _ _ _ _ _ _ ih => exact (comesOf_add _ _ _).trans ih

theorem comesOf_collectRest (out : Bytes) (cursor : AsyncCursor) :
    ComesOf cursor (collectRest out cursor).next := by
  fun_induction collectRest out cursor with
  | case1 => exact comesOf_add _ _ _
  | case2 _ _ _ _ _ ih => exact (comesOf_add _ _ _).trans ih

section Answers

variable {cursor : AsyncCursor} {delivery : Delivery PolledScript} (h : ComesOf cursor delivery.next)

include h

theorem comesOf_holdBack : ComesOf cursor delivery.holdBack.2 := by
  unfold Delivery.holdBack
  split
  · exact h
  · rename_i error _
    split
    · exact h
    · exact h.tail (.notes delivery.next.lineno (some error))

theorem comesOf_orFault : ComesOf cursor delivery.orFault.2 := by
  unfold Delivery.orFault
  split <;> exact h

end Answers

variable (cursor : AsyncCursor)

theorem comesOf_nextLine : ComesOf cursor cursor.nextLine.2 :=
  comesOf_orFault (comesOf_add .line [] cursor)

theorem comesOf_readLineBytes : ComesOf cursor cursor.readLineBytes.2 := by
  have hline := cursor.comesOf_nextLine
  unfold readLineBytes
  generalize cursor.nextLine = step at hline ⊢
  obtain ⟨_ | _ | line, next⟩ := step
  · exact hline
  · exact hline
  · exact hline.tail (.notes (next.lineno + 1) next.pending)

theorem comesOf_readLine : ComesOf cursor cursor.readLine.2 := by
  have hline := cursor.comesOf_nextLine
  unfold readLine
  generalize cursor.nextLine = step at hline ⊢
  obtain ⟨_ | _ | line, next⟩ := step
  · exact hline
  · exact hline
  · simp only
    split
    · exact hline.tail (.notes (next.lineno + 1) next.pending)
    · exact hline

theorem comesOf_skip : ComesOf cursor cursor.skip := by
  unfold skip
  split
  · rename_i hphase
    exact .single (.closes hphase)
  · exact .refl

/-- **Every operation** is a sequence of moments. -/
theorem comesOf_perform (operation : Operation) : ComesOf cursor (perform operation cursor).2 := by
  match operation with
  | .read (some count) => exact comesOf_holdBack (comesOf_collect count [] cursor)
  | .read none | .readToEnd => exact comesOf_holdBack (comesOf_collectRest [] cursor)
  | .readByte => exact comesOf_orFault (comesOf_add (.upTo 1) [] cursor)
  | .readLine => exact cursor.comesOf_readLine
  | .readLineBytes => exact cursor.comesOf_readLineBytes
  | .skip => exact cursor.comesOf_skip

/-! ## The count of lines -/

/-- A portion counts no lines. -/
theorem lineno_crossing (portion : Portion) (out : Bytes) (cursor : AsyncCursor) :
    (crossing portion out cursor).next.lineno = cursor.lineno := by
  fun_induction crossing portion out cursor with
  | case1 => rfl
  | case2 => rfl
  | case3 => rfl
  | case4 _ _ _ _ _ _ _ _ ih => exact ih
  | case5 _ _ _ _ _ _ _ _ _ ih => exact ih
  | case6 => rfl

theorem lineno_add (portion : Portion) (out : Bytes) (cursor : AsyncCursor) :
    (add portion out cursor).next.lineno = cursor.lineno := by
  unfold add
  split
  · rfl
  · exact lineno_crossing portion out cursor

/-- Looking for a line counts none. -/
theorem lineno_nextLine : cursor.nextLine.2.lineno = cursor.lineno := by
  have hnext := lineno_add .line [] cursor
  unfold nextLine Delivery.orFault
  cases (add .line [] cursor).fault <;> exact hnext

/-! ## Where a portion is found -/

variable {cursor}

/-- **What a portion adds is added from the source that is then open**, and the cursor stays there. -/
theorem crossing_found {portion : Portion} {out : Bytes}
    (hmore : out.length < (crossing portion out cursor).got.length) :
    ∃ before id held reader, ComesOf cursor before ∧ before.phase = .active id held reader
      ∧ crossing portion out cursor
        = ⟨(PolledInlet.add portion out ⟨held, reader, before.world.input⟩).got,
            (PolledInlet.add portion out ⟨held, reader, before.world.input⟩).fault.map (.ofReading id),
            before.withInlet id (PolledInlet.add portion out ⟨held, reader, before.world.input⟩).next⟩ := by
  fun_induction crossing portion out cursor with
  | case1 => exact absurd hmore (Nat.lt_irrefl _)
  | case2 => exact absurd hmore (Nat.lt_irrefl _)
  | case3 => exact absurd hmore (Nat.lt_irrefl _)
  | case4 cursor hphase source rest hnext reader hopen _ ih =>
    obtain ⟨before, id, held, reader, hcomes, hfound⟩ := ih hmore
    exact ⟨before, id, held, reader, .head (.opens hphase hnext hopen) hcomes, hfound⟩
  | case5 cursor id held reader hphase reply cursor' _ _ ih =>
    obtain ⟨before, id, held, reader, hcomes, hfound⟩ := ih hmore
    exact ⟨before, id, held, reader, .head (.adds portion out hphase) (.head (.closes rfl) hcomes), hfound⟩
  | case6 cursor id held reader hphase => exact ⟨cursor, id, held, reader, .refl, hphase, rfl⟩

end AsyncCursor

end InputChain
