import InputChain.Cursor.Supply
import InputChain.Inlet.Polled

/-!
# Adding a portion from a cursor whose readers can be not ready

The cursor stands as any cursor does, and a task reads it: each read adds a portion, from the open
source or, if that has nothing left, from the next one that has something.

* `AsyncCursor.add`: the held failure, else one portion more.
* `AsyncCursor.supply_add`: what was added is no longer to come.
-/

namespace InputChain

/-- A cursor whose readers can be not ready. -/
abbrev AsyncCursor := Cursor PolledScript

namespace AsyncCursor

open Cursor

/-- Adds a portion from the first source that has something, or meets the failure in front of it. -/
def crossing (portion : Portion) (out : Bytes) (cursor : AsyncCursor) : Delivery PolledScript :=
  match hphase : cursor.phase with
  | .exhausted => ⟨out, none, cursor⟩
  | .idle =>
    match hnext : cursor.sources.next? with
    | none => ⟨out, none, { cursor with phase := .exhausted }⟩
    | some (source, rest) =>
      match source.provider.opened cursor.world.files with
      | .error error => ⟨out, some (.ofOpening source.id error), cursor.refuse rest⟩
      | .ok reader =>
        have : (cursor.enter source.id reader rest).crossings < cursor.crossings := by
          have := congrArg List.length (SourceList.remaining_next? hnext)
          simp only [List.length_cons] at this
          simp only [crossings, enter, remaining, hphase]
          omega
        crossing portion out (cursor.enter source.id reader rest)
  | .active id held reader =>
    let reply := PolledInlet.add portion out ⟨held, reader, cursor.world.input⟩
    let cursor' := cursor.withInlet id reply.next
    if reply.fault.isNone ∧ reply.got.length ≤ out.length then
      have : cursor'.close.crossings < cursor.crossings := by
        simp [crossings, cursor', close, withInlet, remaining, hphase]
      crossing portion out cursor'.close
    else ⟨reply.got, reply.fault.map (.ofReading id), cursor'⟩
  termination_by cursor.crossings

/-- The failure held for this read, else one portion more. -/
def add (portion : Portion) (out : Bytes) (cursor : AsyncCursor) : Delivery PolledScript :=
  match cursor.pending with
  | some error => ⟨out, some error, { cursor with pending := none }⟩
  | none => crossing portion out cursor

theorem supply_advance {cursor : AsyncCursor} {id : String} {held : Bytes}
    {reader : Reader PolledScript} (hphase : cursor.phase = .active id held reader)
    (portion : Portion) (out : Bytes) :
    (PolledInlet.add portion out ⟨held, reader, cursor.world.input⟩).got.length - out.length
      + (cursor.withInlet id
          (PolledInlet.add portion out ⟨held, reader, cursor.world.input⟩).next).supply
      ≤ cursor.supply := by
  have h₁ := PolledInlet.supply_add portion out ⟨held, reader, cursor.world.input⟩
  have h₂ := PolledInlet.length_le_add portion out ⟨held, reader, cursor.world.input⟩
  exact supply_withInlet hphase _ _ (by omega)

theorem supply_crossing (portion : Portion) (out : Bytes) (cursor : AsyncCursor) :
    (crossing portion out cursor).got.length + (crossing portion out cursor).next.supply
      ≤ out.length + cursor.supply := by
  fun_induction crossing portion out cursor with
  | case1 => simp
  | case2 cursor hphase hnext => simp [supply, hphase, remaining]
  | case3 cursor hphase source rest hnext error hopen =>
    exact Nat.add_le_add_left (supply_refuse hphase hnext) _
  | case4 cursor hphase source rest hnext reader hopen _ ih =>
    exact Nat.le_trans ih (Nat.add_le_add_left (supply_enter hphase hnext hopen) _)
  | case5 cursor id held reader hphase reply cursor' h _ ih =>
    have h₁ := supply_advance hphase portion out
    have h₂ := supply_close cursor id reply.next
    simp only [cursor', reply] at h₂ ih ⊢
    omega
  | case6 cursor id held reader hphase reply cursor' h =>
    have h₁ := supply_advance hphase portion out
    have h₂ := PolledInlet.length_le_add portion out ⟨held, reader, cursor.world.input⟩
    simp only [cursor', reply]
    omega

theorem supply_add (portion : Portion) (out : Bytes) (cursor : AsyncCursor) :
    (add portion out cursor).got.length + (add portion out cursor).next.supply
      ≤ out.length + cursor.supply := by
  unfold add
  split
  · rename_i h
    simp only [supply, h, remaining, Option.toList, List.length_nil, List.length_cons]
    omega
  · exact supply_crossing portion out cursor

end AsyncCursor

end InputChain
