import InputChain.Proofs.Rounds

/-!
# The units of a read

A read of so many bytes collects units as long as bytes are wanting. Every unit but the last gives one of them, so
there are no more units than bytes; and every unit is found within the list.

* `Cursor.ReadUnits`, **`Cursor.exists_readUnits`**, **`Cursor.ReadUnits.le`**: the units of a read.
* `Cursor.ReadUnits.gather_eq`, `Cursor.ReadUnits.collect_eq`: either cursor reads so many bytes in these units.
* `Delivery.asRead`, `Cursor.ReadEndsWithin`: the answer of a read, and the bound on its units.
* **`units_end_within_list`**: the bounds on a unit and on a read, for either cursor, wherever it stands.
-/

namespace InputChain

namespace Cursor

section

variable {σ : Type} {call : Nat → Bytes → Cursor σ → Delivery σ} {count : Nat}

/-- The units of a read of `count` bytes behind what has been collected: their number, and what they give together.
As long as bytes are wanting one unit more is read, unless the last failed or gave nothing. -/
inductive ReadUnits (call : Nat → Bytes → Cursor σ → Delivery σ) (count : Nat) :
    Bytes → Cursor σ → Nat → Delivery σ → Prop where
  | enough {out : Bytes} {cursor : Cursor σ} (hout : count ≤ out.length) :
      ReadUnits call count out cursor 0 ⟨out, none, cursor⟩
  | stops {out : Bytes} {cursor : Cursor σ} {delivery : Delivery σ} (hout : out.length < count)
      (hcall : call (count - out.length) out cursor = delivery)
      (hstop : delivery.fault.isSome ∨ delivery.got.length ≤ out.length) :
      ReadUnits call count out cursor 1 delivery
  | more {out : Bytes} {cursor : Cursor σ} {delivery last : Delivery σ} {calls : Nat} (hout : out.length < count)
      (hcall : call (count - out.length) out cursor = delivery) (hfault : delivery.fault = none)
      (hgot : out.length < delivery.got.length)
      (rest : ReadUnits call count delivery.got delivery.next calls last) :
      ReadUnits call count out cursor (calls + 1) last

/-- **Whatever the units give, such a read comes to an end.** -/
theorem exists_readUnits (call : Nat → Bytes → Cursor σ → Delivery σ) (count : Nat) (out : Bytes)
    (cursor : Cursor σ) : ∃ calls delivery, ReadUnits call count out cursor calls delivery := by
  by_cases hout : count ≤ out.length
  · exact ⟨0, _, .enough hout⟩
  · rcases hcall : call (count - out.length) out cursor with ⟨got, fault, next⟩
    cases fault with
    | some error => exact ⟨1, _, .stops (Nat.lt_of_not_le hout) hcall (Or.inl rfl)⟩
    | none =>
      by_cases hgot : got.length ≤ out.length
      · exact ⟨1, _, .stops (Nat.lt_of_not_le hout) hcall (Or.inr hgot)⟩
      · obtain ⟨calls, delivery, hrest⟩ := exists_readUnits call count got next
        exact ⟨calls + 1, delivery, .more (Nat.lt_of_not_le hout) hcall rfl (Nat.lt_of_not_le hgot) hrest⟩
  termination_by count - out.length

/-- **Each unit but the last gives one of the bytes that are wanting.** -/
theorem ReadUnits.le {out : Bytes} {cursor : Cursor σ} {calls : Nat} {delivery : Delivery σ}
    (h : ReadUnits call count out cursor calls delivery) : calls ≤ count - out.length := by
  induction h with
  | enough => exact Nat.zero_le _
  | stops hout => exact Nat.sub_pos_of_lt hout
  | more hout hcall hfault hgot rest ih => omega

end

/-! ## Either cursor -/

/-- A unit of at most so many bytes, behind what has been collected. -/
def unitUpTo (want : Nat) (out : Bytes) (cursor : Cursor Script) : Delivery Script :=
  (cursor.readUnit (Inlet.takeUpTo want)).after out

theorem got_unitUpTo (want : Nat) (out : Bytes) (cursor : Cursor Script) :
    (unitUpTo want out cursor).got = out ++ (cursor.readUnit (Inlet.takeUpTo want)).got := rfl

/-- A cursor that waits reads so many bytes in these units. -/
theorem ReadUnits.gather_eq {count : Nat} {out : Bytes} {cursor : Cursor Script} {calls : Nat}
    {delivery : Delivery Script} (h : ReadUnits unitUpTo count out cursor calls delivery) :
    (cursor.gather (count - out.length)).after out = delivery := by
  induction h with
  | enough hout =>
    rw [Nat.sub_eq_zero_of_le hout, gather_zero, Delivery.after, List.append_nil]
  | @stops out cursor delivery hout hcall hstop =>
    subst hcall
    have hnil : (cursor.readUnit (Inlet.takeUpTo (count - out.length))).got = [] := by
      rcases hstop with hfault | hgot
      -- A unit that takes bytes of a block gives none if it fails.
      · obtain ⟨error, herror⟩ := Option.isSome_iff_exists.1 hfault
        exact got_readUnit_of_fault (fun _ _ => Inlet.got_takeUpTo_of_fault) herror
      · rw [got_unitUpTo, List.length_append] at hgot
        exact List.length_eq_zero_iff.1 (by omega)
    rw [gather_of_nil (Nat.sub_ne_zero_of_lt hout) hnil]
    rfl
  | @more out cursor delivery last calls hout hcall hfault hgot rest ih =>
    subst hcall
    rw [got_unitUpTo, List.length_append] at hgot
    have hsome : (cursor.readUnit (Inlet.takeUpTo (count - out.length))).got ≠ [] :=
      List.length_pos_iff.1 (by omega)
    rw [got_unitUpTo, List.length_append] at ih
    rw [gather_of_got (Nat.sub_ne_zero_of_lt hout) hsome, Delivery.after_after, Nat.sub_sub]
    exact ih

/-- A cursor whose readers can be not ready reads so many bytes in these units. -/
theorem ReadUnits.collect_eq {count : Nat} {out : Bytes} {cursor : AsyncCursor} {calls : Nat}
    {delivery : Delivery PolledScript}
    (h : ReadUnits (fun want => AsyncCursor.add (.upTo want)) count out cursor calls delivery) :
    AsyncCursor.collect count out cursor = delivery := by
  induction h with
  | enough hout => rw [AsyncCursor.collect, dif_pos hout]
  | stops hout hcall hstop =>
    subst hcall
    rw [AsyncCursor.collect, dif_neg (Nat.not_le_of_lt hout)]
    exact dif_pos hstop
  | more hout hcall hfault hgot rest ih =>
    subst hcall
    rw [← ih, AsyncCursor.collect, dif_neg (Nat.not_le_of_lt hout)]
    exact dif_neg (not_or.2 ⟨Option.not_isSome_iff_eq_none.2 hfault, Nat.not_le_of_lt hgot⟩)

end Cursor

/-- The answer to a read of `count` bytes, by what its units give. -/
def Delivery.asRead {σ : Type} (count : Nat) (delivery : Delivery σ) :
    Except SourceError (Option Bytes) × Cursor σ :=
  delivery.holdBack.map (Except.map fun got => if count = 0 ∨ got ≠ [] then some got else none) id

namespace Cursor

theorem read_eq_asRead (count : Nat) (cursor : Cursor Script) :
    cursor.read count = (cursor.gather count).asRead count := by
  by_cases hcount : count = 0
  · rw [hcount, read, if_pos rfl, gather_zero]
    rfl
  · simp only [read, Delivery.asRead, hcount, false_or, List.isEmpty_iff, ne_eq, ite_not]
    rfl

/-- A read of `count` bytes comes to an end, after at most `count` units, and this is what it answers. -/
structure ReadEndsWithin {σ : Type} (call : Nat → Bytes → Cursor σ → Delivery σ) (count : Nat) (cursor : Cursor σ)
    (answer : Except SourceError (Option Bytes) × Cursor σ) : Prop where
  runs : ∃ calls delivery, ReadUnits call count [] cursor calls delivery
  calls_le : ∀ calls delivery, ReadUnits call count [] cursor calls delivery → calls ≤ count
  answer_eq : ∀ calls delivery, ReadUnits call count [] cursor calls delivery → answer = delivery.asRead count

theorem readEndsWithin_read (count : Nat) (cursor : Cursor Script) :
    ReadEndsWithin unitUpTo count cursor (cursor.read count) where
  runs := exists_readUnits unitUpTo count [] cursor
  calls_le _ _ h := h.le
  answer_eq _ _ h := (read_eq_asRead count cursor).trans (congrArg (Delivery.asRead count) h.gather_eq)

theorem readEndsWithin_asyncRead (count : Nat) (cursor : AsyncCursor) :
    ReadEndsWithin (fun want => AsyncCursor.add (.upTo want)) count cursor (AsyncCursor.read count cursor) where
  runs := exists_readUnits _ count [] cursor
  calls_le _ _ h := h.le
  answer_eq _ _ h := congrArg (Delivery.asRead count) h.collect_eq

end Cursor

open Cursor Findable

/-- **A unit ends within the list, and a read within as many units as bytes.** Wherever a cursor stands, whatever
its readers do and whatever the unit gives, bytes or a text, it asks at most one inlet more than there are entries
left, takes no more entries than are left, and each of its rounds returns or lowers twice the entries left and one
for an open source. -/
theorem units_end_within_list {α : Type} [Findable α] (unit : Inlet Script → Reply (Inlet Script) α)
    (cursor : Cursor Script) (portion : Portion) (out : Bytes) (polled : AsyncCursor) (count : Nat) :
    (∃ rounds taken, EndsWithin nothing isNothing unit cursor rounds taken (cursor.readUnit unit))
      ∧ ReadEndsWithin unitUpTo count cursor (cursor.read count)
      ∧ (∃ rounds taken, EndsWithin out (AsyncCursor.noMoreThan out) (PolledInlet.add portion out) polled rounds taken
          (AsyncCursor.add portion out polled))
      ∧ ReadEndsWithin (fun want => AsyncCursor.add (.upTo want)) count polled (AsyncCursor.read count polled) :=
  ⟨endsWithin_readUnit unit cursor, readEndsWithin_read count cursor,
    AsyncCursor.endsWithin_add portion out polled, readEndsWithin_asyncRead count polled⟩

end InputChain
