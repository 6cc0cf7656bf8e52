import InputChain.Cursor.Supply
import InputChain.Inlet.Blocking

/-!
# One unit of a stream

Whatever is read of a cursor is read in units: a unit is taken from one source, and if that source
has nothing left, from the next. So every read crosses the boundaries between sources alike, whatever
its units are: bytes, or something made of them.

* `Findable`: what a unit can be, and when there is nothing of it.
* `Cursor.crossing`: one unit, from the first source that has one.
* `Cursor.readUnit`: the held failure, else one unit.
* `Cursor.supply_readUnit`: what a unit gave is no longer to come.
-/

namespace InputChain

/-- What a unit can be. A source with nothing left gives nothing of it. -/
class Findable (α : Type) where
  nothing : α
  isNothing : α → Bool

instance : Findable Bytes := ⟨[], List.isEmpty⟩

instance {α : Type} : Findable (Option α) := ⟨none, Option.isNone⟩

@[simp] theorem Findable.nothing_bytes : (Findable.nothing : Bytes) = [] := rfl

@[simp] theorem Findable.isNothing_bytes (got : Bytes) : Findable.isNothing got = got.isEmpty := rfl

namespace Cursor

open Findable

section Unit

variable {α : Type} [Findable α]

/-- One unit from the first source that has one, or the failure met before. Each turn returns, closes
the open source or takes an entry of the list. -/
def crossing (unit : Inlet Script → Reply (Inlet Script) α) (cursor : Cursor Script) :
    Delivery Script α :=
  match hphase : cursor.phase with
  | .exhausted => ⟨nothing, none, cursor⟩
  | .active id held reader =>
    let reply := unit ⟨held, reader, cursor.world.input⟩
    let cursor' := cursor.withInlet id reply.next
    match reply.fault with
    | some error => ⟨reply.got, some (.ofReading id error), cursor'⟩
    | none =>
      if isNothing reply.got then
        have : cursor'.close.crossings < cursor.crossings := by
          simp [crossings, cursor', close, withInlet, remaining, hphase]
        crossing unit cursor'.close
      else ⟨reply.got, none, cursor'⟩
  | .idle =>
    match hnext : cursor.sources.next? with
    | none => ⟨nothing, none, { cursor with phase := .exhausted }⟩
    | some (source, rest) =>
      match source.provider.opened cursor.world.files with
      | .error error => ⟨nothing, some (.ofOpening source.id error), cursor.refuse rest⟩
      | .ok reader =>
        have : (cursor.enter source.id reader rest).crossings < cursor.crossings := by
          have := congrArg List.length (SourceList.remaining_next? hnext)
          simp only [List.length_cons] at this
          simp only [crossings, enter, remaining, hphase]
          omega
        crossing unit (cursor.enter source.id reader rest)
  termination_by cursor.crossings

/-- The failure held for this read, else one unit. -/
def readUnit (unit : Inlet Script → Reply (Inlet Script) α) (cursor : Cursor Script) :
    Delivery Script α :=
  match cursor.pending with
  | some error => ⟨nothing, some error, { cursor with pending := none }⟩
  | none => cursor.crossing unit

/-! ## What is still to come -/

/-- A unit costs the inlet at least what it gives, by a price of what is given. -/
def Draws (price : α → Nat) (unit : Inlet Script → Reply (Inlet Script) α) : Prop :=
  ∀ inlet, price (unit inlet).got + (unit inlet).next.supply ≤ inlet.supply

theorem supply_crossing {price : α → Nat} {unit : Inlet Script → Reply (Inlet Script) α}
    (hunit : Draws price unit) (hprice : price nothing = 0) (cursor : Cursor Script) :
    price (cursor.crossing unit).got + (cursor.crossing unit).next.supply ≤ cursor.supply := by
  fun_induction crossing unit cursor with
  | case1 => simp [hprice]
  | case2 cursor id held reader hphase reply cursor' error hfault =>
    exact supply_withInlet hphase _ _ (hunit _)
  | case3 cursor id held reader hphase reply cursor' hfault hempty _ ih =>
    have h := supply_withInlet hphase _ _ (hunit _)
    have h' := supply_close cursor id reply.next
    simp only [cursor', reply] at ih h h' ⊢
    omega
  | case4 cursor id held reader hphase reply cursor' hfault hempty =>
    exact supply_withInlet hphase _ _ (hunit _)
  | case5 cursor hphase hnext =>
    simp [supply, hphase, remaining, hprice]
  | case6 cursor hphase source rest hnext error hopen =>
    have := supply_refuse hphase hnext
    simp only [hprice]
    omega
  | case7 cursor hphase source rest hnext reader hopen _ ih =>
    exact Nat.le_trans ih (supply_enter hphase hnext hopen)

theorem supply_readUnit (price : α → Nat) {unit : Inlet Script → Reply (Inlet Script) α}
    (hunit : Draws price unit) (hprice : price nothing = 0) (cursor : Cursor Script) :
    price (cursor.readUnit unit).got + (cursor.readUnit unit).next.supply ≤ cursor.supply := by
  unfold readUnit
  split
  · rename_i h
    simp only [supply, h, remaining, Option.toList, List.length_nil, List.length_cons, hprice]
    omega
  · exact supply_crossing hunit hprice cursor

end Unit

/-- A unit that gives bytes leaves less to come. -/
theorem supply_readUnit_lt {unit : Inlet Script → Reply (Inlet Script)}
    (hunit : Draws List.length unit) (cursor : Cursor Script)
    (hgot : (cursor.readUnit unit).got ≠ []) :
    (cursor.readUnit unit).next.supply < cursor.supply := by
  have h₁ := supply_readUnit _ hunit rfl cursor
  have h₂ := List.length_pos_iff.2 hgot
  omega

end Cursor

end InputChain
