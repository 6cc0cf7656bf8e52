import InputChain.Proofs.Operations

/-!
# Cursors seen through a change of their sources

To compare two cursors over sources that differ in their readers alone, take the one cursor to the
other by changing every source and the open reader. What a cursor tells of itself and every step that
reads nothing is untouched by the change.

* `Cursor.map`, `Delivery.map`: the cursor and the delivery with every source changed.
* `Cursor.phase_map`, `Cursor.next?_map_none`, `Cursor.next?_map_some`: where the cursor stands.
* `Cursor.enter_map` and its like: the steps of a cursor.
* `Cursor.standing_map`, `Cursor.observe_map`: what is seen of it.
* `Delivery.holdBack_map`, `Delivery.orFault_map`: how a delivery is answered.
-/

namespace InputChain

variable {σ τ : Type} (source : Source σ → Source τ) (reader : Reader σ → Reader τ)

/-- The list with every source changed. -/
def SourceList.map (list : SourceList σ) : SourceList τ :=
  ⟨list.sources.map source, list.position⟩

/-- The phase with the open reader changed. -/
def Phase.map : Phase σ → Phase τ
  | .idle => .idle
  | .active id held opened => .active id held (reader opened)
  | .exhausted => .exhausted

/-- The cursor with every source and the open reader changed. -/
def Cursor.map (cursor : Cursor σ) : Cursor τ where
  sources := cursor.sources.map source
  phase := cursor.phase.map reader
  lineno := cursor.lineno
  pending := cursor.pending
  world := cursor.world
  journal := cursor.journal

/-- The delivery with the cursor behind it changed. -/
def Delivery.map (delivery : Delivery σ) : Delivery τ :=
  ⟨delivery.got, delivery.fault, delivery.next.map source reader⟩

namespace SourceList

theorem next?_map (list : SourceList σ) :
    (list.map source).next? = list.next?.map fun (first, rest) => (source first, rest.map source) := by
  simp only [next?, map, List.getElem?_map]
  cases list.sources[list.position]? <;> rfl

theorem remaining_map (list : SourceList σ) : (list.map source).remaining = list.remaining.map source := by
  rw [remaining_eq_drop, remaining_eq_drop, List.map_drop]
  rfl

end SourceList

namespace Cursor

/-! ## Where the cursor stands -/

section Where

variable {source reader} {cursor : Cursor σ}

theorem phase_map {phase : Phase σ} (hphase : cursor.phase = phase) :
    (cursor.map source reader).phase = phase.map reader :=
  congrArg (Phase.map reader) hphase

theorem next?_map_none (hnext : cursor.sources.next? = none) :
    (cursor.map source reader).sources.next? = none := by
  rw [map, SourceList.next?_map, hnext]
  rfl

theorem next?_map_some {given : Source σ} {rest : SourceList σ}
    (hnext : cursor.sources.next? = some (given, rest)) :
    (cursor.map source reader).sources.next? = some (source given, rest.map source) := by
  rw [map, SourceList.next?_map, hnext]
  rfl

end Where

variable (cursor : Cursor σ)

/-! ## Steps that read nothing -/

theorem enter_map (id : String) (opened : Reader σ) (rest : SourceList σ) :
    (cursor.enter id opened rest).map source reader
      = (cursor.map source reader).enter id (reader opened) (rest.map source) := rfl

theorem refuse_map (rest : SourceList σ) :
    (cursor.refuse rest).map source reader
      = (cursor.map source reader).refuse (rest.map source) := rfl

theorem close_map : cursor.close.map source reader = (cursor.map source reader).close := rfl

theorem skip_map : cursor.skip.map source reader = (cursor.map source reader).skip := by
  unfold skip
  cases h : cursor.phase <;> simp only [map, h, Phase.map]
  exact cursor.close_map source reader

/-! ## What is seen of a cursor -/

theorem remaining_map : (cursor.map source reader).remaining = cursor.remaining.map source :=
  cursor.sources.remaining_map source

theorem currentId?_map : (cursor.map source reader).currentId? = cursor.currentId? := by
  unfold currentId?
  cases h : cursor.phase <;> simp only [map, h, Phase.map]

theorem isExhausted_map : (cursor.map source reader).isExhausted = cursor.isExhausted := by
  unfold isExhausted
  cases h : cursor.phase <;> simp only [map, h, Phase.map]

variable {source} in
/-- A cursor tells nothing of its sources but their identifiers. -/
theorem standing_map (hid : ∀ given, (source given).id = given.id) :
    (cursor.map source reader).standing = cursor.standing := by
  have hindex : (cursor.map source reader).sourceIndex? = cursor.sourceIndex? := rfl
  have hids : SourceList.ids (cursor.map source reader).remaining
      = SourceList.ids cursor.remaining := by
    rw [SourceList.ids, remaining_map, List.map_map]
    exact List.map_congr_left fun given _ => hid given
  simp only [standing, currentId?_map, hindex, hids, isExhausted_map]
  rfl

/-- What a caller sees of a step: the answer, what the cursor tells of itself afterwards, and the
open calls it has made by then. -/
def observe {ρ : Type} (step : ρ × Cursor σ) : ρ × Standing × Nat :=
  (step.1, step.2.standing, step.2.openings)

variable {source} in
theorem observe_map {ρ : Type} (hid : ∀ given, (source given).id = given.id)
    (step : ρ × Cursor σ) : observe (step.map id (Cursor.map source reader)) = observe step := by
  simp only [observe, Prod.map_fst, Prod.map_snd, id, standing_map reader _ hid]
  rfl

end Cursor

namespace Delivery

variable (delivery : Delivery σ)

theorem holdBack_map :
    delivery.holdBack.map id (Cursor.map source reader)
      = (delivery.map source reader).holdBack := by
  unfold holdBack
  cases h : delivery.fault with
  | none => simp only [map, h, Prod.map, id]
  | some error =>
    simp only [map, h]
    split <;> rfl

theorem orFault_map :
    delivery.orFault.map id (Cursor.map source reader) = (delivery.map source reader).orFault := by
  unfold orFault
  cases h : delivery.fault <;> simp only [map, h, Prod.map, id]

end Delivery

end InputChain
