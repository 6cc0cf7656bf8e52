import InputChain.Cursor.Basic

/-!
# What a cursor can still give

Every read of a cursor uses something up: bytes, answers, entries of the list, a held failure. The
supply counts them, so a read that goes on until nothing is left comes to an end.

* `Source.supply`, `Cursor.supply`: the counts.
* `Cursor.supply_withInlet`, `Cursor.supply_close`, `Cursor.supply_enter`, `Cursor.supply_refuse`: no
  step of a cursor adds to its supply.
-/

namespace InputChain

variable {σ : Type} [Behaviour σ]

/-- A bound on what a source can give once it is open. -/
def Source.supply (files : FileTree) (source : Source σ) : Nat :=
  match source.provider.opened files with
  | .ok (.script answers) => Behaviour.supply answers
  | _ => 0

namespace Cursor

/-- A bound on what a cursor can still give, and on the failures it can still report. -/
def supply (cursor : Cursor σ) : Nat :=
  cursor.remaining.foldr (fun source bound => 1 + source.supply cursor.world.files + bound) 0
    + cursor.pending.toList.length
    + match cursor.phase with
      | .active _ held reader => Inlet.supply ⟨held, reader, cursor.world.input⟩
      | _ => cursor.world.input.left.length

theorem supply_close (cursor : Cursor σ) (id : String) (inlet : Inlet σ) :
    (cursor.withInlet id inlet).close.supply ≤ (cursor.withInlet id inlet).supply := by
  simp only [supply, close, withInlet, remaining, Inlet.supply]
  split <;> omega

theorem supply_withInlet {cursor : Cursor σ} {id : String} {held : Bytes}
    {reader : Reader σ} (hphase : cursor.phase = .active id held reader)
    (inlet : Inlet σ) (n : Nat)
    (h : n + inlet.supply ≤ Inlet.supply ⟨held, reader, cursor.world.input⟩) :
    n + (cursor.withInlet id inlet).supply ≤ cursor.supply := by
  obtain ⟨held', reader', input'⟩ := inlet
  simp only [supply, hphase, withInlet, remaining]
  omega

theorem supply_enter {cursor : Cursor σ} {source : Source σ} {rest : SourceList σ}
    {reader : Reader σ} (hphase : cursor.phase = .idle)
    (hnext : cursor.sources.next? = some (source, rest))
    (hopen : source.provider.opened cursor.world.files = .ok reader) :
    (cursor.enter source.id reader rest).supply ≤ cursor.supply := by
  have hr := SourceList.remaining_next? hnext
  simp only [supply, enter, remaining, hphase, hr, List.foldr_cons, Inlet.supply,
    List.length_nil, Source.supply, hopen]
  cases reader <;> simp only <;> omega

theorem supply_refuse {cursor : Cursor σ} {source : Source σ} {rest : SourceList σ}
    (hphase : cursor.phase = .idle) (hnext : cursor.sources.next? = some (source, rest)) :
    (cursor.refuse rest).supply ≤ cursor.supply := by
  have hr := SourceList.remaining_next? hnext
  simp only [supply, refuse, remaining, hphase, hr, List.foldr_cons]
  omega

end Cursor

end InputChain
