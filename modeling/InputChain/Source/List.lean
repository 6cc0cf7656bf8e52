import InputChain.Source.Basic

/-!
# The list of sources of a stream

The sources are handed out one after another, each once. A list keeps all of its sources and counts those it has
handed out: the count is the position of the next one. A stream is never without a source: a list made of none holds
standard input.

* `SourceList`: the sources and the position.
* `SourceList.ofList`, `SourceList.next?`.
* `SourceList.remaining?`, `SourceList.remaining`: the sources behind the position.
* `SourceList.sources_next?`, `SourceList.position_next?`, `SourceList.remaining_next?`: what handing out changes.
-/

namespace InputChain

/-- The sources of a stream in order, and how many of them have been handed out. -/
structure SourceList (σ : Type) where
  /-- All sources, handed out or not. -/
  sources : List (Source σ)
  /-- The number of sources handed out. -/
  position : Nat

namespace SourceList

variable {σ : Type}

/-- The list of these sources, none of them handed out; of standard input if there are none. -/
def ofList (sources : List (Source σ)) : SourceList σ :=
  ⟨if sources.isEmpty then [Source.standardInput] else sources, 0⟩

/-- Hands out the source at the position, if there is one there. -/
def next? (list : SourceList σ) : Option (Source σ × SourceList σ) :=
  match list.sources[list.position]? with
  | none => none
  | some source => some (source, { list with position := list.position + 1 })

/-- The part of the list behind the position. There is no such part of a list whose position is past its end. -/
def remaining? (list : SourceList σ) : Option (List (Source σ)) :=
  if list.position ≤ list.sources.length then some (list.sources.drop list.position) else none

/-- The sources still to come. -/
def remaining (list : SourceList σ) : List (Source σ) :=
  list.remaining?.getD []

/-- The number of sources. -/
def size (list : SourceList σ) : Nat :=
  list.sources.length

/-- Whether there is no source at all. -/
def isEmpty (list : SourceList σ) : Bool :=
  list.sources.isEmpty

/-- Whether every source has been handed out. -/
def isExhausted (list : SourceList σ) : Bool :=
  list.size ≤ list.position

/-- The identifiers of some sources. -/
def ids (sources : List (Source σ)) : List String :=
  sources.map Source.id

theorem remaining_eq_drop (list : SourceList σ) : list.remaining = list.sources.drop list.position := by
  unfold remaining remaining?
  split
  · rfl
  · rename_i hpast
    exact (List.drop_eq_nil_of_le (Nat.le_of_not_le hpast)).symm

/-- Nothing remains just if the position is at the end, or past it. -/
theorem remaining_eq_nil_iff {list : SourceList σ} : list.remaining = [] ↔ list.size ≤ list.position := by
  rw [remaining_eq_drop, List.drop_eq_nil_iff, size]

theorem remaining_ofList (sources : List (Source σ)) :
    (ofList sources).remaining = if sources.isEmpty then [Source.standardInput] else sources :=
  remaining_eq_drop _

section Next

variable {list rest : SourceList σ} {source : Source σ}

theorem next?_eq_some_iff : list.next? = some (source, rest) ↔
    list.sources[list.position]? = some source ∧ rest = { list with position := list.position + 1 } := by
  unfold next?
  cases list.sources[list.position]? with
  | none => simp
  | some found => simp [eq_comm]

/-- The source handed out next is the one at the position. -/
theorem getElem?_next? (h : list.next? = some (source, rest)) : list.sources[list.position]? = some source :=
  (next?_eq_some_iff.1 h).1

theorem sources_next? (h : list.next? = some (source, rest)) : rest.sources = list.sources := by
  rw [(next?_eq_some_iff.1 h).2]

theorem position_next? (h : list.next? = some (source, rest)) : rest.position = list.position + 1 := by
  rw [(next?_eq_some_iff.1 h).2]

/-- Handing out does not go past the end. -/
theorem position_le_next? (h : list.next? = some (source, rest)) : rest.position ≤ rest.size := by
  obtain ⟨hlt, -⟩ := List.getElem?_eq_some_iff.1 (getElem?_next? h)
  rw [position_next? h, size, sources_next? h]
  exact hlt

theorem remaining_next? (h : list.next? = some (source, rest)) : list.remaining = source :: rest.remaining := by
  obtain ⟨hlt, hsource⟩ := List.getElem?_eq_some_iff.1 (getElem?_next? h)
  rw [remaining_eq_drop, remaining_eq_drop, sources_next? h, position_next? h, List.drop_eq_getElem_cons hlt, hsource]

theorem remaining_next?_none (h : list.next? = none) : list.remaining = [] := by
  unfold next? at h
  split at h
  · rename_i hnone
    rw [remaining_eq_drop]
    exact List.drop_eq_nil_of_le (List.getElem?_eq_none_iff.1 hnone)
  · cases h

/-- As long as there are sources to come, the first of them is handed out, and the others are still to come. -/
theorem next?_of_remaining {behind : List (Source σ)} (h : list.remaining = source :: behind) :
    ∃ rest, list.next? = some (source, rest) ∧ rest.remaining = behind := by
  have hhead : list.sources[list.position]? = some source := by
    rw [← List.head?_drop, ← remaining_eq_drop, h]
    rfl
  have hnext := next?_eq_some_iff.2 ⟨hhead, rfl⟩
  exact ⟨_, hnext, (List.cons.inj (h.symm.trans (remaining_next? hnext))).2.symm⟩

theorem next?_of_nil (h : list.remaining = []) : list.next? = none := by
  cases hnext : list.next? with
  | none => rfl
  | some found => cases h.symm.trans (remaining_next? hnext)

end Next

end SourceList

end InputChain
