import InputChain.Proofs.Operations
import Mathlib.Data.List.Forall2

/-!
# Lists of sources and their copies

A list of sources can be copied at any time, and from then on the list and its copy hand out their sources each on
its own. Every list hands out every source once and in order, its copies go on from where it stood when they were
made, and nothing asked of one list is seen in another.

* `SourceList.handOut`: the next source, or nothing and the list as it was.
* `SourceZipper`, `SourceList.parted`, **`SourceList.parted_handOut`**: a list parted at its position hands out alike.
* `ListCall`, `ListCall.serve`, `ListCall.log`: a list and its copies, the calls on them and the answers.
* `ListCall.note`, `ListCall.handed`: what every list has handed out, read off the answers.
* `SourceList.Stands`: how a list stands with what it has handed out.
* `SourceList.position_le_handOut`: no list goes past its end.
* `ListCall.tracks_serve`, **`ListCall.tracks_run`**: one call, and several.
* `SourceList.handOut_of_end`, `ListCall.serve_at_end`: a list that has handed out everything.
* **`sources_handed_out_once`**: all of this after any calls.
-/

namespace InputChain

variable {σ : Type}

/-! ## One list -/

namespace SourceList

/-- The next source and the list without it. With none left the list stays as it is. -/
def handOut (list : SourceList σ) : Option (Source σ) × SourceList σ :=
  match list.next? with
  | none => (none, list)
  | some (source, rest) => (some source, rest)

/-- How a list that was made as `start` stands when it has handed out these sources. -/
structure Stands (start : SourceList σ) (handed : List (Source σ)) (list : SourceList σ) : Prop where
  sources : list.sources = start.sources
  size_pos : 1 ≤ list.size
  position_le : list.position ≤ list.size
  /-- There is a part of the list behind its position. -/
  remaining? : list.remaining? = some list.remaining
  position : list.position = handed.length
  conserved : handed ++ list.remaining = list.sources
  isExhausted_iff : list.isExhausted = true ↔ list.remaining = []

variable {start list : SourceList σ} {handed : List (Source σ)}

theorem sources_ofList (sources : List (Source σ)) :
    (ofList sources).sources = if sources = [] then [Source.standardInput] else sources := by
  cases sources <;> rfl

theorem sources_ofList_ne_nil (sources : List (Source σ)) : (ofList sources).sources ≠ [] := by
  cases sources <;> exact List.cons_ne_nil _ _

theorem isExhausted_iff_remaining : list.isExhausted = true ↔ list.remaining = [] := by
  rw [isExhausted, decide_eq_true_iff, remaining_eq_nil_iff]

/-- A list within its end has a part behind its position. -/
theorem remaining?_of_position_le (hle : list.position ≤ list.size) : list.remaining? = some list.remaining := by
  rw [remaining_eq_drop]
  exact if_pos hle

theorem handOut_fst (list : SourceList σ) : list.handOut.1 = list.remaining.head? := by
  unfold handOut
  split
  · rename_i hnext
    rw [remaining_next?_none hnext]
    rfl
  · rename_i hnext
    rw [remaining_next? hnext]
    rfl

theorem sources_handOut (list : SourceList σ) : list.handOut.2.sources = list.sources := by
  unfold handOut
  split
  · rfl
  · rename_i hnext
    exact sources_next? hnext

/-- **No list goes past its end.** -/
theorem position_le_handOut (hle : list.position ≤ list.size) : list.handOut.2.position ≤ list.handOut.2.size := by
  unfold handOut
  split
  · exact hle
  · rename_i hnext
    exact position_le_next? hnext

/-- **A list that has handed out everything hands out nothing and stays as it is.** -/
theorem handOut_of_end (hend : list.position = list.size) : list.handOut = (none, list) := by
  rw [handOut, next?_of_nil (remaining_eq_nil_iff.2 (Nat.le_of_eq hend.symm))]

end SourceList

/-! ## A list parted at its position -/

/-- Sources in two parts: those handed out and those to come. -/
structure SourceZipper (σ : Type) where
  handed : List (Source σ)
  coming : List (Source σ)

namespace SourceZipper

/-- The first source to come goes over to those handed out. -/
def handOut : SourceZipper σ → Option (Source σ) × SourceZipper σ
  | ⟨handed, []⟩ => (none, ⟨handed, []⟩)
  | ⟨handed, source :: coming⟩ => (some source, ⟨handed ++ [source], coming⟩)

theorem handed_handOut (zipper : SourceZipper σ) :
    zipper.handOut.2.handed = zipper.handed ++ zipper.handOut.1.toList := by
  obtain ⟨handed, _ | ⟨source, coming⟩⟩ := zipper
  · exact (List.append_nil handed).symm
  · rfl

end SourceZipper

namespace SourceList

variable {start list : SourceList σ} {handed : List (Source σ)}

/-- The list in two parts, in front of its position and behind it. -/
def parted (list : SourceList σ) : SourceZipper σ :=
  ⟨list.sources.take list.position, list.remaining⟩

/-- **To look at the position and to take the first of the part behind it come to the same.** -/
theorem parted_handOut (list : SourceList σ) :
    list.handOut.1 = list.parted.handOut.1 ∧ list.handOut.2.parted = list.parted.handOut.2 := by
  unfold handOut
  cases hnext : list.next? with
  | none => simp only [parted, remaining_next?_none hnext, SourceZipper.handOut, and_self]
  | some found =>
    obtain ⟨source, rest⟩ := found
    have hfront : rest.sources.take rest.position = list.sources.take list.position ++ [source] := by
      rw [sources_next? hnext, position_next? hnext, List.take_add_one, getElem?_next? hnext]
      rfl
    simp only [parted, remaining_next? hnext, SourceZipper.handOut, hfront, and_self]

/-- What a list hands out goes over to the part in front of its position. -/
theorem handed_handOut (list : SourceList σ) :
    list.handOut.2.parted.handed = list.parted.handed ++ list.handOut.1.toList := by
  rw [list.parted_handOut.1, list.parted_handOut.2, SourceZipper.handed_handOut]

/-- A list within its end stands with the part in front of its position. -/
theorem stands_of_parted (hhanded : list.parted.handed = handed) (hsources : list.sources = start.sources)
    (hle : list.position ≤ list.size) (hstart : start.sources ≠ []) : Stands start handed list where
  sources := hsources
  size_pos := by
    rw [size, hsources]
    exact List.length_pos_iff.2 hstart
  position_le := hle
  remaining? := remaining?_of_position_le hle
  position := by
    rw [← hhanded]
    exact (List.length_take_of_le hle).symm
  conserved := by
    rw [← hhanded, remaining_eq_drop]
    exact List.take_append_drop list.position list.sources
  isExhausted_iff := isExhausted_iff_remaining

end SourceList

/-! ## A list and its copies -/

/-- What is asked of lists, each known by its number. -/
inductive ListCall where
  /-- A list hands out its next source. -/
  | next (index : Nat)
  /-- A list is copied, and the copy gets the number behind the last. -/
  | copy (index : Nat)
  deriving DecidableEq, Repr

namespace ListCall

/-- The answer to a call, and the lists after it. There is none if no list has the number. -/
def serve (call : ListCall) (lists : List (SourceList σ)) : Option (Source σ) × List (SourceList σ) :=
  match call with
  | .next index => (lists[index]?.bind fun list => list.handOut.1, lists.modify index fun list => list.handOut.2)
  | .copy index => (none, lists ++ lists[index]?.toList)

/-- Several calls, each with its answer. -/
def log (calls : List ListCall) (lists : List (SourceList σ)) : List (ListCall × Option (Source σ)) :=
  calls.zip ((Run.trace serve calls lists).map Prod.fst)

/-- Writes an answer down for the list that gave it. A copy begins with what is written of the list that it is
copied of. -/
def note (handed : List (List (Source σ))) : ListCall × Option (Source σ) → List (List (Source σ))
  | (.next index, answer) => handed.modify index fun earlier => earlier ++ answer.toList
  | (.copy index, _) => handed ++ handed[index]?.toList

/-- What every list has handed out after some calls, by the answers. -/
def handed (calls : List ListCall) (lists : List (SourceList σ)) : List (List (Source σ)) :=
  (log calls lists).foldl note (lists.map fun _ => [])

variable {start : SourceList σ}

/-- What is written of the lists is the part in front of their positions, no list has lost a source, and none has
gone past its end. -/
def Tracks (start : SourceList σ) : List (List (Source σ)) → List (SourceList σ) → Prop :=
  List.Forall₂ fun handed list =>
    list.parted.handed = handed ∧ list.sources = start.sources ∧ list.position ≤ list.size

theorem forall₂_modify {α β : Type} {R : α → β → Prop} {f : α → α} {g : β → β} {front : List α} {back : List β}
    (h : List.Forall₂ R front back) (index : Nat)
    (hstep : ∀ a b, back[index]? = some b → R a b → R (f a) (g b)) :
    List.Forall₂ R (front.modify index f) (back.modify index g) := by
  induction h generalizing index with
  | nil => simp
  | cons hfirst hrest ih =>
    cases index with
    | zero =>
      rw [List.modify_zero_cons, List.modify_zero_cons]
      exact .cons (hstep _ _ rfl hfirst) hrest
    | succ index =>
      rw [List.modify_succ_cons, List.modify_succ_cons]
      exact .cons hfirst (ih index hstep)

theorem forall₂_getElem? {α β : Type} {R : α → β → Prop} {front : List α} {back : List β}
    (h : List.Forall₂ R front back) (index : Nat) :
    List.Forall₂ R front[index]?.toList back[index]?.toList := by
  induction h generalizing index with
  | nil => exact .nil
  | cons hfirst _ ih =>
    cases index with
    | zero => exact .cons hfirst .nil
    | succ index => exact ih index

/-- **One call**: what is written stays true. -/
theorem tracks_serve {handed : List (List (Source σ))} {lists : List (SourceList σ)}
    (h : Tracks start handed lists) (call : ListCall) :
    Tracks start (note handed (call, (call.serve lists).1)) (call.serve lists).2 := by
  cases call with
  | next index =>
    refine forall₂_modify h index fun earlier list hlist hstands => ?_
    obtain ⟨hhanded, hsources, hle⟩ := hstands
    refine ⟨?_, list.sources_handOut.trans hsources, SourceList.position_le_handOut hle⟩
    rw [list.handed_handOut, hhanded, serve, hlist]
    rfl
  | copy index => exact List.rel_append h (forall₂_getElem? h index)

/-- **Several calls.** -/
theorem tracks_run (calls : List ListCall) {handed : List (List (Source σ))} {lists : List (SourceList σ)}
    (h : Tracks start handed lists) :
    Tracks start ((log calls lists).foldl note handed) (Run.last serve calls lists) := by
  induction calls generalizing handed lists with
  | nil => exact h
  | cons call later ih => exact ih (tracks_serve h call)

/-! ## What is not seen -/

section Unseen

variable {lists : List (SourceList σ)} {index : Nat} {list : SourceList σ}

theorem serve_next (hlist : lists[index]? = some list) :
    (serve (.next index) lists).1 = list.remaining.head? := by
  rw [serve, hlist, ← list.handOut_fst]
  rfl

/-- What is asked of one list is not seen in another. -/
theorem getElem?_serve_next {other : Nat} (hother : other ≠ index) :
    (serve (.next index) lists).2[other]? = lists[other]? :=
  List.getElem?_modify_ne _ lists hother.symm

/-- The copy is what its list is then, and no list changes. -/
theorem serve_copy (hlist : lists[index]? = some list) : (serve (.copy index) lists).2 = lists ++ [list] := by
  rw [serve, hlist]
  rfl

/-- A list that has handed out everything stays as it is, whatever is asked of it or of others. -/
theorem serve_at_end (hlist : lists[index]? = some list) (hend : list.position = list.size) (call : ListCall) :
    (call.serve lists).2[index]? = some list ∧ (call = .next index → (call.serve lists).1 = none) := by
  cases call with
  | next asked =>
    by_cases hasked : asked = index
    · subst hasked
      refine ⟨?_, fun _ => ?_⟩
      · rw [serve, List.getElem?_modify_eq, hlist, Option.map_eq_map, Option.map_some, SourceList.handOut_of_end hend]
      · rw [serve, hlist, Option.bind_some, SourceList.handOut_of_end hend]
    · refine ⟨(getElem?_serve_next (Ne.symm hasked)).trans hlist, fun hsame => ?_⟩
      exact absurd (ListCall.next.inj hsame) hasked
  | copy copied =>
    obtain ⟨hlt, -⟩ := List.getElem?_eq_some_iff.1 hlist
    exact ⟨(List.getElem?_append_left hlt).trans hlist, ListCall.noConfusion⟩

/-- **It answers with nothing for ever.** -/
theorem run_at_end (later : List ListCall) (hlist : lists[index]? = some list)
    (hend : list.position = list.size) :
    (Run.last serve later lists)[index]? = some list
      ∧ ∀ answer, (.next index, answer) ∈ log later lists → answer = none := by
  induction later generalizing lists with
  | nil => exact ⟨hlist, fun _ hmem => nomatch hmem⟩
  | cons call later ih =>
    obtain ⟨hstays, hnone⟩ := serve_at_end hlist hend call
    obtain ⟨hlast, hlog⟩ := ih hstays
    refine ⟨hlast, fun answer hmem => ?_⟩
    rcases List.mem_cons.1 hmem with hfirst | hrest
    · obtain ⟨rfl, rfl⟩ := Prod.mk.inj hfirst
      exact hnone rfl
    · exact hlog answer hrest

end Unseen

end ListCall

/-- **Every list hands out every source once and in order, and so does every copy.** After any calls on a list and
the copies that were made of it at any time, each of them still has the sources that it was made of, at least one;
its position is within them, so that there is a part behind it; what it has handed out, with what had been handed out
when it was copied, is followed by what remains to be all of them; and it has been used up exactly if nothing remains.
It hands out the first that remains, and once it stands at its end nothing, for ever, and does not change any more.
What is asked of one list changes no other, and a copy is what its list was. -/
theorem sources_handed_out_once (sources : List (Source σ)) (calls : List ListCall) :
    let start := SourceList.ofList sources
    let lists := Run.last ListCall.serve calls [start]
    start.sources = (if sources = [] then [Source.standardInput] else sources)
      ∧ List.Forall₂ (SourceList.Stands start) (ListCall.handed calls [start]) lists
      ∧ (∀ index list, lists[index]? = some list →
          (ListCall.serve (.next index) lists).1 = list.remaining.head?
            ∧ (ListCall.serve (.copy index) lists).2 = lists ++ [list]
            ∧ (list.position = list.size → ∀ later,
                (Run.last ListCall.serve later lists)[index]? = some list
                  ∧ ∀ answer, (.next index, answer) ∈ ListCall.log later lists → answer = none))
      ∧ ∀ index other, other ≠ index → (ListCall.serve (.next index) lists).2[other]? = lists[other]? := by
  intro start lists
  refine ⟨SourceList.sources_ofList sources, ?_, fun index list hlist => ⟨ListCall.serve_next hlist,
    ListCall.serve_copy hlist, fun hend later => ListCall.run_at_end later hlist hend⟩,
    fun index other hother => ListCall.getElem?_serve_next hother⟩
  have hstart : ListCall.Tracks start [[]] [start] := .cons ⟨rfl, rfl, Nat.zero_le _⟩ .nil
  refine (ListCall.tracks_run calls hstart).imp fun handed list hstands => ?_
  obtain ⟨hhanded, hsources, hle⟩ := hstands
  exact SourceList.stands_of_parted hhanded hsources hle (SourceList.sources_ofList_ne_nil sources)

/-- A list of two that is copied behind its first source: the copy is used up and stays so, and the second source is
still to come of the list itself. -/
theorem sources_handed_out_once_copied :
    let first : Source Script := .inline "a" "x"
    let second : Source Script := .inline "b" "y"
    let calls : List ListCall := [.next 0, .copy 0, .next 1, .next 1]
    let lists := Run.last ListCall.serve calls [SourceList.ofList [first, second]]
    lists[0]? = some ⟨[first, second], 1⟩ ∧ lists[1]? = some ⟨[first, second], 2⟩
      ∧ (ListCall.serve (.next 0) lists).1 = some second
      ∧ ∀ later, (Run.last ListCall.serve later lists)[1]? = some ⟨[first, second], 2⟩ := by
  intro first second calls lists
  obtain ⟨-, -, hlists, -⟩ := sources_handed_out_once [first, second] calls
  exact ⟨rfl, rfl, (hlists 0 _ rfl).1, fun later => ((hlists 1 _ rfl).2.2 rfl later).1⟩

end InputChain
