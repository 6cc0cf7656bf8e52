import InputChain.Proofs.Accesses
import Mathlib.Data.List.Chain

/-!
# One source at a time

The entries of the list are asked to open one after another, each once and none before it is needed,
and at most one reader is live: the next entry is asked only when the one before it did not open, came
to its end or was skipped. So it is at every moment, also within one operation that crosses several
sources, because the journal stays in order with every access.

* `Access.opening?`, `liveAfter`, `InTurn`: what a journal tells.
* `Orderly`, `Orderly.inTurn`: the journals in order.
* `Cursor.OneOpen`, `Cursor.InOrder`: what holds of a cursor at every moment.
* `Cursor.InOrder.follows`, `Cursor.InOrder.comesOf`: from one moment to the next.
* `Cursor.InOrder.live_dropped`: after the last.
* `Cursor.Moments`, `Cursor.exists_moments`: the moments of an operation.
* **`one_source_open`**: every moment of every run.
-/

namespace InputChain

/-! ## What a journal tells -/

/-- The entry that was asked to open, if the access was that. -/
def Access.opening? : Access → Option Nat
  | .opened index => some index
  | .refused index => some index
  | .closed _ => none

/-- The entries whose readers are live after some accesses. -/
def liveAfter (journal : List Access) : List Nat :=
  journal.foldl (fun live access =>
    match access with
    | .opened index => live ++ [index]
    | .refused _ => live
    | .closed index => live.erase index) []

/-- From `first` on, `count` entries were asked to open in their order, each once; at most the last of
them is live; and each was asked only after the one before it had not opened or had been closed. -/
structure InTurn (first count : Nat) (journal : List Access) : Prop where
  openings : journal.filterMap Access.opening? = List.range' first count
  live : liveAfter journal = [] ∨
    ∃ before, count = before + 1 ∧ liveAfter journal = [first + before]
  released : ∀ before access after entry, journal = before ++ access :: after →
    access.opening? = some (entry + 1) → first ≤ entry →
    before.getLast? = some (.refused entry) ∨ before.getLast? = some (.closed entry)

/-! ## Journals in order -/

/-- The journals in which `count` entries from `first` on are asked to open one after another, and each
is closed before the next is asked; `isOpen` tells whether the last is still open. -/
inductive Orderly (first : Nat) : (count : Nat) → (isOpen : Bool) → List Access → Prop where
  | start : Orderly first 0 false []
  | opened {count : Nat} {journal : List Access} (h : Orderly first count false journal) :
      Orderly first (count + 1) true (journal ++ [.opened (first + count)])
  | refused {count : Nat} {journal : List Access} (h : Orderly first count false journal) :
      Orderly first (count + 1) false (journal ++ [.refused (first + count)])
  | closed {count : Nat} {journal : List Access} (h : Orderly first (count + 1) true journal) :
      Orderly first (count + 1) false (journal ++ [.closed (first + count)])

namespace Orderly

variable {first count : Nat} {isOpen : Bool} {journal : List Access}

theorem openings (h : Orderly first count isOpen journal) :
    journal.filterMap Access.opening? = List.range' first count := by
  induction h with
  | start => rfl
  | opened _ ih => rw [List.filterMap_append, ih, List.range'_1_concat]; rfl
  | refused _ ih => rw [List.filterMap_append, ih, List.range'_1_concat]; rfl
  | closed _ ih => rw [List.filterMap_append, ih]; exact List.append_nil _

theorem liveAfter_concat (journal : List Access) (access : Access) :
    liveAfter (journal ++ [access])
      = match access with
        | .opened index => liveAfter journal ++ [index]
        | .refused _ => liveAfter journal
        | .closed index => (liveAfter journal).erase index :=
  List.foldl_concat ..

theorem live (h : Orderly first count isOpen journal) :
    liveAfter journal = if isOpen then [first + count - 1] else [] := by
  induction h with
  | start => rfl
  | opened _ ih => rw [liveAfter_concat, ih]; rfl
  | refused _ ih => rw [liveAfter_concat, ih]; rfl
  | closed _ ih =>
    rw [liveAfter_concat, ih]
    exact List.erase_cons_head ..

/-- With none open, the last access was a refusal or a closing. -/
theorem last (h : Orderly first (count + 1) false journal) :
    journal.getLast? = some (.refused (first + count)) ∨
      journal.getLast? = some (.closed (first + count)) := by
  cases h with
  | refused => exact Or.inl List.getLast?_concat
  | closed => exact Or.inr List.getLast?_concat

/-- Before the next entry is asked, the one before it had not opened or had been closed. -/
theorem released {entry : Nat} (h : Orderly first count false journal)
    (hentry : first + count = entry + 1) (hfirst : first ≤ entry) :
    journal.getLast? = some (.refused entry) ∨ journal.getLast? = some (.closed entry) := by
  obtain ⟨before, rfl⟩ : ∃ before, count = before + 1 := ⟨entry - first, by omega⟩
  obtain rfl : first + before = entry := by omega
  exact h.last

/-- An open entry is the last that was asked. -/
theorem succ_of_open (h : Orderly first count true journal) : ∃ before, count = before + 1 := by
  cases h with
  | opened => exact ⟨_, rfl⟩

/-- A journal was in order at all times. -/
theorem of_prefix (h : Orderly first count isOpen journal) {past : List Access}
    (hpast : past <+: journal) : ∃ count' isOpen', Orderly first count' isOpen' past := by
  induction h with
  | start => exact ⟨0, false, List.prefix_nil.1 hpast ▸ .start⟩
  | opened hbefore ih =>
    rcases List.prefix_concat_iff.1 hpast with rfl | hearlier
    · exact ⟨_, _, .opened hbefore⟩
    · exact ih hearlier
  | refused hbefore ih =>
    rcases List.prefix_concat_iff.1 hpast with rfl | hearlier
    · exact ⟨_, _, .refused hbefore⟩
    · exact ih hearlier
  | closed hbefore ih =>
    rcases List.prefix_concat_iff.1 hpast with rfl | hearlier
    · exact ⟨_, _, .closed hbefore⟩
    · exact ih hearlier

theorem inTurn (h : Orderly first count isOpen journal) : InTurn first count journal where
  openings := h.openings
  live := by
    cases isOpen with
    | false => exact Or.inl h.live
    | true =>
      obtain ⟨before, rfl⟩ := h.succ_of_open
      exact Or.inr ⟨before, rfl, h.live⟩
  released before access after entry hjournal hopening hfirst := by
    have hpast : before ++ [access] <+: journal :=
      ⟨after, by rw [hjournal, List.append_assoc]; rfl⟩
    obtain ⟨count', isOpen', hbefore⟩ := h.of_prefix hpast
    generalize hconcat : before ++ [access] = past at hbefore
    cases hbefore with
    | start => exact absurd hconcat (List.concat_ne_nil access before)
    | opened hbefore =>
      obtain ⟨rfl, rfl⟩ := List.append_singleton_inj.1 hconcat
      exact hbefore.released (Option.some.inj hopening) hfirst
    | refused hbefore =>
      obtain ⟨rfl, rfl⟩ := List.append_singleton_inj.1 hconcat
      exact hbefore.released (Option.some.inj hopening) hfirst
    | closed hbefore =>
      obtain ⟨rfl, rfl⟩ := List.append_singleton_inj.1 hconcat
      cases hopening

end Orderly

/-! ## A cursor at every moment -/

namespace Cursor

/-- At every moment so far the entries of the list were asked to open in turn from where the list stood;
the cursor has taken as many entries as it has made open calls, and the live reader is the open one, of
the entry taken last. -/
structure OneOpen (list : SourceList Script) (cursor : Cursor Script) : Prop where
  sources : cursor.sources.sources = list.sources
  always : ∀ past, past <+: cursor.journal → ∃ count, InTurn list.position count past
  openings : cursor.journal.filterMap Access.opening? = List.range' list.position cursor.openings
  position : cursor.sources.position = list.position + cursor.openings
  live : liveAfter cursor.journal
    = if cursor.currentId?.isSome then [cursor.sources.position - 1] else []
  entry : ∀ id, cursor.currentId? = some id →
    ∃ source, list.sources[cursor.sources.position - 1]? = some source ∧ source.id = id

/-- The invariant behind it: the journal is in order. -/
structure InOrder (list : SourceList Script) (cursor : Cursor Script) : Prop where
  sources : cursor.sources.sources = list.sources
  journal : ∃ count, cursor.sources.position = list.position + count ∧
    Orderly list.position count cursor.currentId?.isSome cursor.journal
  entry : ∀ id, cursor.currentId? = some id →
    ∃ source, list.sources[cursor.sources.position - 1]? = some source ∧ source.id = id

variable {list : SourceList Script} {operation : BlockingOperation} {cursor later : Cursor Script}

theorem currentId?_of_idle (hphase : cursor.phase = .idle) : cursor.currentId? = none := by
  rw [currentId?, hphase]

theorem currentId?_of_active {id : String} {held : Bytes} {reader : Reader Script}
    (hphase : cursor.phase = .active id held reader) : cursor.currentId? = some id := by
  rw [currentId?, hphase]

theorem isOpening_eq (access : Access) : access.isOpening = access.opening?.isSome := by
  cases access <;> rfl

theorem openings_eq (cursor : Cursor Script) :
    cursor.openings = (cursor.journal.filterMap Access.opening?).length := by
  rw [openings, funext isOpening_eq, List.length_filterMap_eq_countP]

namespace InOrder

theorem start (world : World) (list : SourceList Script) : (ofList world list).InOrder list where
  sources := rfl
  journal := ⟨0, rfl, .start⟩
  entry _ hid := nomatch hid

theorem oneOpen (h : cursor.InOrder list) : cursor.OneOpen list := by
  obtain ⟨count, hposition, hjournal⟩ := h.journal
  have hcount : cursor.openings = count := by
    rw [openings_eq, hjournal.openings, List.length_range']
  refine ⟨h.sources, fun past hpast => ?_, ?_, ?_, ?_, h.entry⟩
  · obtain ⟨count', isOpen', horderly⟩ := hjournal.of_prefix hpast
    exact ⟨count', horderly.inTurn⟩
  · rw [hcount]
    exact hjournal.openings
  · rw [hcount]
    exact hposition
  · rw [hposition]
    exact hjournal.live

theorem of_stays (h : cursor.InOrder list) (hsources : later.sources = cursor.sources)
    (hjournal : later.journal = cursor.journal) (hid : later.currentId? = cursor.currentId?) :
    later.InOrder list where
  sources := hsources ▸ h.sources
  journal := by
    rw [hsources, hjournal, hid]
    exact h.journal
  entry := by
    rw [hsources, hid]
    exact h.entry

theorem enter {source : Source Script} {rest : SourceList Script} (h : cursor.InOrder list)
    (hclosed : cursor.currentId? = none) (hnext : cursor.sources.next? = some (source, rest))
    (reader : Reader Script) : (cursor.enter source.id reader rest).InOrder list where
  sources := (SourceList.sources_next? hnext).trans h.sources
  journal := by
    obtain ⟨count, hposition, hjournal⟩ := h.journal
    rw [hclosed] at hjournal
    refine ⟨count + 1, ?_, ?_⟩
    · show rest.position = list.position + (count + 1)
      rw [SourceList.position_next? hnext, hposition, Nat.add_assoc]
    · show Orderly list.position (count + 1) true
        (cursor.journal ++ [.opened cursor.sources.position])
      rw [hposition]
      exact .opened hjournal
  entry id hid := by
    refine ⟨source, ?_, Option.some.inj hid⟩
    show list.sources[rest.position - 1]? = some source
    rw [SourceList.position_next? hnext, Nat.add_sub_cancel, ← h.sources]
    exact SourceList.getElem?_next? hnext

theorem refuse {source : Source Script} {rest : SourceList Script} (h : cursor.InOrder list)
    (hclosed : cursor.currentId? = none) (hnext : cursor.sources.next? = some (source, rest)) :
    (cursor.refuse rest).InOrder list where
  sources := (SourceList.sources_next? hnext).trans h.sources
  journal := by
    obtain ⟨count, hposition, hjournal⟩ := h.journal
    rw [hclosed] at hjournal
    refine ⟨count + 1, ?_, ?_⟩
    · show rest.position = list.position + (count + 1)
      rw [SourceList.position_next? hnext, hposition, Nat.add_assoc]
    · have hstill : (cursor.refuse rest).currentId? = none := hclosed
      rw [hstill]
      show Orderly list.position (count + 1) false
        (cursor.journal ++ [.refused cursor.sources.position])
      rw [hposition]
      exact .refused hjournal
  entry _ hid := by cases hclosed.symm.trans hid

theorem close {id : String} (h : cursor.InOrder list) (hopen : cursor.currentId? = some id) :
    cursor.close.InOrder list where
  sources := h.sources
  journal := by
    obtain ⟨count, hposition, hjournal⟩ := h.journal
    rw [hopen] at hjournal
    obtain ⟨before, rfl⟩ := hjournal.succ_of_open
    refine ⟨before + 1, hposition, ?_⟩
    show Orderly list.position (before + 1) false
      (cursor.journal ++ [.closed (cursor.sources.position - 1)])
    rw [hposition]
    exact .closed hjournal
  entry _ hid := nomatch hid

/-- **From one moment to the next the journal stays in order.** -/
theorem follows (h : cursor.InOrder list) (hfollows : Follows operation cursor later) :
    later.InOrder list := by
  cases hfollows with
  | opens _ hphase hnext => exact h.enter (currentId?_of_idle hphase) hnext _
  | refuses _ hphase hnext => exact h.refuse (currentId?_of_idle hphase) hnext
  | exhausts _ hphase => exact h.of_stays rfl rfl (currentId?_of_idle hphase).symm
  | reads _ hphase => exact h.of_stays rfl rfl (currentId?_of_active hphase).symm
  | @ends id _ _ inlet _ hphase =>
    have hread : (cursor.withInlet id inlet).InOrder list :=
      h.of_stays rfl rfl (currentId?_of_active hphase).symm
    exact hread.close rfl
  | skips _ hphase => exact h.close (currentId?_of_active hphase)
  | consumes _ hphase => exact h.of_stays rfl rfl (currentId?_of_active hphase).symm
  | notes => exact h.of_stays rfl rfl rfl

theorem comesOf (h : cursor.InOrder list) (hcomes : ComesOf operation cursor later) :
    later.InOrder list := by
  induction hcomes with
  | refl => exact h
  | tail _ hfollows ih => exact ih.follows hfollows

/-- **With the cursor goes the reader that is live.** -/
theorem live_dropped (h : cursor.InOrder list) : liveAfter cursor.dropped = [] := by
  have hlive := h.oneOpen.live
  unfold dropped
  cases hphase : cursor.phase with
  | idle =>
    rw [currentId?_of_idle hphase] at hlive
    exact hlive
  | active id held reader =>
    rw [currentId?_of_active hphase] at hlive
    rw [Orderly.liveAfter_concat, hlive]
    exact List.erase_cons_head ..
  | exhausted =>
    rw [currentId?, hphase] at hlive
    exact hlive

end InOrder

/-! ## The moments of an operation -/

/-- A cursor stands where it stood at an earlier moment or further on. -/
structure Onward (earlier later : Cursor Script) : Prop where
  position : earlier.sources.position ≤ later.sources.position
  sourceIndex : ∀ index, earlier.sourceIndex? = some index →
    ∃ index', later.sourceIndex? = some index' ∧ index ≤ index'

/-- The moments between a cursor and what an operation makes of it: each follows from the one before,
none goes back, and none is left out at which a source was opened, refused or closed. -/
structure Moments (operation : BlockingOperation) (cursor next : Cursor Script)
    (moments : List (Cursor Script)) : Prop where
  follows : (cursor :: moments).IsChain (Follows operation)
  last : (cursor :: moments).getLast? = some next
  onward : (cursor :: moments).Pairwise Onward
  complete : ∀ past, cursor.journal <+: past → past <+: next.journal →
    ∃ moment ∈ cursor :: moments, moment.journal = past

theorem onward_of_position (hposition : cursor.sources.position ≤ later.sources.position) :
    Onward cursor later where
  position := hposition
  sourceIndex index hindex := by
    unfold sourceIndex? at hindex ⊢
    split at hindex
    · cases hindex
    · rename_i before hbefore
      obtain rfl := Option.some.inj hindex
      obtain ⟨index', hlater⟩ := Nat.exists_eq_add_one_of_ne_zero
        (show later.sources.position ≠ 0 by omega)
      exact ⟨index', by rw [hlater], by omega⟩

theorem position_follows (hfollows : Follows operation cursor later) :
    cursor.sources.position ≤ later.sources.position := by
  cases hfollows with
  | opens _ _ hnext => exact (Nat.le_succ _).trans_eq (SourceList.position_next? hnext).symm
  | refuses _ _ hnext => exact (Nat.le_succ _).trans_eq (SourceList.position_next? hnext).symm
  | _ => exact Nat.le_refl _

/-- From one moment to the next there is at most one access. -/
theorem journal_follows (hfollows : Follows operation cursor later) :
    later.journal = cursor.journal ∨ ∃ access, later.journal = cursor.journal ++ [access] := by
  cases hfollows with
  | opens => exact Or.inr ⟨_, rfl⟩
  | refuses => exact Or.inr ⟨_, rfl⟩
  | ends => exact Or.inr ⟨_, rfl⟩
  | skips => exact Or.inr ⟨_, rfl⟩
  | _ => exact Or.inl rfl

/-- What asks for no data opens nothing. -/
theorem opening_follows (hquiet : operation.asksForData = false)
    (hfollows : Follows operation cursor later) :
    later.journal.filterMap Access.opening? = cursor.journal.filterMap Access.opening? := by
  cases hfollows with
  | opens hasks => cases hquiet.symm.trans hasks
  | refuses hasks => cases hquiet.symm.trans hasks
  | ends hasks => cases hquiet.symm.trans hasks
  | skips => exact (List.filterMap_append ..).trans (List.append_nil _)
  | _ => rfl

theorem onward_comesOf (hcomes : ComesOf operation cursor later) : Onward cursor later := by
  refine onward_of_position ?_
  induction hcomes with
  | refl => exact Nat.le_refl _
  | tail _ hfollows ih => exact ih.trans (position_follows hfollows)

theorem opening_comesOf (hquiet : operation.asksForData = false)
    (hcomes : ComesOf operation cursor later) :
    later.journal.filterMap Access.opening? = cursor.journal.filterMap Access.opening? := by
  induction hcomes with
  | refl => rfl
  | tail _ hfollows ih => exact (opening_follows hquiet hfollows).trans ih

theorem journal_comesOf (hcomes : ComesOf operation cursor later) :
    cursor.journal <+: later.journal := by
  induction hcomes with
  | refl => exact List.prefix_rfl
  | tail _ hfollows ih =>
    rcases journal_follows hfollows with hsame | ⟨access, hmore⟩
    · rwa [hsame]
    · exact hmore ▸ ih.trans (List.prefix_append _ [access])

namespace Moments

variable {moment : Cursor Script} {moments : List (Cursor Script)}

theorem refl : Moments operation cursor cursor [] where
  follows := .singleton cursor
  last := rfl
  onward := List.pairwise_singleton _ cursor
  complete _ hfrom hto :=
    ⟨cursor, List.mem_cons_self, hfrom.eq_of_length_le hto.length_le⟩

theorem cons (hfollows : Follows operation cursor moment) (hcomes : ComesOf operation moment later)
    (h : Moments operation moment later moments) :
    Moments operation cursor later (moment :: moments) where
  follows := .cons_cons hfollows h.follows
  last := List.getLast?_cons_cons.trans h.last
  onward := by
    refine List.pairwise_cons.2 ⟨fun further hfurther => ?_, h.onward⟩
    have hfirst := position_follows hfollows
    rcases List.mem_cons.1 hfurther with rfl | hfurther
    · exact onward_of_position hfirst
    · exact onward_of_position (hfirst.trans
        (List.rel_of_pairwise_cons h.onward hfurther).position)
  complete past hfrom hto := by
    -- the journal of the next moment ends at the one access, so `past` is not between the two
    rcases List.prefix_or_prefix_of_prefix hto (journal_comesOf hcomes) with hshort | hlong
    · rcases journal_follows hfollows with hsame | ⟨access, hmore⟩
      · exact ⟨cursor, List.mem_cons_self,
          hfrom.eq_of_length_le (hsame ▸ hshort).length_le⟩
      · rcases List.prefix_concat_iff.1 (hmore ▸ hshort) with rfl | hshort
        · exact ⟨moment, List.mem_cons_of_mem _ List.mem_cons_self, hmore⟩
        · exact ⟨cursor, List.mem_cons_self, hfrom.eq_of_length_le hshort.length_le⟩
    · obtain ⟨found, hfound, hjournal⟩ := h.complete past hlong hto
      exact ⟨found, List.mem_cons_of_mem _ hfound, hjournal⟩

end Moments

theorem exists_moments (hcomes : ComesOf operation cursor later) :
    ∃ moments, Moments operation cursor later moments := by
  induction hcomes using Relation.ReflTransGen.head_induction_on with
  | refl => exact ⟨[], .refl⟩
  | head hfollows hrest ih =>
    obtain ⟨moments, hmoments⟩ := ih
    exact ⟨_ :: moments, .cons hfollows hrest hmoments⟩

theorem InOrder.moments {moments : List (Cursor Script)} (h : cursor.InOrder list)
    (hmoments : Moments operation cursor later moments) :
    ∀ moment ∈ cursor :: moments, moment.InOrder list :=
  hmoments.follows.induction (fun moment => moment.InOrder list) (cursor :: moments)
    (fun _ _ hfollows hbefore => hbefore.follows hfollows) fun _ => h

end Cursor

/-- **One source is open at a time, and each is opened once, in order, when it is needed.** Of a cursor
over any list, after any operations: nothing is opened when it is made; at every moment, those within
an operation included, the open calls made so far were on the entries of the list in their order, once
each, and at most one reader is live, that of the entry taken last, exactly while it is open; an entry
was asked to open only after the one before it did not open, came to its end or was skipped; the
position never goes back; what asks for no data opens nothing; and once the cursor is dropped, no reader is
live. Entries are counted from where the list stood at the start, which is 0 for a new list. -/
theorem one_source_open (world : World) (list : SourceList Script) (past : List BlockingOperation) :
    let start := Cursor.ofList world list
    let cursor := Run.last Cursor.serve past start
    start.journal = [] ∧
    cursor.OneOpen list ∧
    (∀ operation,
      let next := (cursor.serve operation).2
      (∃ moments, Cursor.Moments operation cursor next moments ∧
        ∀ moment ∈ cursor :: moments, moment.OneOpen list) ∧
      Cursor.Onward cursor next ∧
      (operation.asksForData = false →
        next.journal.filterMap Access.opening? = cursor.journal.filterMap Access.opening?)) ∧
    liveAfter cursor.dropped = [] := by
  intro start cursor
  have horder : cursor.InOrder list :=
    Run.last_induction Cursor.serve
      (fun operation before hbefore => hbefore.comesOf (Cursor.comesOf_serve operation before)) past
      (Cursor.InOrder.start world list)
  refine ⟨rfl, horder.oneOpen, fun operation => ?_, horder.live_dropped⟩
  have hcomes := Cursor.comesOf_serve operation cursor
  obtain ⟨moments, hmoments⟩ := Cursor.exists_moments hcomes
  exact ⟨⟨moments, hmoments, fun moment hmoment =>
      (horder.moments hmoments moment hmoment).oneOpen⟩,
    Cursor.onward_comesOf hcomes, fun hquiet => Cursor.opening_comesOf hquiet hcomes⟩

/-- The read to the end stops at the second source, which does not open; the failure is reported by the
next read, and the one behind it crosses a source without bytes. -/
example :
    (Run.last Cursor.serve [.common .readToEnd, .common .readByte, .common .readByte]
      (Cursor.ofSources {} [⟨"a", .memory "a" [120]⟩, ⟨"b", .scripted "b" (.error (.bare .notFound))⟩,
        ⟨"c", .memory "c" []⟩, ⟨"d", .memory "d" [121]⟩])).journal
      = [.opened 0, .closed 0, .refused 1, .opened 2, .closed 2, .opened 3] := by
  decide +kernel

end InputChain
