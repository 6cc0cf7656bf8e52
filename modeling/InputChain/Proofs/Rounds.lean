import InputChain.AsyncCursor.Reads
import InputChain.Proofs.Operations
import InputChain.Proofs.Units

/-!
# The rounds of a unit

A unit is looked for in rounds. In a round the next source is opened if none is open, and the unit is asked of the
open one; if there is nothing left of it, it is closed and another round begins. Every round takes an entry of the
list or closes the source that was open, so there is an end to them, and it is within the list.

* `Cursor.openSources`, `Cursor.crossings_eq`, `Cursor.Takes`: the measure, and what was taken off the list.
* `Cursor.openNext`, `Cursor.round`, `Cursor.asked?`: one round, and what the unit is asked of in it.
* `Cursor.takes_round`, **`Cursor.crossings_of_again`**: what a round takes.
* `Cursor.Rounds`, **`Cursor.exists_rounds`**, `Cursor.Rounds.unique`, **`Cursor.Rounds.takes`**: all rounds.
* `Cursor.UnitRounds`, `Cursor.EndsWithin`, **`Cursor.endsWithin_of_search`**: the rounds of a whole unit.
* `Cursor.crossing_eq_round`, `AsyncCursor.crossing_eq_round`: either cursor looks for a unit in these rounds.
* **`Cursor.endsWithin_readUnit`**, **`AsyncCursor.endsWithin_add`**: a unit of either cursor.
-/

namespace InputChain

namespace Cursor

/-- What a round comes to. -/
inductive Round (σ α : Type) where
  /-- The unit is found, or there is none, or a failure is met. -/
  | returns (delivery : Delivery σ α)
  /-- Another round begins. -/
  | again (next : Cursor σ)

namespace Round

variable {σ α : Type}

/-- The cursor after a round. -/
def last : Round σ α → Cursor σ
  | .returns delivery => delivery.next
  | .again next => next

/-- What a round comes to if the rounds behind it come to this. -/
def goOn (rest : Cursor σ → Delivery σ α) : Round σ α → Delivery σ α
  | .returns delivery => delivery
  | .again next => rest next

end Round

variable {σ : Type}

/-! ## What is open and what is taken -/

/-- The number of open sources. -/
def openSources (cursor : Cursor σ) : Nat :=
  cursor.currentId?.toList.length

theorem openSources_of_active {cursor : Cursor σ} {id : String} {held : Bytes} {reader : Reader σ}
    (hphase : cursor.phase = .active id held reader) : cursor.openSources = 1 := by
  rw [openSources, currentId?, hphase]
  rfl

theorem openSources_le (cursor : Cursor σ) : cursor.openSources ≤ 1 :=
  Option.length_toList_le ..

/-- The measure of the search: twice the entries left, and one if a source is open. -/
theorem crossings_eq (cursor : Cursor σ) :
    cursor.crossings = 2 * cursor.remaining.length + cursor.openSources := by
  cases hphase : cursor.phase <;> simp [crossings, openSources, currentId?, hphase]

/-- From one cursor to a later one, these sources were taken off the list and asked to open, and no others. -/
structure Takes (cursor later : Cursor σ) (taken : List (Source σ)) : Prop where
  remaining : cursor.remaining = taken ++ later.remaining
  openings : later.openings = cursor.openings + taken.length

namespace Takes

variable {cursor later last : Cursor σ} {taken more : List (Source σ)}

theorem refl (cursor : Cursor σ) : Takes cursor cursor [] := ⟨rfl, rfl⟩

theorem trans (h : Takes cursor later taken) (h' : Takes later last more) : Takes cursor last (taken ++ more) where
  remaining := by rw [h.remaining, h'.remaining, List.append_assoc]
  openings := by rw [h'.openings, h.openings, List.length_append, Nat.add_assoc]

theorem length_le (h : Takes cursor later taken) : taken.length ≤ cursor.remaining.length := by
  rw [h.remaining, List.length_append]
  exact Nat.le_add_right ..

theorem withInlet (h : Takes cursor later taken) (id : String) (inlet : Inlet σ) :
    Takes cursor (later.withInlet id inlet) taken :=
  ⟨h.remaining, h.openings⟩

theorem close (h : Takes cursor later taken) : Takes cursor later.close taken where
  remaining := h.remaining
  openings := by
    rw [← h.openings]
    exact List.countP_append

end Takes

/-! ## One round -/

variable {α : Type} [Behaviour σ]

/-- Opens the next source if none is open. One that does not open is taken all the same. -/
def openNext (cursor : Cursor σ) : Option SourceError × Cursor σ :=
  match cursor.phase with
  | .idle =>
    match cursor.sources.next? with
    | none => (none, { cursor with phase := .exhausted })
    | some (source, rest) =>
      match source.provider.opened cursor.world.files with
      | .error error => (some (.ofOpening source.id error), cursor.refuse rest)
      | .ok reader => (none, cursor.enter source.id reader rest)
  | _ => (none, cursor)

/-- One round of a search for a unit, behind what has been collected. A unit that does not fail and gives what is
no more than that has met the end of its source. -/
def round (out : α) (noMore : α → Bool) (unit : Inlet σ → Reply (Inlet σ) α) (cursor : Cursor σ) : Round σ α :=
  match cursor.openNext with
  | (some error, cursor) => .returns ⟨out, some error, cursor⟩
  | (none, cursor) =>
    match cursor.phase with
    | .active id held reader =>
      let reply := unit ⟨held, reader, cursor.world.input⟩
      if reply.fault.isNone ∧ noMore reply.got then .again (cursor.withInlet id reply.next).close
      else .returns ⟨reply.got, reply.fault.map (.ofReading id), cursor.withInlet id reply.next⟩
    | _ => .returns ⟨out, none, cursor⟩

/-- The inlet that the unit is asked of in a round, if it comes to that. -/
def asked? (cursor : Cursor σ) : Option (Inlet σ) :=
  match cursor.openNext with
  | (some _, _) => none
  | (none, cursor) =>
    match cursor.phase with
    | .active _ held reader => some ⟨held, reader, cursor.world.input⟩
    | _ => none

section Round

variable {out : α} {noMore : α → Bool} {unit : Inlet σ → Reply (Inlet σ) α} {cursor : Cursor σ}

theorem openNext_of_exhausted (hphase : cursor.phase = .exhausted) : cursor.openNext = (none, cursor) := by
  rw [openNext, hphase]

theorem openNext_of_active {id : String} {held : Bytes} {reader : Reader σ}
    (hphase : cursor.phase = .active id held reader) : cursor.openNext = (none, cursor) := by
  rw [openNext, hphase]

theorem openNext_of_no_source (hphase : cursor.phase = .idle) (hnext : cursor.sources.next? = none) :
    cursor.openNext = (none, { cursor with phase := .exhausted }) := by
  simp only [openNext, hphase, hnext]

theorem openNext_of_refused {source : Source σ} {rest : SourceList σ} {error : IoError}
    (hphase : cursor.phase = .idle) (hnext : cursor.sources.next? = some (source, rest))
    (hopen : source.provider.opened cursor.world.files = .error error) :
    cursor.openNext = (some (.ofOpening source.id error), cursor.refuse rest) := by
  simp only [openNext, hphase, hnext, hopen]

theorem openNext_of_opened {source : Source σ} {rest : SourceList σ} {reader : Reader σ}
    (hphase : cursor.phase = .idle) (hnext : cursor.sources.next? = some (source, rest))
    (hopen : source.provider.opened cursor.world.files = .ok reader) :
    cursor.openNext = (none, cursor.enter source.id reader rest) := by
  simp only [openNext, hphase, hnext, hopen]

theorem round_of_fault {error : SourceError} {there : Cursor σ} (hopen : cursor.openNext = (some error, there)) :
    cursor.round out noMore unit = .returns ⟨out, some error, there⟩ := by
  rw [round, hopen]

theorem round_of_exhausted {there : Cursor σ} (hopen : cursor.openNext = (none, there))
    (hphase : there.phase = .exhausted) : cursor.round out noMore unit = .returns ⟨out, none, there⟩ := by
  simp only [round, hopen, hphase]

theorem round_of_active {there : Cursor σ} {id : String} {held : Bytes} {reader : Reader σ}
    {reply : Reply (Inlet σ) α} (hopen : cursor.openNext = (none, there))
    (hphase : there.phase = .active id held reader) (hreply : unit ⟨held, reader, there.world.input⟩ = reply) :
    cursor.round out noMore unit
      = if reply.fault.isNone ∧ noMore reply.got then .again (there.withInlet id reply.next).close
        else .returns ⟨reply.got, reply.fault.map (.ofReading id), there.withInlet id reply.next⟩ := by
  simp only [round, hopen, hphase, hreply]

theorem asked?_of_fault {error : SourceError} {there : Cursor σ} (hopen : cursor.openNext = (some error, there)) :
    cursor.asked? = none := by
  rw [asked?, hopen]

theorem asked?_of_exhausted {there : Cursor σ} (hopen : cursor.openNext = (none, there))
    (hphase : there.phase = .exhausted) : cursor.asked? = none := by
  simp only [asked?, hopen, hphase]

theorem asked?_of_active {there : Cursor σ} {id : String} {held : Bytes} {reader : Reader σ}
    (hopen : cursor.openNext = (none, there)) (hphase : there.phase = .active id held reader) :
    cursor.asked? = some ⟨held, reader, there.world.input⟩ := by
  simp only [asked?, hopen, hphase]

/-- A round begins in one of three ways: the next source does not open, there is none, or a source is open. -/
theorem openNext_cases (cursor : Cursor σ) :
    (∃ error there, cursor.openNext = (some error, there))
      ∨ (∃ there, cursor.openNext = (none, there) ∧ there.phase = .exhausted)
      ∨ ∃ there id held reader, cursor.openNext = (none, there) ∧ there.phase = .active id held reader := by
  cases hphase : cursor.phase with
  | exhausted => exact Or.inr (Or.inl ⟨_, openNext_of_exhausted hphase, hphase⟩)
  | active id held reader => exact Or.inr (Or.inr ⟨_, id, held, reader, openNext_of_active hphase, hphase⟩)
  | idle =>
    cases hnext : cursor.sources.next? with
    | none => exact Or.inr (Or.inl ⟨_, openNext_of_no_source hphase hnext, rfl⟩)
    | some found =>
      cases hopen : found.1.provider.opened cursor.world.files with
      | error error => exact Or.inl ⟨_, _, openNext_of_refused hphase hnext hopen⟩
      | ok reader => exact Or.inr (Or.inr ⟨_, _, _, _, openNext_of_opened hphase hnext hopen, rfl⟩)

/-! ## What a round takes -/

/-- Opening takes an entry of the list wherever it leaves a source open that was not. -/
theorem takes_openNext (cursor : Cursor σ) : ∃ taken, Takes cursor cursor.openNext.2 taken
    ∧ cursor.openNext.2.openSources ≤ taken.length + cursor.openSources := by
  have hstays : ∃ taken, Takes cursor cursor taken ∧ cursor.openSources ≤ taken.length + cursor.openSources :=
    ⟨[], .refl cursor, Nat.le_add_left ..⟩
  cases hphase : cursor.phase with
  | exhausted => rwa [openNext_of_exhausted hphase]
  | active id held reader => rwa [openNext_of_active hphase]
  | idle =>
    cases hnext : cursor.sources.next? with
    | none =>
      rw [openNext_of_no_source hphase hnext]
      exact ⟨[], ⟨rfl, rfl⟩, Nat.zero_le _⟩
    | some found =>
      obtain ⟨source, rest⟩ := found
      have hremaining : cursor.remaining = [source] ++ rest.remaining := SourceList.remaining_next? hnext
      cases hopen : source.provider.opened cursor.world.files with
      | error error =>
        rw [openNext_of_refused hphase hnext hopen]
        exact ⟨[source], ⟨hremaining, List.countP_append⟩, Nat.le_trans (openSources_le _) (Nat.le_add_right ..)⟩
      | ok reader =>
        rw [openNext_of_opened hphase hnext hopen]
        exact ⟨[source], ⟨hremaining, List.countP_append⟩, Nat.le_trans (openSources_le _) (Nat.le_add_right ..)⟩

/-- **A round takes the entry that it asks, unless the source was open.** -/
theorem takes_round (out : α) (noMore : α → Bool) (unit : Inlet σ → Reply (Inlet σ) α) (cursor : Cursor σ) :
    ∃ taken, Takes cursor (cursor.round out noMore unit).last taken
      ∧ cursor.asked?.toList.length ≤ taken.length + cursor.openSources := by
  obtain ⟨taken, htakes, hopens⟩ := takes_openNext cursor
  refine ⟨taken, ?_⟩
  rcases cursor.openNext_cases with ⟨error, there, hopen⟩ | ⟨there, hopen, hphase⟩
    | ⟨there, id, held, reader, hopen, hphase⟩
  · rw [hopen] at htakes
    rw [round_of_fault hopen, asked?_of_fault hopen]
    exact ⟨htakes, Nat.zero_le _⟩
  · rw [hopen] at htakes
    rw [round_of_exhausted hopen hphase, asked?_of_exhausted hopen hphase]
    exact ⟨htakes, Nat.zero_le _⟩
  · rw [hopen] at htakes hopens
    rw [openSources_of_active hphase] at hopens
    rw [round_of_active hopen hphase rfl, asked?_of_active hopen hphase]
    refine ⟨?_, hopens⟩
    split
    · exact (htakes.withInlet id _).close
    · exact htakes.withInlet id _

/-- Another round begins behind a source that was asked, and none is open then. -/
theorem asked?_of_again {next : Cursor σ} (hround : cursor.round out noMore unit = .again next) :
    cursor.asked?.isSome ∧ next.openSources = 0 := by
  rcases cursor.openNext_cases with ⟨error, there, hopen⟩ | ⟨there, hopen, hphase⟩
    | ⟨there, id, held, reader, hopen, hphase⟩
  · rw [round_of_fault hopen] at hround
    cases hround
  · rw [round_of_exhausted hopen hphase] at hround
    cases hround
  · rw [round_of_active hopen hphase rfl] at hround
    rw [asked?_of_active hopen hphase]
    split at hround
    · cases hround
      exact ⟨rfl, rfl⟩
    · cases hround

/-- **A round that does not return lowers the measure.** -/
theorem crossings_of_again {next : Cursor σ} (hround : cursor.round out noMore unit = .again next) :
    next.crossings < cursor.crossings := by
  obtain ⟨taken, htakes, hasked⟩ := takes_round out noMore unit cursor
  obtain ⟨hsome, hclosed⟩ := asked?_of_again hround
  have hlength := congrArg List.length htakes.remaining
  rw [hround, Round.last, List.length_append] at hlength
  rw [Option.length_toList_eq_one_iff.2 hsome] at hasked
  rw [crossings_eq, crossings_eq]
  omega

/-- A round asks of the unit what it says of one inlet, if of any. -/
theorem round_congr {unit' : Inlet σ → Reply (Inlet σ) α}
    (hunit : ∀ inlet ∈ cursor.asked?.toList, unit' inlet = unit inlet) :
    cursor.round out noMore unit' = cursor.round out noMore unit := by
  rcases cursor.openNext_cases with ⟨error, there, hopen⟩ | ⟨there, hopen, hphase⟩
    | ⟨there, id, held, reader, hopen, hphase⟩
  · rw [round_of_fault hopen, round_of_fault hopen]
  · rw [round_of_exhausted hopen hphase, round_of_exhausted hopen hphase]
  · rw [asked?_of_active hopen hphase] at hunit
    rw [round_of_active hopen hphase (hunit _ List.mem_cons_self), round_of_active hopen hphase rfl]

end Round

/-! ## All rounds -/

/-- The rounds of a search for a unit, each by the cursor that it begins with, and what the search gives. -/
inductive Rounds (out : α) (noMore : α → Bool) (unit : Inlet σ → Reply (Inlet σ) α) :
    Cursor σ → List (Cursor σ) → Delivery σ α → Prop where
  | returns {cursor : Cursor σ} {delivery : Delivery σ α}
      (hround : cursor.round out noMore unit = .returns delivery) : Rounds out noMore unit cursor [cursor] delivery
  | again {cursor next : Cursor σ} {rounds : List (Cursor σ)} {delivery : Delivery σ α}
      (hround : cursor.round out noMore unit = .again next) (rest : Rounds out noMore unit next rounds delivery) :
      Rounds out noMore unit cursor (cursor :: rounds) delivery

/-- The inlets that the unit is asked of in these rounds, in order. -/
def asked (rounds : List (Cursor σ)) : List (Inlet σ) :=
  rounds.flatMap fun there => there.asked?.toList

theorem asked_cons (cursor : Cursor σ) (rounds : List (Cursor σ)) :
    asked (cursor :: rounds) = cursor.asked?.toList ++ asked rounds :=
  List.flatMap_cons

/-- **Whatever the unit does, the search comes to an end.** -/
theorem exists_rounds (out : α) (noMore : α → Bool) (unit : Inlet σ → Reply (Inlet σ) α) (cursor : Cursor σ) :
    ∃ rounds delivery, Rounds out noMore unit cursor rounds delivery := by
  cases hround : cursor.round out noMore unit with
  | returns delivery => exact ⟨_, delivery, .returns hround⟩
  | again next =>
    have := crossings_of_again hround
    obtain ⟨rounds, delivery, hrest⟩ := exists_rounds out noMore unit next
    exact ⟨_, delivery, .again hround hrest⟩
  termination_by cursor.crossings

variable {out : α} {noMore : α → Bool} {unit : Inlet σ → Reply (Inlet σ) α} {cursor : Cursor σ}

namespace Rounds

variable {rounds : List (Cursor σ)} {delivery : Delivery σ α}

theorem unique {rounds' : List (Cursor σ)} {delivery' : Delivery σ α}
    (h : Rounds out noMore unit cursor rounds delivery) (h' : Rounds out noMore unit cursor rounds' delivery') :
    rounds' = rounds ∧ delivery' = delivery := by
  induction h generalizing rounds' with
  | returns hround =>
    cases h' with
    | returns hround' =>
      cases hround.symm.trans hround'
      exact ⟨rfl, rfl⟩
    | again hround' => cases hround.symm.trans hround'
  | again hround rest ih =>
    cases h' with
    | returns hround' => cases hround.symm.trans hround'
    | again hround' rest' =>
      cases hround.symm.trans hround'
      obtain ⟨rfl, rfl⟩ := ih rest'
      exact ⟨rfl, rfl⟩

/-- What goes on as a round says gives what the rounds give. -/
theorem search_eq {search : Cursor σ → Delivery σ α}
    (hsearch : ∀ there, search there = (there.round out noMore unit).goOn search)
    (h : Rounds out noMore unit cursor rounds delivery) : search cursor = delivery := by
  induction h with
  | returns hround => rw [hsearch, hround, Round.goOn]
  | again hround rest ih => rw [hsearch, hround, Round.goOn, ih]

/-- **No more inlets are asked than entries are taken**, but for the source that was open. -/
theorem takes (h : Rounds out noMore unit cursor rounds delivery) : ∃ taken, Takes cursor delivery.next taken
    ∧ (asked rounds).length ≤ taken.length + cursor.openSources := by
  induction h with
  | @returns cursor delivery hround =>
    obtain ⟨taken, htakes, hasked⟩ := takes_round out noMore unit cursor
    rw [hround] at htakes
    refine ⟨taken, htakes, ?_⟩
    rwa [asked_cons, asked, List.flatMap_nil, List.append_nil]
  | @again cursor next rounds delivery hround rest ih =>
    obtain ⟨taken, htakes, hasked⟩ := takes_round out noMore unit cursor
    obtain ⟨more, hmore, hrest⟩ := ih
    rw [hround] at htakes
    -- No source is open behind the first round, so the rounds behind it ask no more inlets than they take entries.
    rw [(asked?_of_again hround).2] at hrest
    refine ⟨taken ++ more, htakes.trans hmore, ?_⟩
    rw [asked_cons, List.length_append, List.length_append]
    omega

/-- The search depends on the unit by what it says of the inlets asked. -/
theorem congr {unit' : Inlet σ → Reply (Inlet σ) α} (h : Rounds out noMore unit cursor rounds delivery)
    (hunit : ∀ inlet ∈ asked rounds, unit' inlet = unit inlet) : Rounds out noMore unit' cursor rounds delivery := by
  induction h with
  | returns hround =>
    rw [asked_cons, List.forall_mem_append] at hunit
    exact .returns ((round_congr hunit.1).trans hround)
  | again hround rest ih =>
    rw [asked_cons, List.forall_mem_append] at hunit
    exact .again ((round_congr hunit.1).trans hround) (ih hunit.2)

end Rounds

/-! ## The rounds of a unit -/

/-- The rounds of a unit and what it gives. A held failure is given without a round. -/
inductive UnitRounds (out : α) (noMore : α → Bool) (unit : Inlet σ → Reply (Inlet σ) α) (cursor : Cursor σ) :
    List (Cursor σ) → Delivery σ α → Prop where
  | held {error : SourceError} (hpending : cursor.pending = some error) :
      UnitRounds out noMore unit cursor [] ⟨out, some error, { cursor with pending := none }⟩
  | searched {rounds : List (Cursor σ)} {delivery : Delivery σ α} (hpending : cursor.pending = none)
      (hrounds : Rounds out noMore unit cursor rounds delivery) : UnitRounds out noMore unit cursor rounds delivery

/-- The rounds of a unit, in which these sources are taken, are within the list. -/
structure EndsWithin (out : α) (noMore : α → Bool) (unit : Inlet σ → Reply (Inlet σ) α) (cursor : Cursor σ)
    (rounds : List (Cursor σ)) (taken : List (Source σ)) (delivery : Delivery σ α) : Prop where
  runs : UnitRounds out noMore unit cursor rounds delivery
  /-- There is no other way for the unit to go. -/
  alone : ∀ rounds' delivery', UnitRounds out noMore unit cursor rounds' delivery' →
    rounds' = rounds ∧ delivery' = delivery
  /-- The unit is asked of one inlet more than there are entries left, at most. -/
  asked_le : (asked rounds).length ≤ cursor.remaining.length + 1
  /-- It is asked of no other inlet. -/
  asked_only : ∀ unit' : Inlet σ → Reply (Inlet σ) α, (∀ inlet ∈ asked rounds, unit' inlet = unit inlet) →
    UnitRounds out noMore unit' cursor rounds delivery
  takes : Takes cursor delivery.next taken
  taken_le : taken.length ≤ cursor.remaining.length
  /-- Every round returns or lowers twice the entries left, and one if a source is open. -/
  falls : ∀ there ∈ rounds, ∀ next, there.round out noMore unit = .again next →
    2 * next.remaining.length + next.openSources < 2 * there.remaining.length + there.openSources

theorem endsWithin_of_held {error : SourceError} (hpending : cursor.pending = some error) :
    EndsWithin out noMore unit cursor [] [] ⟨out, some error, { cursor with pending := none }⟩ where
  runs := .held hpending
  alone rounds' delivery' h := by
    cases h with
    | held hpending' =>
      cases hpending.symm.trans hpending'
      exact ⟨rfl, rfl⟩
    | searched hpending' => cases hpending.symm.trans hpending'
  asked_le := Nat.zero_le _
  asked_only unit' _ := .held hpending
  takes := ⟨rfl, rfl⟩
  taken_le := Nat.zero_le _
  falls there hthere := nomatch hthere

theorem Rounds.endsWithin {rounds : List (Cursor σ)} {delivery : Delivery σ α} (hpending : cursor.pending = none)
    (h : Rounds out noMore unit cursor rounds delivery) :
    ∃ taken, EndsWithin out noMore unit cursor rounds taken delivery := by
  obtain ⟨taken, htakes, hasked⟩ := h.takes
  have htaken := htakes.length_le
  have hopen := cursor.openSources_le
  refine ⟨taken, .searched hpending h, ?_, by omega, ?_, htakes, htaken, ?_⟩
  · intro rounds' delivery' h'
    cases h' with
    | held hpending' => cases hpending.symm.trans hpending'
    | searched _ h' => exact h.unique h'
  · exact fun unit' hunit => .searched hpending (h.congr hunit)
  · intro there _ next hround
    rw [← crossings_eq, ← crossings_eq]
    exact crossings_of_again hround

/-- **What gives a held failure, and else searches in rounds, ends within the list.** -/
theorem endsWithin_of_search {search : Cursor σ → Delivery σ α}
    (hsearch : ∀ there, search there = (there.round out noMore unit).goOn search) (cursor : Cursor σ) :
    ∃ rounds taken, EndsWithin out noMore unit cursor rounds taken (match cursor.pending with
      | some error => ⟨out, some error, { cursor with pending := none }⟩
      | none => search cursor) := by
  cases hpending : cursor.pending with
  | some error => exact ⟨[], [], endsWithin_of_held hpending⟩
  | none =>
    obtain ⟨rounds, delivery, h⟩ := exists_rounds out noMore unit cursor
    obtain ⟨taken, hends⟩ := h.endsWithin hpending
    rw [h.search_eq hsearch]
    exact ⟨rounds, taken, hends⟩

/-! ## A unit of either cursor -/

section Unit

open Findable

variable [Findable α] {unit : Inlet Script → Reply (Inlet Script) α} {cursor : Cursor Script}

theorem crossing_of_active {id : String} {held : Bytes} {reader : Reader Script} {reply : Reply (Inlet Script) α}
    (hphase : cursor.phase = .active id held reader) (hreply : unit ⟨held, reader, cursor.world.input⟩ = reply) :
    cursor.crossing unit
      = if reply.fault.isNone ∧ isNothing reply.got then (cursor.withInlet id reply.next).close.crossing unit
        else ⟨reply.got, reply.fault.map (.ofReading id), cursor.withInlet id reply.next⟩ := by
  rw [crossing]
  split
  · simp_all
  · rename_i hphase'
    cases hphase.symm.trans hphase'
    simp only [hreply]
    cases reply.fault with
    | some error => exact (if_neg fun h => Bool.noConfusion h.1).symm
    | none => simp only [Option.isNone_none, true_and, Option.map_none]
  · simp_all

/-- A cursor that waits looks for a unit in rounds. -/
theorem crossing_eq_round (unit : Inlet Script → Reply (Inlet Script) α) (cursor : Cursor Script) :
    cursor.crossing unit = (cursor.round nothing isNothing unit).goOn (crossing unit) := by
  fun_cases crossing unit cursor with
  | case1 hphase => rw [round_of_exhausted (openNext_of_exhausted hphase) hphase, Round.goOn]
  | case2 id held reader hphase reply cursor' error hfault =>
    rw [round_of_active (openNext_of_active hphase) hphase rfl, if_neg fun h => ?_, Round.goOn, hfault]
    · rfl
    · rw [hfault] at h
      exact Bool.noConfusion h.1
  | case3 id held reader hphase reply cursor' hfault hend =>
    rw [round_of_active (openNext_of_active hphase) hphase rfl, if_pos ⟨Option.isNone_iff_eq_none.2 hfault, hend⟩,
      Round.goOn]
  | case4 id held reader hphase reply cursor' hfault hmore =>
    rw [round_of_active (openNext_of_active hphase) hphase rfl, if_neg fun h => hmore h.2, Round.goOn, hfault]
    rfl
  | case5 hphase hnext => rw [round_of_exhausted (openNext_of_no_source hphase hnext) rfl, Round.goOn]
  | case6 hphase source rest hnext error hopen =>
    rw [round_of_fault (openNext_of_refused hphase hnext hopen), Round.goOn]
  | case7 hphase source rest hnext reader hopen =>
    -- The source that has been opened is asked in the same round.
    rw [crossing_of_active rfl rfl, round_of_active (openNext_of_opened hphase hnext hopen) rfl rfl,
      apply_ite (Round.goOn _)]
    rfl

/-- **A unit of a cursor that waits ends within the list.** -/
theorem endsWithin_readUnit (unit : Inlet Script → Reply (Inlet Script) α) (cursor : Cursor Script) :
    ∃ rounds taken, EndsWithin nothing isNothing unit cursor rounds taken (cursor.readUnit unit) :=
  endsWithin_of_search (crossing_eq_round unit) cursor

end Unit

end Cursor

namespace AsyncCursor

open Cursor

/-- What has been collected and no more. -/
def noMoreThan (out got : Bytes) : Bool :=
  got.length ≤ out.length

theorem noMoreThan_iff {out got : Bytes} : noMoreThan out got ↔ got.length ≤ out.length :=
  decide_eq_true_iff

variable {portion : Portion} {out : Bytes} {cursor : AsyncCursor}

theorem crossing_of_active {id : String} {held : Bytes} {reader : Reader PolledScript} {reply : Reply PolledInlet}
    (hphase : cursor.phase = .active id held reader)
    (hreply : PolledInlet.add portion out ⟨held, reader, cursor.world.input⟩ = reply) :
    crossing portion out cursor
      = if reply.fault.isNone ∧ reply.got.length ≤ out.length
        then crossing portion out (cursor.withInlet id reply.next).close
        else ⟨reply.got, reply.fault.map (.ofReading id), cursor.withInlet id reply.next⟩ := by
  rw [crossing]
  split
  · simp_all
  · simp_all
  · rename_i hphase'
    cases hphase.symm.trans hphase'
    simp only [hreply]

/-- A cursor whose readers can be not ready looks for a portion in rounds. -/
theorem crossing_eq_round (portion : Portion) (out : Bytes) (cursor : AsyncCursor) :
    crossing portion out cursor
      = (cursor.round out (noMoreThan out) (PolledInlet.add portion out)).goOn (crossing portion out) := by
  fun_cases crossing portion out cursor with
  | case1 hphase => rw [round_of_exhausted (openNext_of_exhausted hphase) hphase, Round.goOn]
  | case2 hphase hnext => rw [round_of_exhausted (openNext_of_no_source hphase hnext) rfl, Round.goOn]
  | case3 hphase source rest hnext error hopen =>
    rw [round_of_fault (openNext_of_refused hphase hnext hopen), Round.goOn]
  | case4 hphase source rest hnext reader hopen =>
    -- The source that has been opened is asked in the same round.
    rw [crossing_of_active rfl rfl, round_of_active (openNext_of_opened hphase hnext hopen) rfl rfl,
      apply_ite (Round.goOn _)]
    simp only [noMoreThan_iff]
    rfl
  | case5 id held reader hphase reply cursor' hend =>
    rw [round_of_active (openNext_of_active hphase) hphase rfl, if_pos ⟨hend.1, noMoreThan_iff.2 hend.2⟩,
      Round.goOn]
  | case6 id held reader hphase reply cursor' hmore =>
    rw [round_of_active (openNext_of_active hphase) hphase rfl, if_neg fun h => hmore ⟨h.1, noMoreThan_iff.1 h.2⟩,
      Round.goOn]

/-- **A portion from a cursor whose readers can be not ready ends within the list.** -/
theorem endsWithin_add (portion : Portion) (out : Bytes) (cursor : AsyncCursor) :
    ∃ rounds taken, EndsWithin out (noMoreThan out) (PolledInlet.add portion out) cursor rounds taken
      (add portion out cursor) :=
  endsWithin_of_search (crossing_eq_round portion out) cursor

end AsyncCursor

end InputChain
