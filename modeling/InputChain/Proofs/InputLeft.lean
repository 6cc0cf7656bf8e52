import InputChain.Proofs.OneOpen
import InputChain.Proofs.Origin

/-!
# What is left of standard input

All entries of a list that are standard input draw on the same bytes. For a cursor, what its open source
holds of them and what nobody has drawn is left. Nothing that happens to a cursor brings any of it back;
and if nothing is skipped, an entry that is standard input is left only when nothing is left of it.

* `SourceList.readsInput`, `SourceList.IsFirstInput`: the entries that are standard input.
* `Cursor.inputLeft`, `Cursor.inputLeft_withInlet`: what is left, and what a unit draws of it.
* `Cursor.inputLeft_follows`: nothing comes back.
* `Cursor.DrainedBehind`, **`Cursor.DrainedBehind.follows`**: behind an entry that came to its end nothing
  is left.
-/

namespace InputChain

/-! ## The entries that are standard input -/

/-- Whether it is standard input that opens. -/
def Provider.isStandardInput : Provider Script → Bool
  | .standardInput => true
  | _ => false

theorem Provider.opened_isStandardInput {provider : Provider Script} {files : FileTree}
    {reader : Reader Script} (hopen : provider.opened files = .ok reader) :
    reader = .standardInput ↔ provider.isStandardInput := by
  cases provider with
  | standardInput =>
    cases hopen
    exact iff_of_true rfl rfl
  | memory name content =>
    cases hopen
    exact iff_of_false nofun nofun
  | file path =>
    refine iff_of_false (fun hreader => ?_) nofun
    rw [hreader, opened] at hopen
    split at hopen <;> cases hopen
  | scripted name opening =>
    refine iff_of_false (fun hreader => ?_) nofun
    rw [hreader] at hopen
    cases opening <;> cases hopen

/-- Standard input opens. -/
theorem Provider.isStandardInput_of_error {provider : Provider Script} {files : FileTree}
    {error : IoError} (hopen : provider.opened files = .error error) :
    provider.isStandardInput = false := by
  cases provider with
  | standardInput => cases hopen
  | _ => rfl

namespace SourceList

/-- Whether the entry at an index is standard input. -/
def readsInput (list : SourceList Script) (index : Nat) : Bool :=
  (list.sources[index]?).any fun source => source.provider.isStandardInput

/-- The first entry to come that is standard input. -/
structure IsFirstInput (list : SourceList Script) (first : Nat) : Prop where
  toCome : list.position ≤ first
  readsInput : list.readsInput first
  least : ∀ index, list.position ≤ index → list.readsInput index → first ≤ index

theorem readsInput_of_entry {list : SourceList Script} {index : Nat} {source : Source Script}
    (hentry : list.sources[index]? = some source) :
    list.readsInput index = source.provider.isStandardInput := by
  rw [readsInput, hentry]
  rfl

end SourceList

namespace Cursor

variable {list : SourceList Script} {world : World} {cursor later : Cursor Script}
  {operation : BlockingOperation} {first : Nat}

/-- The open source reads standard input if its entry does. -/
theorem Anchored.reader_iff (h : cursor.Anchored list world) {id : String} {held : Bytes}
    {reader : Reader Script} (hphase : cursor.phase = .active id held reader) :
    reader = .standardInput ↔ list.readsInput (cursor.sources.position - 1) := by
  obtain ⟨index, source, -, hposition, -, hentry, opened, hopen, hdrawn⟩ := h.inlet hphase
  rw [hposition, Nat.add_sub_cancel, SourceList.readsInput_of_entry hentry,
    ← Provider.opened_isStandardInput hopen]
  exact hdrawn.standardInput_iff

/-! ## What is left of standard input -/

/-- What is left of standard input for a cursor: what it holds of it, and what nobody has drawn. -/
def inputLeft (cursor : Cursor Script) : Bytes :=
  match cursor.phase with
  | .active _ held .standardInput => held ++ cursor.world.input.left
  | _ => cursor.world.input.left

theorem inputLeft_of_idle (hphase : cursor.phase = .idle) :
    cursor.inputLeft = cursor.world.input.left := by
  rw [inputLeft, hphase]

section Active

variable {id : String} {held : Bytes}

theorem inputLeft_of_script {script : Script} (hphase : cursor.phase = .active id held (.script script)) :
    cursor.inputLeft = cursor.world.input.left := by
  rw [inputLeft, hphase]

theorem inputLeft_of_standardInput (hphase : cursor.phase = .active id held .standardInput) :
    cursor.inputLeft = held ++ cursor.world.input.left := by
  rw [inputLeft, hphase]

theorem inputLeft_enter {source : Source Script} {rest : SourceList Script} {reader : Reader Script}
    (hphase : cursor.phase = .idle) :
    (cursor.enter source.id reader rest).inputLeft = cursor.inputLeft := by
  rw [inputLeft_of_idle hphase]
  cases reader <;> rfl

theorem inputLeft_exhaust (hphase : cursor.phase = .idle) :
    inputLeft { cursor with phase := .exhausted } = cursor.inputLeft :=
  (inputLeft_of_idle hphase).symm

/-- A unit of the open source draws what it takes, and no more. -/
theorem inputLeft_withInlet {reader : Reader Script} (hphase : cursor.phase = .active id held reader)
    {taken : Bytes} {inlet : Inlet Script}
    (hdraws : Inlet.Draws ⟨held, reader, cursor.world.input⟩ taken inlet) :
    (reader = .standardInput → cursor.inputLeft = taken ++ (cursor.withInlet id inlet).inputLeft)
      ∧ (reader ≠ .standardInput → cursor.inputLeft = (cursor.withInlet id inlet).inputLeft) := by
  have hsame := hdraws.same
  obtain ⟨held', reader', input'⟩ := inlet
  constructor
  · rintro rfl
    obtain rfl : reader' = .standardInput := hsame.reader.2 rfl
    rw [inputLeft_of_standardInput hphase]
    exact hdraws.drawn rfl
  · intro hscript
    obtain rfl : input' = cursor.world.input := hsame.input hscript
    have hscript' : reader' ≠ .standardInput := mt hsame.reader.1 hscript
    cases reader with
    | standardInput => exact absurd rfl hscript
    | script script =>
      rw [inputLeft_of_script hphase]
      cases reader' with
      | standardInput => exact absurd rfl hscript'
      | script script' => rfl

/-- A source that reports its end takes nothing of standard input with it. -/
theorem inputLeft_ends {reader : Reader Script} (hphase : cursor.phase = .active id held reader)
    {inlet : Inlet Script}
    (hend : Inlet.ReportsEnd ⟨held, reader, cursor.world.input⟩ inlet) :
    (cursor.withInlet id inlet).close.inputLeft = cursor.inputLeft
      ∧ (reader = .standardInput → cursor.inputLeft = []) := by
  cases reader with
  | standardInput =>
    obtain ⟨rfl, hleft, rfl⟩ := Inlet.left_of_reportsEnd rfl hend
    rw [inputLeft_of_standardInput hphase]
    exact ⟨hleft.symm, fun _ => hleft⟩
  | script script =>
    refine ⟨?_, nofun⟩
    obtain ⟨hheld, room, -, hpull⟩ := hend
    have hsame := (Inlet.draws_pullThrough room hheld).same.input nofun
    rw [hpull] at hsame
    rw [inputLeft_of_script hphase]
    exact congrArg StandardInput.left hsame

end Active

/-- Nothing comes back. -/
theorem inputLeft_follows (hfollows : Follows operation cursor later) :
    later.inputLeft <:+ cursor.inputLeft := by
  cases hfollows with
  | opens _ hphase => exact (inputLeft_enter hphase).symm ▸ List.suffix_rfl
  | refuses => exact List.suffix_rfl
  | exhausts _ hphase => exact (inputLeft_exhaust hphase).symm ▸ List.suffix_rfl
  | @reads id held reader unit _ hphase hunit =>
    obtain ⟨taken, hdraws⟩ := hunit.draws ⟨held, reader, cursor.world.input⟩
    obtain ⟨hinput, hscript⟩ := inputLeft_withInlet hphase hdraws
    by_cases hreader : reader = .standardInput
    · exact ⟨taken, (hinput hreader).symm⟩
    · exact hscript hreader ▸ List.suffix_rfl
  | ends _ hphase hend => exact (inputLeft_ends hphase hend).1 ▸ List.suffix_rfl
  | @skips id held reader _ hphase =>
    cases reader with
    | standardInput => exact inputLeft_of_standardInput hphase ▸ List.suffix_append ..
    | script => exact inputLeft_of_script hphase ▸ List.suffix_rfl
  | @consumes count id held reader _ hphase =>
    cases reader with
    | standardInput =>
      rw [inputLeft_of_standardInput hphase]
      exact ⟨held.take count, by
        rw [inputLeft, ← List.append_assoc, List.take_append_drop]⟩
    | script => exact inputLeft_of_script hphase ▸ List.suffix_rfl
  | notes => exact List.suffix_rfl

/-! ## Behind an entry -/

/-- Once the cursor has left the entry at this index, nothing is left of standard input. -/
def DrainedBehind (first : Nat) (cursor : Cursor Script) : Prop :=
  first < cursor.sources.position →
    cursor.inputLeft = [] ∨ (cursor.sources.position = first + 1 ∧ cursor.currentId?.isSome)

namespace DrainedBehind

/-- What is drained stays so while the cursor keeps its place. -/
theorem of_suffix (h : cursor.DrainedBehind first) (hleft : later.inputLeft <:+ cursor.inputLeft)
    (hsources : later.sources = cursor.sources)
    (hopen : cursor.currentId?.isSome → later.currentId?.isSome) : later.DrainedBehind first := by
  intro hposition
  rw [hsources] at hposition ⊢
  rcases h hposition with hnil | ⟨hlast, hactive⟩
  · exact Or.inl (List.suffix_nil.1 (hnil ▸ hleft))
  · exact Or.inr ⟨hlast, hopen hactive⟩

/-- With no source open, nothing is left behind the entry. -/
theorem of_closed (h : cursor.DrainedBehind first) (hclosed : cursor.currentId? = none)
    (hposition : first < cursor.sources.position) : cursor.inputLeft = [] := by
  refine (h hposition).resolve_right fun hopen => ?_
  rw [hclosed] at hopen
  cases hopen.2

/-- Further on nothing is left. -/
theorem of_further (h : cursor.DrainedBehind first) (hposition : first + 1 < cursor.sources.position) :
    cursor.inputLeft = [] :=
  (h (by omega)).resolve_right fun hlast => by omega

/-- **If nothing is skipped**, an entry that is standard input is drained before it is left. -/
theorem follows (h : cursor.DrainedBehind first) (hanchored : cursor.Anchored list world)
    (hfirst : list.readsInput first) (hfollows : Follows operation cursor later)
    (hskip : operation ≠ .common .skip) : later.DrainedBehind first := by
  have hleft := inputLeft_follows hfollows
  cases hfollows with
  | @opens source rest reader _ hphase hnext hopen =>
    intro hposition
    have hrest := SourceList.position_next? hnext
    rcases Nat.lt_or_ge first cursor.sources.position with hbehind | hahead
    · exact Or.inl (List.suffix_nil.1 (h.of_closed (currentId?_of_idle hphase) hbehind ▸ hleft))
    · refine Or.inr ⟨?_, rfl⟩
      change first < rest.position at hposition
      show rest.position = first + 1
      omega
  | @refuses source rest error _ hphase hnext hopen =>
    intro hposition
    have hrest := SourceList.position_next? hnext
    rcases Nat.lt_or_ge first cursor.sources.position with hbehind | hahead
    · exact Or.inl (List.suffix_nil.1 (h.of_closed (currentId?_of_idle hphase) hbehind ▸ hleft))
    · change first < rest.position at hposition
      obtain rfl : first = cursor.sources.position := by omega
      rw [SourceList.readsInput_of_entry (hanchored.next? hnext),
        Provider.isStandardInput_of_error hopen] at hfirst
      cases hfirst
  | exhausts _ hphase =>
    exact h.of_suffix hleft rfl fun hopen => by rw [currentId?_of_idle hphase] at hopen; cases hopen
  | reads => exact h.of_suffix hleft rfl fun _ => rfl
  | ends _ hphase hend =>
    obtain ⟨hsame, hdrained⟩ := inputLeft_ends hphase hend
    intro hposition
    refine Or.inl (hsame.trans ?_)
    rcases h hposition with hnil | ⟨hlast, -⟩
    · exact hnil
    · refine hdrained ((hanchored.reader_iff hphase).2 ?_)
      rwa [hlast, Nat.add_sub_cancel]
  | skips hskips => exact absurd hskips hskip
  | consumes => exact h.of_suffix hleft rfl fun _ => rfl
  | notes => exact h.of_suffix hleft rfl id

theorem comesOf (h : cursor.DrainedBehind first) (hanchored : cursor.Anchored list world)
    (hfirst : list.readsInput first) (hcomes : ComesOf operation cursor later)
    (hskip : operation ≠ .common .skip) : later.DrainedBehind first := by
  induction hcomes with
  | refl => exact h
  | tail hbefore hfollows ih => exact ih.follows (hanchored.comesOf hbefore) hfirst hfollows hskip

end DrainedBehind

end Cursor

end InputChain
