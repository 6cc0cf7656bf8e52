import InputChain.Proofs.Printout
import InputChain.Proofs.Requests
import InputChain.Proofs.ValueTokens

/-!
# The first lines of every source

The command goes by the index of the open source and one counter. What these stand for is what is still to be
printed: the lines that are missing of the open source, and then those of the sources to come. A turn of the loop
prints what comes first of it.

* `Cursor.toPrint`, `Cursor.Prints`: what is still to be printed at a turn of the loop.
* `Cursor.Prints.close`, `Cursor.Prints.enter`, `Cursor.Passes.prints`: sources that are passed.
* **`Cursor.printStep_readLineBytes`**: one turn.
* **`writes_eq_toPrint`**: all turns.
* `Source.ofToken`, `Heads.run_of_request`: the sources of a command line.
* **`first_lines_of_every_source`**: what the command prints.
-/

namespace InputChain

open Heads (Write)

/-! ## What is still to be printed -/

namespace Cursor

/-- The fronts of the sources to come. -/
def frontsToCome (cursor : Cursor Script) : List (String × Front) :=
  cursor.remaining.map fun source => (source.id, source.front cursor.world)

/-- What is still to be printed when `printed` lines of the source at the index `current` have been. -/
def toPrint (limit : Nat) (current : Option Nat) (printed : Nat) (cursor : Cursor Script) :
    List Write × Option SourceError :=
  let later := printout limit cursor.frontsToCome
  match cursor.phase with
  | .idle => later
  | .exhausted => ([], none)
  | .active id held reader =>
    let front := Inlet.front id ⟨held, reader, cursor.world.input⟩
    if cursor.sourceIndex? = current then front.printed (limit - printed) [] later
    else front.printed limit [.header id] later

/-- The number of sources to come that are standard input. -/
def inputsToCome (cursor : Cursor Script) : Nat :=
  cursor.remaining.countP fun source => source.provider.isStandardInput

/-- What holds at each turn of the loop: no failure is held, the source whose lines have been counted is not one to
come, of an open one fewer lines have been printed than may be, all readers rest at their end, and standard input
is not read twice. -/
structure Prints (limit : Nat) (current : Option Nat) (printed : Nat) (cursor : Cursor Script) : Prop where
  pending : cursor.pending = none
  begun : ∀ index, current = some index → index < cursor.sources.position
  rests : ∀ source ∈ cursor.remaining, source.RestsAtEnd cursor.world.files
  once : cursor.inputsToCome ≤ 1
  open_rests : ∀ {id held reader}, cursor.phase = .active id held reader →
    Inlet.Rests id ⟨held, reader, cursor.world.input⟩
  open_once : ∀ {id held}, cursor.phase = .active id held .standardInput → cursor.inputsToCome = 0
  open_printed : ∀ {id held reader}, cursor.phase = .active id held reader → cursor.sourceIndex? = current →
    printed < limit

variable {limit printed : Nat} {current : Option Nat} {cursor there : Cursor Script} {id : String} {held : Bytes}
  {reader : Reader Script}

theorem toPrint_of_idle (hphase : cursor.phase = .idle) :
    cursor.toPrint limit current printed = printout limit cursor.frontsToCome := by
  rw [toPrint, hphase]

theorem toPrint_of_exhausted (hphase : cursor.phase = .exhausted) :
    cursor.toPrint limit current printed = ([], none) := by
  rw [toPrint, hphase]

/-- Of a source that was begun, fewer lines are still to be printed. -/
theorem toPrint_of_begun (hphase : cursor.phase = .active id held reader)
    (hcurrent : cursor.sourceIndex? = current) :
    cursor.toPrint limit current printed
      = (Inlet.front id ⟨held, reader, cursor.world.input⟩).printed (limit - printed) []
          (printout limit cursor.frontsToCome) := by
  rw [toPrint, hphase]
  exact if_pos hcurrent

/-- A source that was not begun is still to be printed under its header. -/
theorem toPrint_of_fresh (hphase : cursor.phase = .active id held reader)
    (hcurrent : cursor.sourceIndex? ≠ current) :
    cursor.toPrint limit current printed
      = (Inlet.front id ⟨held, reader, cursor.world.input⟩).printed limit [.header id]
          (printout limit cursor.frontsToCome) := by
  rw [toPrint, hphase]
  exact if_neg hcurrent

/-- Reading a source leaves the sources to come as they are. -/
theorem frontsToCome_withInput {input : StandardInput}
    (hinput : input = cursor.world.input ∨ cursor.inputsToCome = 0) :
    (cursor.remaining.map fun source => (source.id, source.front { cursor.world with input }))
      = cursor.frontsToCome := by
  rcases hinput with rfl | hnone
  · rfl
  · refine List.map_congr_left fun source hsource => ?_
    have hown : source.provider.isStandardInput = false := by
      simpa using List.countP_eq_zero.1 hnone source hsource
    rw [Source.front_withInput hown]

/-- A reader of its own leaves standard input as it is, and standard input is not read again. -/
theorem Prints.withInput (h : cursor.Prints limit current printed)
    (hphase : cursor.phase = .active id held reader) {next : Inlet Script}
    (hsame : Inlet.SameSource ⟨held, reader, cursor.world.input⟩ next) :
    next.input = cursor.world.input ∨ cursor.inputsToCome = 0 := by
  by_cases hreader : reader = .standardInput
  · exact Or.inr (h.open_once (hreader ▸ hphase))
  · exact Or.inl (hsame.input hreader)

/-! ## Sources that are passed -/

section Pass

variable {source : Source Script} {rest : SourceList Script} {later : Inlet Script}

/-- A source that gives nothing is closed, and nothing of it is printed. -/
theorem Prints.close (h : cursor.Prints limit current printed) (hphase : cursor.phase = .active id [] reader)
    (hreply : Inlet.pullThrough blockSize ⟨[], reader, cursor.world.input⟩ = ⟨[], none, later⟩) :
    let there := (cursor.withInlet id later).close
    there.Prints limit current printed
      ∧ there.toPrint limit current printed = cursor.toPrint limit current printed := by
  intro there
  have hsame := (@Inlet.draws_pullThrough blockSize ⟨[], reader, cursor.world.input⟩ rfl).same
  rw [hreply] at hsame
  have hnothing : Inlet.front id ⟨[], reader, cursor.world.input⟩ = .nothing := by
    have hfront := (@Inlet.front_of_pullThrough_nil ⟨[], reader, cursor.world.input⟩ id rfl
      (by rw [hreply])).1
    rwa [hreply] at hfront
  have hcome : there.frontsToCome = cursor.frontsToCome := frontsToCome_withInput (h.withInput hphase hsame)
  refine ⟨{ pending := h.pending, begun := h.begun, rests := h.rests, once := h.once, open_rests := nofun,
            open_once := nofun, open_printed := nofun }, ?_⟩
  rw [toPrint_of_idle rfl, hcome]
  by_cases hcurrent : cursor.sourceIndex? = current
  · rw [toPrint_of_begun hphase hcurrent, hnothing, Front.printed_nothing]
  · rw [toPrint_of_fresh hphase hcurrent, hnothing, Front.printed_nothing]

/-- A source that is opened has not been begun, and is printed under its header. -/
theorem Prints.enter (h : cursor.Prints limit current printed) (hphase : cursor.phase = .idle)
    (hnext : cursor.sources.next? = some (source, rest))
    (hopen : source.provider.opened cursor.world.files = .ok reader) :
    let there := cursor.enter source.id reader rest
    there.Prints limit current printed
      ∧ there.toPrint limit current printed = cursor.toPrint limit current printed := by
  intro there
  have hremaining : cursor.remaining = source :: rest.remaining := SourceList.remaining_next? hnext
  have hposition : rest.position = cursor.sources.position + 1 := SourceList.position_next? hnext
  have hindex : there.sourceIndex? = some cursor.sources.position := by
    rw [sourceIndex?, show there.sources.position = cursor.sources.position + 1 from hposition]
  have hfresh : there.sourceIndex? ≠ current := by
    intro hcurrent
    exact Nat.lt_irrefl _ (h.begun _ (hcurrent.symm.trans hindex))
  have hcount : there.inputsToCome + (if source.provider.isStandardInput then 1 else 0) = cursor.inputsToCome := by
    rw [inputsToCome, inputsToCome, hremaining, List.countP_cons]
    rfl
  have honce := h.once
  have hprints : there.Prints limit current printed := {
    pending := h.pending
    begun := fun index hindex => Nat.lt_of_lt_of_le (h.begun index hindex) (hposition ▸ Nat.le_succ _)
    rests := fun source hsource => h.rests source (hremaining ▸ List.mem_cons_of_mem _ hsource)
    once := by omega
    open_rests := fun hactive => by
      cases hactive
      exact Or.inl (h.rests source (hremaining ▸ List.mem_cons_self) reader hopen)
    open_once := fun hactive => by
      cases hactive
      have hinput : source.provider.isStandardInput := (Provider.opened_isStandardInput hopen).1 rfl
      rw [if_pos hinput] at hcount
      omega
    open_printed := fun _ hcurrent => absurd hcurrent hfresh }
  have hcome : cursor.frontsToCome = (source.id, source.front cursor.world) :: there.frontsToCome := by
    rw [frontsToCome, hremaining]
    rfl
  refine ⟨hprints, ?_⟩
  rw [toPrint_of_fresh rfl hfresh, toPrint_of_idle hphase, hcome, printout_cons, Source.front_of_opened hopen]
  rfl

/-- **However many sources are passed**, what is still to be printed stays the same. -/
theorem Passes.prints {asked : List Inquiry} (hpasses : Passes (Inlet.pullThrough blockSize) cursor asked there)
    (h : cursor.Prints limit current printed) :
    there.Prints limit current printed
      ∧ there.toPrint limit current printed = cursor.toPrint limit current printed := by
  induction hpasses with
  | refl => exact ⟨h, rfl⟩
  | ends hphase hreply hrest ih =>
    obtain ⟨hclosed, hsame⟩ := h.close hphase hreply
    obtain ⟨hprints, hprinted⟩ := ih hclosed
    exact ⟨hprints, hprinted.trans hsame⟩
  | opens hphase hnext hopen hrest ih =>
    obtain ⟨hentered, hsame⟩ := h.enter hphase hnext hopen
    obtain ⟨hprints, hprinted⟩ := ih hentered
    exact ⟨hprints, hprinted.trans hsame⟩

end Pass

/-! ## One turn -/

/-- What a turn of the loop has read, and what is printed of it. -/
inductive PrintStep (limit : Nat) (current : Option Nat) (printed : Nat) (due : List Write × Option SourceError) :
    Except SourceError (Option Bytes) × Cursor Script → Prop where
  | failed {error : SourceError} {after : Cursor Script} (hdue : due = ([], some error)) :
      PrintStep limit current printed due (.error error, after)
  | ended {after : Cursor Script} (hdue : due = ([], none)) : PrintStep limit current printed due (.ok none, after)
  | line {line : Bytes} {after : Cursor Script} {count : Nat}
      (hcount : count = countPrinted (after.sourceIndex? != current) printed)
      (hprints : (after.skipAt limit count).Prints limit after.sourceIndex? count)
      (hdue : due = (Heads.lineAbove current after
          ++ .line line :: ((after.skipAt limit count).toPrint limit after.sourceIndex? count).1,
        ((after.skipAt limit count).toPrint limit after.sourceIndex? count).2)) :
      PrintStep limit current printed due (.ok (some line), after)

theorem sourceIndex?_lt {index : Nat} (hindex : cursor.sourceIndex? = some index) :
    index < cursor.sources.position := by
  unfold sourceIndex? at hindex
  split at hindex
  · cases hindex
  · rename_i before hposition
    cases hindex
    omega

/-- Behind a line, as many lines fewer of the open source are still to be printed as have been. -/
theorem Prints.skipAt {count : Nat} {next : Inlet Script} (h : cursor.Prints limit current printed)
    (hphase : cursor.phase = .active id held reader)
    (hsame : Inlet.SameSource ⟨held, reader, cursor.world.input⟩ next) (hnext : next.Rests id) :
    let after := (cursor.withInlet id next).countLine
    (after.skipAt limit count).Prints limit after.sourceIndex? count
      ∧ (after.skipAt limit count).toPrint limit after.sourceIndex? count
        = (next.front id).printed (limit - count) [] (printout limit cursor.frontsToCome) := by
  intro after
  have hcome : after.frontsToCome = cursor.frontsToCome := frontsToCome_withInput (h.withInput hphase hsame)
  have hbegun : ∀ index, after.sourceIndex? = some index → index < cursor.sources.position :=
    fun index hindex => @sourceIndex?_lt cursor index hindex
  rw [Cursor.skipAt]
  split
  · rename_i hlimit
    have hcloses : after.skip.Prints limit after.sourceIndex? count :=
      { pending := h.pending, begun := hbegun, rests := h.rests, once := h.once, open_rests := nofun,
        open_once := nofun, open_printed := nofun }
    refine ⟨hcloses, ?_⟩
    rw [Nat.sub_eq_zero_of_le hlimit, Front.printed_zero, ← hcome]
    exact toPrint_of_idle rfl
  · rename_i hlimit
    have hreads : after.Prints limit after.sourceIndex? count := {
      pending := h.pending
      begun := hbegun
      rests := h.rests
      once := h.once
      open_rests := fun hactive => by
        cases hactive
        exact hnext
      open_once := fun hactive => by
        obtain ⟨-, -, hnext⟩ := Phase.active.inj hactive
        obtain rfl : reader = .standardInput := hsame.reader.1 hnext
        exact h.open_once hphase
      open_printed := fun _ _ => Nat.lt_of_not_le hlimit }
    refine ⟨hreads, ?_⟩
    rw [← hcome]
    exact toPrint_of_begun rfl rfl

/-- An open source of which there is a line to print. -/
theorem toPrint_of_line {line : Bytes} {later : Front} (hlimit : limit ≠ 0)
    (h : cursor.Prints limit current printed) (hphase : cursor.phase = .active id held reader)
    (hyields : (Inlet.front id ⟨held, reader, cursor.world.input⟩).Yields line none later) (hline : line ≠ []) :
    cursor.toPrint limit current printed
      = ((if cursor.sourceIndex? = current then [] else [.header id])
          ++ .line line :: (later.printed (limit - countPrinted (cursor.sourceIndex? != current) printed) []
            (printout limit cursor.frontsToCome)).1,
        (later.printed (limit - countPrinted (cursor.sourceIndex? != current) printed) []
            (printout limit cursor.frontsToCome)).2) := by
  by_cases hcurrent : cursor.sourceIndex? = current
  · have hprinted := h.open_printed hphase hcurrent
    have hcount : limit - printed = limit - countPrinted (cursor.sourceIndex? != current) printed + 1 := by
      have hagain : (cursor.sourceIndex? != current) = false := bne_eq_false_iff_eq.2 hcurrent
      rw [hagain, countPrinted, if_neg Bool.false_ne_true]
      omega
    rw [toPrint_of_begun hphase hcurrent, hcount, Front.printed_of_line hyields hline, if_pos hcurrent]
  · have hcount : limit = limit - countPrinted (cursor.sourceIndex? != current) printed + 1 := by
      have hfirst : (cursor.sourceIndex? != current) = true := bne_iff_ne.2 hcurrent
      rw [hfirst, countPrinted, if_pos rfl]
      omega
    rw [toPrint_of_fresh hphase hcurrent, if_neg hcurrent]
    nth_rewrite 1 [hcount]
    exact Front.printed_of_line hyields hline

/-- An open source of which a failure is met. -/
theorem toPrint_of_fault {line : Bytes} {error : SourceError} {later : Front} (hlimit : limit ≠ 0)
    (h : cursor.Prints limit current printed) (hphase : cursor.phase = .active id held reader)
    (hyields : (Inlet.front id ⟨held, reader, cursor.world.input⟩).Yields line (some error) later) :
    cursor.toPrint limit current printed = ([], some error) := by
  by_cases hcurrent : cursor.sourceIndex? = current
  · have hprinted := h.open_printed hphase hcurrent
    obtain ⟨more, hmore⟩ := Nat.exists_eq_succ_of_ne_zero (Nat.sub_ne_zero_of_lt hprinted)
    rw [toPrint_of_begun hphase hcurrent, hmore, Front.printed_of_fault hyields]
  · obtain ⟨more, rfl⟩ := Nat.exists_eq_succ_of_ne_zero hlimit
    rw [toPrint_of_fresh hphase hcurrent, Front.printed_of_fault hyields]

/-- **A turn of the loop prints what is to be printed first**, and leaves the rest to the others. -/
theorem printStep_readLineBytes (hlimit : limit ≠ 0) (h : cursor.Prints limit current printed) :
    PrintStep limit current printed (cursor.toPrint limit current printed) cursor.readLineBytes := by
  obtain ⟨asked, there, hpasses, hlands⟩ := crossing_lands (Inlet.endsBy_readUntil newline) cursor
  obtain ⟨hthere, hprinted⟩ := hpasses.prints h
  rw [← hprinted, readLineBytes, readUnit_of_none h.pending]
  generalize cursor.crossing (Inlet.readUntil newline) = delivery at hlands
  cases hlands with
  | exhausted hphase => exact .ended (toPrint_of_exhausted hphase)
  | no_source hphase hnext =>
    refine .ended ((toPrint_of_idle hphase).trans ?_)
    rw [frontsToCome, remaining, SourceList.remaining_next?_none hnext]
    rfl
  | @refused source rest error hphase hnext hopen =>
    have hremaining : there.remaining = source :: rest.remaining := SourceList.remaining_next? hnext
    obtain ⟨more, rfl⟩ := Nat.exists_eq_succ_of_ne_zero hlimit
    refine .failed ((toPrint_of_idle hphase).trans ?_)
    rw [frontsToCome, hremaining, List.map_cons, printout_cons, Source.front_of_refused hopen]
    exact Front.printed_of_fault (@Front.Yields.cut [] _ .nothing rfl)
  | @reads id held reader hphase hgave =>
    have hsame := (Inlet.draws_readUntil newline ⟨held, reader, there.world.input⟩).same
    obtain ⟨hyields, hrests⟩ := Inlet.yields_of_rests (hthere.open_rests hphase) hgave
    generalize Inlet.readUntil newline ⟨held, reader, there.world.input⟩ = reply at *
    obtain ⟨line, _ | error, next⟩ := reply
    · have hline : line ≠ [] := hgave.resolve_right Bool.false_ne_true
      have hread : (if line.isEmpty then (.ok none, there.withInlet id next)
            else (.ok (some line), (there.withInlet id next).countLine) :
              Except SourceError (Option Bytes) × Cursor Script)
          = (.ok (some line), (there.withInlet id next).countLine) :=
        if_neg (by simpa using hline)
      obtain ⟨hprints, hrest⟩ := @Prints.skipAt _ _ _ _ _ _ _ (countPrinted (there.sourceIndex? != current) printed)
        next hthere hphase hsame (hrests rfl)
      simp only [Option.map_none, Delivery.orFault, hread]
      refine .line rfl hprints ?_
      have habove : Heads.lineAbove current (there.withInlet id next).countLine
          = if there.sourceIndex? = current then [] else [.header id] := by
        by_cases hcurrent : there.sourceIndex? = current
        · rw [if_pos hcurrent]
          exact if_neg fun hfirst => bne_iff_ne.1 hfirst hcurrent
        · rw [if_neg hcurrent]
          exact if_pos (bne_iff_ne.2 hcurrent)
      rw [toPrint_of_line hlimit hthere hphase hyields hline, habove, ← hrest]
      rfl
    · exact .failed (toPrint_of_fault hlimit hthere hphase hyields)

end Cursor

/-- **The loop writes what is to be printed.** -/
theorem writes_eq_toPrint {limit printed : Nat} {current : Option Nat} {cursor : Cursor Script} (hlimit : limit ≠ 0)
    (h : cursor.Prints limit current printed) :
    Heads.writes limit current printed cursor = cursor.toPrint limit current printed := by
  fun_induction Heads.writes limit current printed cursor with
  | case1 current printed cursor error after hread =>
    have hstep := Cursor.printStep_readLineBytes hlimit h
    rw [hread] at hstep
    cases hstep with
    | failed hdue => exact hdue.symm
  | case2 current printed cursor after hread =>
    have hstep := Cursor.printStep_readLineBytes hlimit h
    rw [hread] at hstep
    cases hstep with
    | ended hdue => exact hdue.symm
  | case3 current printed cursor line after hread count _ rest fault hrest ih =>
    have hstep := Cursor.printStep_readLineBytes hlimit h
    rw [hread] at hstep
    cases hstep with
    | line hcount hprints hdue =>
      subst hcount
      rw [hdue, ← ih hprints, hrest]

/-! ## Lists of sources -/

/-- A list made of no sources holds standard input. -/
theorem forall_remaining_ofList {Holds : Source Script → Prop} {sources : List (Source Script)}
    (hinput : Holds .standardInput) (hsources : ∀ source ∈ sources, Holds source) :
    ∀ source ∈ (SourceList.ofList sources).remaining, Holds source := by
  unfold SourceList.ofList
  split
  · exact List.forall_mem_singleton.2 hinput
  · exact hsources

/-- The fronts of the sources of a list. -/
def frontsOf (world : World) (sources : List (Source Script)) : List (String × Front) :=
  (SourceList.ofList sources).remaining.map fun source => (source.id, source.front world)

/-- Over a list of sources in which standard input stands at most once, the loop prints of each in turn. -/
theorem writes_ofSources {world : World} {limit : Nat} (hlimit : limit ≠ 0) {sources : List (Source Script)}
    (hrests : ∀ source ∈ sources, source.RestsAtEnd world.files)
    (honce : sources.countP (fun source => source.provider.isStandardInput) ≤ 1) :
    Heads.writes limit none 0 (Cursor.ofSources world sources) = printout limit (frontsOf world sources) := by
  have hprints : (Cursor.ofSources world sources).Prints limit none 0 := {
    pending := rfl
    begun := nofun
    rests := forall_remaining_ofList (Source.restsAtEnd_standardInput world.files) hrests
    once := by
      rw [Cursor.inputsToCome, Cursor.ofSources, Cursor.ofList, Cursor.remaining, SourceList.ofList]
      split
      · exact Nat.le_refl 1
      · exact honce
    open_rests := nofun
    open_once := nofun
    open_printed := nofun }
  exact (writes_eq_toPrint hlimit hprints).trans (Cursor.toPrint_of_idle rfl)

/-! ## Command lines -/

/-- The source that a token of a command line names. -/
def Source.ofToken (token : String) : Source Script :=
  if token = standardInputId then .standardInput else .file token

theorem resolveArgument_of_ne {token : String} (htoken : token ≠ "") :
    resolveArgument token = .ok (Source.ofToken token) := by
  rw [resolveArgument, if_neg htoken, Source.ofToken]
  split
  · rename_i hinput
    rw [hinput]
    rfl
  · rfl

theorem restsAtEnd_ofToken (files : FileTree) (token : String) : (Source.ofToken token).RestsAtEnd files := by
  unfold Source.ofToken
  split
  · exact Source.restsAtEnd_standardInput files
  · exact Source.restsAtEnd_file files token

theorem isStandardInput_ofToken (token : String) :
    (Source.ofToken token).provider.isStandardInput = (token == standardInputId) := by
  unfold Source.ofToken
  split
  · rename_i hinput
    rw [hinput]
    rfl
  · rename_i hinput
    exact (beq_false_of_ne hinput).symm

/-- Raw arguments that are not empty all name sources. -/
theorem resolvedSources_arguments {tokens : List String} (htokens : ∀ token ∈ tokens, token ≠ "") :
    resolvedSources (tokens.map Pending.argument) = tokens.map Source.ofToken := by
  induction tokens with
  | nil => rfl
  | cons token tokens ih =>
    obtain ⟨htoken, hlater⟩ := List.forall_mem_cons.1 htokens
    have hresolve : Pending.resolve (.argument token) = .ok (Source.ofToken token) := resolveArgument_of_ne htoken
    rw [List.map_cons, resolvedSources_cons_of_ok hresolve, ih hlater, List.map_cons]

theorem build_addArgs (policy : Policy) {args : InputArgs} (htokens : ∀ token ∈ args.inputs, token ≠ "") :
    ((Builder.empty.setPolicy policy).addArgs args).build
      = .ok (SourceList.ofList (args.inputs.map Source.ofToken)) := by
  have hinputs := Builder.inputs_addArgs args (Builder.empty.setPolicy policy : Builder Script)
  have husable : ∀ input ∈ (args.inputs.map Pending.argument : List (Pending Script)), input.Usable :=
    List.forall_mem_map.2 htokens
  rw [Builder.build_of_usable (hinputs ▸ husable), hinputs]
  exact congrArg (fun sources => Except.ok (SourceList.ofList sources)) (resolvedSources_arguments htokens)

namespace Heads

/-- A command line names no empty tokens. -/
theorem tokens_ofWords {words : List String} {request : Request} (hrequest : Request.ofWords words = .ok request) :
    ∀ token ∈ request.inputs.inputs, token ≠ "" := by
  unfold Request.ofWords at hrequest
  split at hrequest
  · cases hrequest
  · rename_i found _
    have hinputs : ∀ token ∈ (((inputFlag.value? found).map InputArgs.ofValue?).getD {}).inputs, token ≠ "" := by
      cases inputFlag.value? found with
      | none => exact fun token htoken => (nomatch htoken)
      | some value => exact fun token htoken => (isToken_of_mem_ofValue? value token htoken).1.ne_empty
    simp only at hrequest
    split at hrequest
    · cases hrequest
      exact hinputs
    · split at hrequest
      · cases hrequest
      · cases hrequest
        exact hinputs

/-- What a run leaves behind that has printed this, and then failed or come to the end. -/
def Outcome.ofText : Bytes × Option SourceError → Outcome
  | (output, none) => ⟨0, output, ""⟩
  | (output, some error) => ⟨1, output, s!"catstream_heads error: {error.message}\n" ++ usage⟩

theorem run_of_request (world : World) {words : List String} {request : Request}
    (hrequest : Request.ofWords words = .ok request) (hlimit : request.limit ≠ 0) :
    run world words = Outcome.ofText (heads request.limit none 0
      (Cursor.ofSources world (request.inputs.inputs.map Source.ofToken))) := by
  have hanswer : answer world request
      = ((heads request.limit none 0
            (Cursor.ofSources world (request.inputs.inputs.map Source.ofToken))).map id
          (Option.map Fault.source)) := by
    rw [answer, if_neg hlimit, build_addArgs .failFast (tokens_ofWords hrequest)]
    rfl
  rw [run, hrequest]
  simp only [hanswer]
  generalize heads request.limit none 0 (Cursor.ofSources world (request.inputs.inputs.map Source.ofToken))
    = printed
  obtain ⟨output, _ | error⟩ := printed <;> rfl

end Heads

/-- **The first lines of every source are printed.** Over sources whose readers rest at their end, of which
at most one is standard input: of each source in turn that has any bytes are printed its header and no more of
its lines than may be, and of the others nothing. A failure that is met ends this; what is printed then is what the
sources in front of it would have printed, and the whole lines in front of it. A run of the command does so over
the files and standard input that its words name, and tells of the failure. -/
theorem first_lines_of_every_source (world : World) (limit : Nat) (hlimit : limit ≠ 0) :
    (∀ sources : List (Source Script), (∀ source ∈ sources, source.RestsAtEnd world.files) →
        sources.countP (fun source => source.provider.isStandardInput) ≤ 1 →
      heads limit none 0 (Cursor.ofSources world sources)
          = Heads.textOf (printout limit (frontsOf world sources))
        ∧ ((∀ entry ∈ frontsOf world sources, entry.2.fault = none) →
          heads limit none 0 (Cursor.ofSources world sources)
            = (firstLines limit (frontsOf world sources), none)))
      ∧ ∀ words request, Heads.Request.ofWords words = .ok request → request.limit = limit →
          request.inputs.inputs.count standardInputId ≤ 1 →
        let fronts := frontsOf world (request.inputs.inputs.map Source.ofToken)
        Heads.run world words = Heads.Outcome.ofText (Heads.textOf (printout limit fronts))
          ∧ ((∀ entry ∈ fronts, entry.2.fault = none) →
            Heads.run world words = ⟨0, firstLines limit fronts, ""⟩) := by
  have hheads : ∀ sources : List (Source Script), (∀ source ∈ sources, source.RestsAtEnd world.files) →
      sources.countP (fun source => source.provider.isStandardInput) ≤ 1 →
      heads limit none 0 (Cursor.ofSources world sources)
          = Heads.textOf (printout limit (frontsOf world sources)) :=
    fun sources hrests honce => by rw [heads_eq_writes, writes_ofSources hlimit hrests honce]
  refine ⟨fun sources hrests honce => ⟨hheads sources hrests honce, fun hunfailing => ?_⟩, ?_⟩
  · rw [hheads sources hrests honce, text_printout_of_unfailing hlimit hunfailing]
  · rintro words request hrequest rfl honce fronts
    have honce' : (request.inputs.inputs.map Source.ofToken).countP
        (fun source => source.provider.isStandardInput) ≤ 1 := by
      rw [List.countP_map, List.countP_congr fun token _ => ?_]
      · exact honce
      · rw [Function.comp, isStandardInput_ofToken]
    have hrests : ∀ source ∈ request.inputs.inputs.map Source.ofToken, source.RestsAtEnd world.files := by
      intro source hsource
      obtain ⟨token, -, rfl⟩ := List.mem_map.1 hsource
      exact restsAtEnd_ofToken world.files token
    have hrun := Heads.run_of_request world hrequest hlimit
    rw [hheads _ hrests honce'] at hrun
    refine ⟨hrun, fun hunfailing => ?_⟩
    rw [hrun, text_printout_of_unfailing hlimit hunfailing]
    rfl

/-- Two lines of each: a file named twice, one without bytes, standard input and a last line without a line end; a
directory behind a file; and a reader that is interrupted in its second line and then fails there. -/
theorem first_lines_of_every_source_mixed :
    let world : World :=
      { files := { files := [(["a"], Utf8.encode "x\ny\nz\n"), (["b"], Utf8.encode "u"), (["e"], [])],
                   directories := [["d"]] }
        input := .ofBytes (Utf8.encode "1\n2\n3") }
    let failing : Script :=
      ⟨[.bytes (Utf8.encode "x\ny"), .fault (.bare .interrupted), .bytes [122], .fault (.bare .other)], none⟩
    2 ≠ 0
      ∧ Heads.run world ["-n", "2", "-i", "a,e, -", "-i", "b,a"]
        = ⟨0, Utf8.encode "==> a <==\nx\ny\n==> - <==\n1\n2\n==> b <==\nu==> a <==\nx\ny\n", ""⟩
      ∧ (Heads.run world ["--lines=2", "-i", "a,d,b"]).code = 1
      ∧ (Heads.run world ["--lines=2", "-i", "a,d,b"]).output = Utf8.encode "==> a <==\nx\ny\n"
      ∧ heads 2 none 0 (Cursor.ofSources world [⟨"s", .scripted "s" (.ok failing)⟩])
        = (Utf8.encode "==> s <==\nx\n", some (.ofReading "s" (.bare .other))) := by
  intro world failing
  obtain ⟨hheads, hrun⟩ := first_lines_of_every_source world 2 (by decide)
  have hmixed := (hrun ["-n", "2", "-i", "a,e, -", "-i", "b,a"] ⟨⟨["a", "e", "-", "b", "a"]⟩, 2⟩ (by decide +kernel)
    rfl (by decide)).2 (by decide +kernel)
  have hdirectory := (hrun ["--lines=2", "-i", "a,d,b"] ⟨⟨["a", "d", "b"]⟩, 2⟩ (by decide +kernel) rfl (by decide)).1
  have hrests : ∀ source ∈ [(⟨"s", .scripted "s" (.ok failing)⟩ : Source Script)],
      source.RestsAtEnd world.files := by
    refine List.forall_mem_singleton.2 fun reader hopen => ?_
    cases hopen
    exact fun hfault => (nomatch hfault)
  have hcut := (hheads [⟨"s", .scripted "s" (.ok failing)⟩] hrests (by decide)).1
  rw [hmixed, hdirectory, hcut]
  decide +kernel

end InputChain
