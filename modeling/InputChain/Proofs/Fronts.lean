import InputChain.Proofs.InputLeft
import InputChain.Proofs.Pieces

/-!
# The front of a source

What a source gives up to its end or its first failure is its front. An interrupted request is made again, so an
interruption is no failure of the front. A source that is read line by line gives the lines of its front, and its
failure in place of a last line that it cuts off.

* `Front`, `Front.Yields`: a front, and what it yields when a line is asked of it.
* `Script.drain_of_nil`, `Script.drain_of_got`: how one request moves along what a reader gives.
* `Reader.RestsAtEnd`: readers that give nothing behind their end.
* `Inlet.front`, **`Inlet.yields_readUntil`**: a line is asked of the front of an open source.
-/

namespace InputChain

/-- What a source gives up to its end or its first failure, and the failure. -/
structure Front where
  bytes : Bytes
  fault : Option SourceError
  deriving DecidableEq, Repr

namespace Front

/-- Nothing, and no failure. -/
def nothing : Front := ⟨[], none⟩

/-- The same with these bytes in front. -/
def after (got : Bytes) (front : Front) : Front :=
  { front with bytes := got ++ front.bytes }

/-- Asked for a line, a front yields these bytes and this failure, and is so behind them: a whole line, the last line,
which has no line end, or what there is of a line that the failure cuts off. -/
inductive Yields : Front → Bytes → Option SourceError → Front → Prop where
  | whole {bytes line rest : Bytes} {fault : Option SourceError}
      (hsplit : Inlet.splitThrough newline bytes = some (line, rest)) :
      Yields ⟨bytes, fault⟩ line none ⟨rest, fault⟩
  | last {bytes : Bytes} (hsplit : Inlet.splitThrough newline bytes = none) :
      Yields ⟨bytes, none⟩ bytes none .nothing
  | cut {bytes : Bytes} {error : SourceError} {later : Front}
      (hsplit : Inlet.splitThrough newline bytes = none) :
      Yields ⟨bytes, some error⟩ bytes (some error) later

/-- Bytes without a line end become the front of the line. -/
theorem Yields.after {got line : Bytes} {fault : Option SourceError} {front later : Front}
    (hgot : Inlet.splitThrough newline got = none) (h : front.Yields line fault later) :
    (front.after got).Yields (got ++ line) fault later := by
  cases h with
  | whole hsplit => exact .whole (by rw [splitThrough_append_of_none _ hgot, hsplit]; rfl)
  | last hsplit => exact .last (by rw [splitThrough_append_of_none _ hgot, hsplit]; rfl)
  | cut hsplit => exact .cut (by rw [splitThrough_append_of_none _ hgot, hsplit]; rfl)

end Front

/-! ## What a reader gives -/

namespace Script

variable {room : Nat} {script : Script} (hroom : room ≠ 0)

include hroom

/-- A request that is answered with nothing, or fails, has found all that the reader gives. -/
theorem drain_of_nil (hgot : (script.readThrough room).got = []) :
    script.drain = script.readThrough room := by
  have hread : script.readThrough room = script.awake.read room := rfl
  rw [hread] at hgot ⊢
  rw [← drain_awake]
  obtain ⟨answers, thereafter⟩ := script
  have hhead := List.head?_dropWhile_not isInterruption answers
  rw [awake] at hgot ⊢
  simp only at hgot ⊢
  generalize answers.dropWhile isInterruption = awoken at hgot hhead ⊢
  cases awoken with
  | nil => exact (if_neg hroom).symm
  | cons answer rest =>
    cases answer with
    | fault error =>
      have hawake : error.isInterrupted = false := hhead
      rw [drain_fault, if_neg (Bool.eq_false_iff.1 hawake), read, if_neg hroom]
    | bytes content =>
      cases content with
      | nil =>
        rw [read, if_neg hroom]
        rfl
      | cons b content =>
        rw [read, if_neg hroom] at hgot
        by_cases hfits : (b :: content).length ≤ room
        · simp only [if_pos hfits] at hgot
          cases hgot
        · simp only [if_neg hfits] at hgot
          exact absurd hgot (by simpa using hroom)

/-- A request that is answered with bytes has found the front of what the reader gives. -/
theorem drain_of_got (hgot : (script.readThrough room).got ≠ []) :
    script.drain = (script.readThrough room).next.drain.after (script.readThrough room).got := by
  have hread : script.readThrough room = script.awake.read room := rfl
  rw [hread] at hgot ⊢
  rw [← drain_awake]
  generalize script.awake = script at hgot ⊢
  obtain ⟨answers, thereafter⟩ := script
  rw [read, if_neg hroom] at hgot ⊢
  cases answers with
  | nil => exact absurd rfl hgot
  | cons answer rest =>
    cases answer with
    | fault error => exact absurd rfl hgot
    | bytes content =>
      by_cases hfits : content.length ≤ room
      · simp only [if_pos hfits] at hgot ⊢
        exact drain_bytes hgot rest
      · -- the answer is handed out in two pieces, and what is left of it is an answer as well
        simp only [if_neg hfits]
        have hdrop : content.drop room ≠ [] := fun hnil => hfits (List.drop_eq_nil_iff.1 hnil)
        have hcontent : content ≠ [] := by
          rintro rfl
          exact hdrop List.drop_nil
        rw [drain_bytes hcontent, drain_bytes hdrop, Reply.after_after, List.take_append_drop]

end Script

/-- Asked again behind its end, the reader gives nothing and does not fail. -/
def Script.RestsAtEnd (script : Script) : Prop :=
  script.drain.fault = none → script.drain.next.drain.got = [] ∧ script.drain.next.drain.fault = none

/-- The reader rests at its end; standard input does. -/
def Reader.RestsAtEnd : Reader Script → Prop
  | .script answers => answers.RestsAtEnd
  | .standardInput => True

/-! ## The front of an open source -/

namespace Inlet

variable {inlet : Inlet Script}

/-- The front of an open source: what is held, and what its reader gives behind it. -/
def front (id : String) (inlet : Inlet Script) : Front :=
  match inlet.reader with
  | .script script => ⟨inlet.held ++ script.drain.got, script.drain.fault.map (.ofReading id)⟩
  | .standardInput => ⟨inlet.held ++ inlet.input.left, none⟩

/-- The reader rests at its end, or nothing is left in front of it. -/
def Rests (id : String) (inlet : Inlet Script) : Prop :=
  inlet.reader.RestsAtEnd ∨ inlet.front id = .nothing

/-- What is held comes first. -/
theorem front_held (id : String) (held : Bytes) (reader : Reader Script) (input : StandardInput) :
    front id ⟨held, reader, input⟩ = (front id ⟨[], reader, input⟩).after held := by
  cases reader <;> rfl

/-- A request that is answered with nothing, or fails, has found all there is. -/
theorem front_of_pullThrough_nil (id : String) (hheld : inlet.held = [])
    (hgot : (inlet.pullThrough blockSize).got = []) :
    inlet.front id = ⟨[], (inlet.pullThrough blockSize).fault.map (.ofReading id)⟩
      ∧ (inlet.reader.RestsAtEnd → (inlet.pullThrough blockSize).fault = none →
        (inlet.pullThrough blockSize).next.front id = .nothing) := by
  obtain ⟨held, script | _, input⟩ := inlet
  · obtain rfl : held = [] := hheld
    have hdrain : script.drain = script.readThrough blockSize := Script.drain_of_nil (by decide) hgot
    refine ⟨?_, fun hrests hfault => ?_⟩
    · simp only [front, pullThrough, pullBy, ofScript, hdrain]
      exact congrArg (Front.mk · _) hgot
    · obtain ⟨hnext, hquiet⟩ := hrests (hdrain ▸ hfault)
      rw [hdrain] at hnext hquiet
      simp only [front, pullThrough, pullBy, ofScript, hnext, hquiet]
      rfl
  · obtain rfl : held = [] := hheld
    have hnone : (input.read blockSize).1 = [] := hgot
    have hend := input.left_read_of_nil (by decide : blockSize ≠ 0) hnone
    have hleft := input.read_append_left blockSize
    rw [hnone, hend] at hleft
    refine ⟨?_, fun _ _ => ?_⟩
    · simp only [front, ← hleft]
      rfl
    · simp only [front, pullThrough, pullBy, ofInput, hend]
      rfl

/-- A request that is answered with bytes has found the front of the front. -/
theorem front_of_pullThrough_got (id : String) (hheld : inlet.held = [])
    (hgot : (inlet.pullThrough blockSize).got ≠ []) :
    inlet.front id = ((inlet.pullThrough blockSize).next.front id).after (inlet.pullThrough blockSize).got
      ∧ (inlet.reader.RestsAtEnd → (inlet.pullThrough blockSize).next.reader.RestsAtEnd) := by
  obtain ⟨held, script | _, input⟩ := inlet
  · obtain rfl : held = [] := hheld
    have hdrain := Script.drain_of_got (by decide : blockSize ≠ 0) hgot
    refine ⟨?_, fun hrests => ?_⟩
    · simp only [front, pullThrough, pullBy, ofScript, hdrain]
      rfl
    · have hrests : script.RestsAtEnd := hrests
      rw [Script.RestsAtEnd, hdrain] at hrests
      exact hrests
  · obtain rfl : held = [] := hheld
    have hleft := input.read_append_left blockSize
    refine ⟨?_, fun _ => trivial⟩
    simp only [front, pullThrough, pullBy, ofInput, ← hleft]
    rfl

/-- A fill that gives nothing has found all there is. -/
theorem front_of_fillThrough_nil (id : String) (hgot : inlet.fillThrough.got = []) :
    inlet.front id = ⟨[], inlet.fillThrough.fault.map (.ofReading id)⟩
      ∧ (inlet.reader.RestsAtEnd → inlet.fillThrough.fault = none →
        inlet.fillThrough.next.front id = .nothing) := by
  obtain ⟨hheld, hfill⟩ := fillBy_of_nil (fun inlet => held_pullThrough blockSize inlet) hgot
  have hpull : inlet.fillThrough = inlet.pullThrough blockSize := hfill
  rw [hpull] at hgot ⊢
  exact front_of_pullThrough_nil id hheld hgot

/-- A fill that gives bytes has found the front of the front. -/
theorem front_of_fillThrough_got (id : String) (hgot : inlet.fillThrough.got ≠ []) :
    inlet.front id = ({ inlet.fillThrough.next with held := [] }.front id).after inlet.fillThrough.got
      ∧ (inlet.reader.RestsAtEnd → inlet.fillThrough.next.reader.RestsAtEnd) := by
  unfold fillThrough fillBy at hgot ⊢
  split
  · rename_i hheld
    have hnil := List.isEmpty_iff.1 hheld
    rw [if_pos hheld] at hgot
    have hnext : (inlet.pullThrough blockSize).next.held = [] := (held_pullThrough _ _).trans hnil
    obtain ⟨hfront, hrests⟩ := front_of_pullThrough_got id hnil hgot
    refine ⟨?_, hrests⟩
    rw [hfront]
    generalize inlet.pullThrough blockSize = reply at hnext
    obtain ⟨got, fault, held, reader, input⟩ := reply
    obtain rfl : held = [] := hnext
    rfl
  · exact ⟨front_held id inlet.held inlet.reader inlet.input, fun hrests => hrests⟩

/-- **A line is asked of the front of an open source**, and behind it the reader rests at its end as before. -/
theorem yields_readUntil (id : String) (hrests : inlet.reader.RestsAtEnd) :
    (inlet.front id).Yields (inlet.readUntil newline).got
        ((inlet.readUntil newline).fault.map (.ofReading id)) ((inlet.readUntil newline).next.front id)
      ∧ ((inlet.readUntil newline).fault = none → (inlet.readUntil newline).next.Rests id) := by
  fun_induction readUntil newline inlet with
  | case1 inlet filled hgot =>
    obtain ⟨hfront, hend⟩ := front_of_fillThrough_nil id hgot
    rw [hfront, hgot]
    cases hfault : filled.fault with
    | none =>
      have hnothing : filled.next.front id = .nothing := hend hrests hfault
      rw [hnothing]
      exact ⟨.last rfl, fun _ => Or.inr hnothing⟩
    | some error => exact ⟨.cut rfl, fun hnone => absurd hnone (Option.some_ne_none error)⟩
  | case2 inlet filled hgot line rest hsplit =>
    obtain ⟨hfront, hnext⟩ := front_of_fillThrough_got id hgot
    refine ⟨?_, fun _ => Or.inl (hnext hrests)⟩
    rw [hfront, front_held id rest]
    exact .whole (splitThrough_append_of_some _ hsplit)
  | case3 inlet filled hgot hsplit _ more ih =>
    obtain ⟨hfront, hnext⟩ := front_of_fillThrough_got id hgot
    obtain ⟨hyields, hmore⟩ := ih (hnext hrests)
    rw [hfront]
    exact ⟨hyields.after hsplit, hmore⟩

/-- If there is nothing, a line is nothing. -/
theorem readUntil_of_nothing {id : String} (hnothing : inlet.front id = .nothing) :
    (inlet.readUntil newline).got = [] ∧ (inlet.readUntil newline).fault = none := by
  have hgot : inlet.fillThrough.got = [] := by
    by_contra hsome
    have hfront := (front_of_fillThrough_got id hsome).1
    rw [hnothing] at hfront
    exact hsome (List.append_eq_nil_iff.1 (congrArg Front.bytes hfront).symm).1
  have hfront := (front_of_fillThrough_nil id hgot).1
  rw [hnothing] at hfront
  rw [readUntil_of_end hgot]
  exact ⟨hgot, Option.map_eq_none_iff.1 (congrArg Front.fault hfront).symm⟩

/-- Where a line is found, it is one of the front. -/
theorem yields_of_rests {id : String} (hrests : inlet.Rests id)
    (hgave : (inlet.readUntil newline).got ≠ [] ∨ (inlet.readUntil newline).fault.isSome) :
    (inlet.front id).Yields (inlet.readUntil newline).got
        ((inlet.readUntil newline).fault.map (.ofReading id)) ((inlet.readUntil newline).next.front id)
      ∧ ((inlet.readUntil newline).fault = none → (inlet.readUntil newline).next.Rests id) := by
  rcases hrests with hrests | hnothing
  · exact yields_readUntil id hrests
  · obtain ⟨hgot, hfault⟩ := readUntil_of_nothing hnothing
    rw [hgot, hfault] at hgave
    exact (hgave.elim (fun hne => hne rfl) nofun).elim

end Inlet

/-! ## The front of a source -/

namespace Source

/-- The front of a source before it is opened: a source that does not open fails with nothing in front. -/
def front (world : World) (source : Source Script) : Front :=
  match source.provider.opened world.files with
  | .ok reader => Inlet.front source.id ⟨[], reader, world.input⟩
  | .error error => ⟨[], some (.ofOpening source.id error)⟩

/-- If the source opens, its reader rests at its end. -/
def RestsAtEnd (files : FileTree) (source : Source Script) : Prop :=
  ∀ reader, source.provider.opened files = .ok reader → reader.RestsAtEnd

variable {world : World} {source : Source Script}

theorem front_of_opened {reader : Reader Script} (hopen : source.provider.opened world.files = .ok reader) :
    source.front world = Inlet.front source.id ⟨[], reader, world.input⟩ := by
  rw [front, hopen]

theorem front_of_refused {error : IoError} (hopen : source.provider.opened world.files = .error error) :
    source.front world = ⟨[], some (.ofOpening source.id error)⟩ := by
  rw [front, hopen]

/-- A source that is not standard input gives the same whatever is left of standard input. -/
theorem front_withInput (hown : source.provider.isStandardInput = false) (input : StandardInput) :
    source.front { world with input } = source.front world := by
  cases hopen : source.provider.opened world.files with
  | error error => rw [front_of_refused hopen, @front_of_refused { world with input } source error hopen]
  | ok reader =>
    have hreader : reader ≠ .standardInput := by
      rw [Ne, Provider.opened_isStandardInput hopen, hown]
      exact Bool.false_ne_true
    rw [front_of_opened hopen, @front_of_opened { world with input } source reader hopen]
    cases reader with
    | script script => rfl
    | standardInput => exact absurd rfl hreader

theorem restsAtEnd_serving (content : Bytes) : (Behaviour.serving content : Script).RestsAtEnd := by
  by_cases hcontent : content = []
  · subst hcontent
    exact fun _ => ⟨rfl, rfl⟩
  · have hdrain : (Behaviour.serving content : Script).drain = (Script.drain ⟨[], none⟩).after content :=
      Script.drain_bytes hcontent []
    rw [Script.RestsAtEnd, hdrain]
    exact fun _ => ⟨rfl, rfl⟩

/-- Files and standard input rest at their end. -/
theorem restsAtEnd_file (files : FileTree) (path : String) : (Source.file path).RestsAtEnd files := by
  intro reader hopen
  rw [Source.file, Provider.opened] at hopen
  cases hfind : files.find path with
  | error fault =>
    rw [hfind] at hopen
    cases hopen
  | ok entry =>
    rw [hfind] at hopen
    cases entry with
    | file content =>
      cases hopen
      exact restsAtEnd_serving content
    | directory =>
      cases hopen
      exact fun hfault => absurd hfault (Option.some_ne_none _)

theorem restsAtEnd_standardInput (files : FileTree) : Source.standardInput.RestsAtEnd files := by
  intro reader hopen
  cases hopen
  trivial

end Source

end InputChain
