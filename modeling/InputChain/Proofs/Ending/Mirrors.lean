import InputChain.Proofs.Ending.Cut

/-!
# Units and the first end

A unit that sees an end only when it has nothing in hand yet is served alike by a reader and by what
the reader is cut to. So are lines and reads to the end, unless the reader resumes.

* `Inlet.cut`, `Inlet.resumes`: the inlet with its reader cut, and whether some read goes on past an
  end of it.
* `Mirrors`, `Inlet.mirrors_takeUpTo`, `Inlet.mirrors_fill`, `Inlet.mirrors_read`: units that are
  served alike whatever the reader does.
* `Inlet.resumes_takeUpTo` and its like: they leave no more ends to go on past.
* `Inlet.mirrors_readUntil`, `Inlet.readRest_cut`: what is served alike unless the reader resumes.
-/

namespace InputChain

/-! ## Open sources -/

/-- The reader that has ended for good at its first end. Standard input has no end but its last. -/
def Reader.cut : Reader Script → Reader Script
  | .script answers => .script answers.cut
  | .standardInput => .standardInput

namespace Inlet

/-- The inlet with its reader cut at its first end. -/
def cut (inlet : Inlet Script) : Inlet Script :=
  { inlet with reader := inlet.reader.cut }

/-- Whether some read goes on past an end of the reader, with these bytes in hand at first or else the
ones held. -/
def resumesAfter (last : Option UInt8) (inlet : Inlet Script) : Bool :=
  match inlet.reader with
  | .script answers => answers.resumesAfter (inlet.held.getLast?.or last)
  | .standardInput => false

/-- Whether some read goes on past an end of the reader. -/
def resumes (inlet : Inlet Script) : Bool :=
  inlet.resumesAfter none

end Inlet

/-- The replies of an inlet and of what it is cut to are alike, and leave inlets of this sort. After a
reply that gives nothing the source is closed, and what is left of it does not matter. -/
structure Reply.Alike (Fits : Inlet Script → Prop) (reply replyCut : Reply (Inlet Script)) :
    Prop where
  got : replyCut.got = reply.got
  fault : replyCut.fault = reply.fault
  input : replyCut.next.input = reply.next.input
  next : reply.got ≠ [] ∨ reply.fault.isSome →
    replyCut.next = reply.next.cut ∧ Fits reply.next

/-- A unit is served alike by every inlet of this sort and by what it is cut to. -/
def Mirrors (Fits : Inlet Script → Prop) (unit : Inlet Script → Reply (Inlet Script)) : Prop :=
  ∀ inlet, Fits inlet → (unit inlet).Alike Fits (unit inlet.cut)

namespace Inlet

variable {inlet : Inlet Script} {room : Nat}

/-! ### One request -/

theorem pull_cut (room : Nat) (inlet : Inlet Script) :
    (inlet.pull room).Alike (fun _ => True) (inlet.cut.pull room) := by
  obtain ⟨held, script | _, input⟩ := inlet
  · obtain ⟨hgot, hfault, hnext⟩ := script.read_cut room
    refine ⟨hgot, hfault, rfl, fun hread => ⟨?_, trivial⟩⟩
    exact congrArg (fun script => (⟨held, .script script, input⟩ : Inlet Script)) (hnext hread)
  · exact ⟨rfl, rfl, rfl, fun _ => ⟨rfl, trivial⟩⟩

/-- A request that gives bytes or fails leaves the same ends to go on past. -/
theorem resumes_pull (hroom : room ≠ 0) (hheld : inlet.held = [])
    (hread : (inlet.pull room).got ≠ [] ∨ (inlet.pull room).fault.isSome) :
    resumesAfter none { (inlet.pull room).next with held := (inlet.pull room).got }
      = inlet.resumes := by
  obtain ⟨held, script | _, input⟩ := inlet
  · cases hheld
    have hlast := Script.resumesAfter_read hroom hread
    rwa [← @Option.or_none _ (script.read room).got.getLast?] at hlast
  · rfl

theorem resumes_of_resumesAfter {last : Option UInt8} (h : inlet.resumesAfter last = false) :
    inlet.resumes = false := by
  obtain ⟨held, script | _, input⟩ := inlet
  · cases hlast : held.getLast? with
    | none =>
      rw [resumesAfter, hlast] at h
      rw [resumes, resumesAfter, hlast]
      exact Script.resumes_of_resumesAfter h
    | some b =>
      rw [resumesAfter, hlast] at h
      rw [resumes, resumesAfter, hlast]
      exact h
  · rfl

/-- Bytes in hand count as the held ones do. -/
theorem resumesAfter_held (inlet : Inlet Script) :
    resumesAfter inlet.held.getLast? { inlet with held := [] } = inlet.resumes := by
  obtain ⟨held, script | _, input⟩ := inlet
  · rw [resumes, resumesAfter, resumesAfter, Option.or_none]
    rfl
  · rfl

/-- Fewer bytes in hand go on past no more ends. -/
theorem resumes_of_suffix {rest : Bytes} (hrest : rest <:+ inlet.held)
    (h : inlet.resumes = false) : resumes { inlet with held := rest } = false := by
  obtain ⟨held, script | _, input⟩ := inlet
  · obtain ⟨front, rfl⟩ := hrest
    cases hlast : rest.getLast? with
    | none =>
      rw [resumes, resumesAfter, hlast]
      exact Script.resumes_of_resumesAfter h
    | some b =>
      rw [resumes, resumesAfter, List.getLast?_append, hlast] at h
      rw [resumes, resumesAfter, hlast]
      exact h
  · rfl

/-! ### Units that are served alike by every reader -/

theorem fillBy_cut {request : Inlet Script → Reply (Inlet Script)}
    (hrequest : (request inlet).Alike (fun _ => True) (request inlet.cut)) :
    (inlet.fillBy request).Alike (fun _ => True) (inlet.cut.fillBy request) := by
  by_cases hheld : inlet.held.isEmpty
  · have hheld' : inlet.cut.held.isEmpty := hheld
    rw [fillBy, if_pos hheld, fillBy, if_pos hheld']
    refine ⟨hrequest.got, hrequest.fault, hrequest.input, fun hread => ⟨?_, trivial⟩⟩
    simp only [(hrequest.next hread).1, hrequest.got]
    rfl
  · have hheld' : ¬inlet.cut.held.isEmpty := hheld
    rw [fillBy, if_neg hheld, fillBy, if_neg hheld']
    exact ⟨rfl, rfl, rfl, fun _ => ⟨rfl, trivial⟩⟩

theorem mirrors_fill : Mirrors (fun _ => True) fill :=
  fun inlet _ => fillBy_cut (pull_cut blockSize inlet)

theorem mirrors_takeUpTo (count : Nat) : Mirrors (fun _ => True) (takeUpTo count) := by
  intro inlet _
  obtain ⟨hgot, hfault, hinput, hnext⟩ := mirrors_fill inlet trivial
  refine ⟨congrArg (List.take count) hgot, hfault, hinput, fun hread => ⟨?_, trivial⟩⟩
  refine congrArg (consume count) (hnext (hread.imp_left fun hsome hnil => hsome ?_)).1
  rw [takeUpTo, hnil, List.take_nil]

theorem mirrors_read (room : Nat) : Mirrors (fun _ => True) (read room) := by
  intro inlet _
  by_cases hdirect : inlet.held.isEmpty ∧ blockSize ≤ room
  · have hdirect' : inlet.cut.held.isEmpty ∧ blockSize ≤ room := hdirect
    rw [read, if_pos hdirect, read, if_pos hdirect']
    exact pull_cut room inlet
  · have hdirect' : ¬(inlet.cut.held.isEmpty ∧ blockSize ≤ room) := hdirect
    rw [read, if_neg hdirect, read, if_neg hdirect']
    exact mirrors_takeUpTo room inlet trivial

/-! ### Units that leave no more ends to go on past -/

theorem resumes_fill (hread : inlet.fill.got ≠ [] ∨ inlet.fill.fault.isSome) :
    inlet.fill.next.resumes = inlet.resumes := by
  unfold fill fillBy at hread ⊢
  by_cases hheld : inlet.held.isEmpty
  · rw [if_pos hheld] at hread ⊢
    exact resumes_pull (by decide) (List.isEmpty_iff.1 hheld) hread
  · rw [if_neg hheld]

theorem resumes_takeUpTo {count : Nat} (h : inlet.resumes = false)
    (hread : (inlet.takeUpTo count).got ≠ [] ∨ (inlet.takeUpTo count).fault.isSome) :
    (inlet.takeUpTo count).next.resumes = false := by
  refine resumes_of_suffix (List.drop_suffix count _) ?_
  rw [resumes_fill, h]
  refine hread.imp_left fun hsome hnil => hsome ?_
  rw [takeUpTo, hnil, List.take_nil]

theorem resumes_read (hroom : room ≠ 0) (h : inlet.resumes = false)
    (hread : (inlet.read room).got ≠ [] ∨ (inlet.read room).fault.isSome) :
    (inlet.read room).next.resumes = false := by
  by_cases hdirect : inlet.held.isEmpty ∧ blockSize ≤ room
  · rw [read, if_pos hdirect] at hread ⊢
    have hheld := List.isEmpty_iff.1 hdirect.1
    have hnext := (held_pull room inlet).trans hheld
    have hsame := resumes_pull hroom hheld hread
    rw [h] at hsame
    have hfewer := resumes_of_suffix (List.nil_suffix) hsame
    rwa [← hnext] at hfewer
  · rw [read, if_neg hdirect] at hread ⊢
    exact resumes_takeUpTo h hread

end Inlet

/-- What every reader serves alike, and what leaves no more ends to go on past, is served alike by the
readers that do not resume. -/
theorem Mirrors.of_kept {unit : Inlet Script → Reply (Inlet Script)}
    (h : Mirrors (fun _ => True) unit)
    (hkept : ∀ {inlet : Inlet Script}, inlet.resumes = false →
      (unit inlet).got ≠ [] ∨ (unit inlet).fault.isSome → (unit inlet).next.resumes = false) :
    Mirrors (fun inlet => inlet.resumes = false) unit := by
  intro inlet hresumes
  obtain ⟨hgot, hfault, hinput, hnext⟩ := h inlet trivial
  exact ⟨hgot, hfault, hinput, fun hread => ⟨(hnext hread).1, hkept hresumes hread⟩⟩

namespace Inlet

variable {inlet : Inlet Script}

/-! ### Lines -/

theorem getLast?_of_splitThrough {stop : UInt8} {bytes : Bytes}
    (h : splitThrough stop bytes = none) : bytes.getLast? ≠ some stop := by
  intro hlast
  have hmem := List.mem_of_getLast? hlast
  clear hlast
  induction bytes with
  | nil => cases hmem
  | cons b rest ih =>
    rw [splitThrough] at h
    split at h
    · cases h
    · rename_i hb
      refine ih (Option.map_eq_none_iff.1 h) ?_
      exact (List.mem_cons.1 hmem).resolve_left fun hstop => hb hstop.symm

/-- A block for a line of which some bytes are in hand already. -/
theorem fillThrough_cut {hand : Bytes} (hhand : hand.getLast? ≠ some newline)
    (h : inlet.resumesAfter hand.getLast? = false) :
    (inlet.fillThrough.after hand).Alike (resumes · = false)
      (inlet.cut.fillThrough.after hand) := by
  obtain ⟨held, reader, input⟩ := inlet
  cases held with
  | cons b rest => exact ⟨rfl, rfl, rfl, fun _ => ⟨rfl, resumes_of_resumesAfter h⟩⟩
  | nil =>
    cases reader with
    | standardInput => exact ⟨rfl, rfl, rfl, fun _ => ⟨rfl, rfl⟩⟩
    | script script =>
      have hawake : script.awake.resumesAfter hand.getLast? = false :=
        (Script.resumesAfter_awake _ script).trans h
      obtain ⟨hgot, hfault, hnext⟩ := Script.read_cut blockSize script.awake
      have hreply : (fillThrough ⟨[], .script script, input⟩)
          = ⟨(script.awake.read blockSize).got, (script.awake.read blockSize).fault,
            ⟨(script.awake.read blockSize).got, .script (script.awake.read blockSize).next, input⟩⟩ :=
        rfl
      have hreplyCut : fillThrough (cut ⟨[], .script script, input⟩)
          = ⟨(script.awake.cut.read blockSize).got, (script.awake.cut.read blockSize).fault,
            ⟨(script.awake.cut.read blockSize).got,
              .script (script.awake.cut.read blockSize).next, input⟩⟩ := by
        rw [Script.cut_awake]
        rfl
      rw [hreply, hreplyCut]
      refine ⟨congrArg (hand ++ ·) hgot, hfault, rfl, fun hread => ?_⟩
      suffices hleft : (script.awake.cut.read blockSize).next = (script.awake.read blockSize).next.cut
          ∧ (script.awake.read blockSize).next.resumesAfter
              (script.awake.read blockSize).got.getLast? = false by
        refine ⟨?_, ?_⟩
        · simp only [Reply.after, hgot, hleft.1]
          rfl
        · rw [← hleft.2, ← @Option.or_none _ (script.awake.read blockSize).got.getLast?]
          rfl
      by_cases hsome : (script.awake.read blockSize).got ≠ []
          ∨ (script.awake.read blockSize).fault.isSome
      · refine ⟨hnext hsome, ?_⟩
        rw [Script.resumesAfter_read (by decide) hsome]
        exact Script.resumes_of_resumesAfter hawake
      · -- an end, with the bytes of a line in hand
        obtain ⟨hnil, hnone⟩ := not_or.1 hsome
        have hnil := Decidable.not_not.1 hnil
        rw [hnil] at hread ⊢
        have hhandNil : hand ≠ [] := by simpa [Reply.after] using hread.resolve_right hnone
        have hlast := List.getLast?_eq_some_getLast hhandNil
        rw [hlast] at hhand hawake
        exact Script.read_cut_of_end (fun h => hhand (congrArg some h)) hawake hnil
          (Option.not_isSome_iff_eq_none.1 hnone) (by decide)

/-- **A line is read alike unless the reader resumes**, whatever of it is in hand already. -/
theorem readUntil_cut {hand : Bytes} (hhand : hand.getLast? ≠ some newline)
    (h : inlet.resumesAfter hand.getLast? = false) :
    ((inlet.readUntil newline).after hand).Alike (resumes · = false)
      ((inlet.cut.readUntil newline).after hand) := by
  fun_induction readUntil newline inlet generalizing hand with
  | case1 inlet filled =>
    rename_i hgot
    have hfilled := fillThrough_cut hhand h
    have hgot' : inlet.cut.fillThrough.got = [] := (List.append_cancel_left hfilled.got).trans hgot
    rwa [readUntil_of_end hgot']
  | case2 inlet filled hgot line rest =>
    rename_i hsplit
    have hfilled := fillThrough_cut hhand h
    have hgot' := List.append_cancel_left hfilled.got
    obtain ⟨hnext, hresumes⟩ := hfilled.next (Or.inl (List.append_ne_nil_of_right_ne_nil hand hgot))
    rw [readUntil_of_stop (hgot'.symm ▸ hsplit)]
    refine ⟨rfl, rfl, hfilled.input, fun _ => ⟨?_, ?_⟩⟩
    · exact congrArg (fun inlet => ({ inlet with held := rest } : Inlet Script)) hnext
    · refine resumes_of_suffix ?_ hresumes
      have hheld : inlet.fillThrough.next.held = inlet.fillThrough.got := held_fillBy
      exact ⟨line, (append_of_splitThrough hsplit).trans hheld.symm⟩
  | case3 inlet filled hgot hsplit _ more =>
    rename_i ih
    have hfilled := fillThrough_cut hhand h
    have hgot' := List.append_cancel_left hfilled.got
    obtain ⟨hnext, hresumes⟩ := hfilled.next (Or.inl (List.append_ne_nil_of_right_ne_nil hand hgot))
    have hlast : (hand ++ inlet.fillThrough.got).getLast? = inlet.fillThrough.got.getLast? := by
      rw [List.getLast?_append, List.getLast?_eq_some_getLast hgot, Option.some_or]
    rw [readUntil_of_block (hgot'.symm ▸ hgot) (hgot'.symm ▸ hsplit), Reply.after_after, hgot']
    have hheld : inlet.fillThrough.next.held = inlet.fillThrough.got := held_fillBy
    have hempty : resumesAfter (hand ++ inlet.fillThrough.got).getLast?
        { inlet.fillThrough.next with held := [] } = false := by
      rw [hlast, ← hheld, resumesAfter_held]
      exact hresumes
    have hrest := @ih (hand ++ inlet.fillThrough.got) (hlast ▸ getLast?_of_splitThrough hsplit)
      hempty
    have hnextCut : ({ inlet.cut.fillThrough.next with held := [] } : Inlet Script)
        = cut { inlet.fillThrough.next with held := [] } :=
      congrArg (fun inlet => ({ inlet with held := [] } : Inlet Script)) hnext
    rw [hnextCut, ← Reply.after_after]
    rw [← Reply.after_after, ← Reply.after_after] at hrest
    exact hrest

theorem mirrors_readUntil : Mirrors (resumes · = false) (readUntil newline) :=
  fun _ h => @readUntil_cut _ [] (by decide) h

/-! ### The rest -/

/-- A read to the end gives nothing, and leaves standard input as it is. -/
structure Spent (inlet : Inlet Script) : Prop where
  got : inlet.readRest.got = []
  fault : inlet.readRest.fault = none
  input : inlet.readRest.next.input = inlet.input

theorem spent_of_not_goesOnThrough {script : Script} (h : script.goesOnThrough = false)
    (input : StandardInput) : Spent ⟨[], .script script, input⟩ := by
  suffices hdrain : script.drain.got = [] ∧ script.drain.fault = none from ⟨hdrain.1, hdrain.2, rfl⟩
  rw [← Script.drain_awake]
  rw [Script.goesOnThrough] at h
  generalize script.awake = awoken at h ⊢
  obtain ⟨answers, thereafter⟩ := awoken
  rcases answers with _ | ⟨(_ | ⟨b, content⟩) | error, rest⟩
  · exact ⟨rfl, Option.not_isSome_iff_eq_none.1 (Bool.eq_false_iff.1 h)⟩
  · exact ⟨rfl, rfl⟩
  · cases h
  · cases h

/-- **A source is read to its end alike unless the reader resumes.** -/
theorem readRest_cut (h : inlet.resumes = false) :
    inlet.cut.readRest.got = inlet.readRest.got
      ∧ inlet.cut.readRest.fault = inlet.readRest.fault
      ∧ inlet.cut.readRest.next.input = inlet.readRest.next.input
      ∧ (inlet.readRest.fault.isSome →
          inlet.cut.readRest.next = inlet.readRest.next.cut ∧ inlet.readRest.next.resumes = false)
      ∧ (inlet.readRest.fault = none → inlet.readRest.got ≠ [] →
          inlet.readRest.next.Spent ∧ inlet.cut.readRest.next.Spent) := by
  obtain ⟨held, script | _, input⟩ := inlet
  · obtain ⟨hgot, hfault, hfailed, hspent⟩ := Script.drain_cut h
    refine ⟨congrArg (held ++ ·) hgot, hfault, rfl, fun hsome => ?_, fun hnone hread => ?_⟩
    · obtain ⟨hnext, hresumes⟩ := hfailed hsome
      exact ⟨congrArg (fun script => (⟨[], .script script, input⟩ : Inlet Script)) hnext, hresumes⟩
    · have hinHand : (held.getLast?.or none).isSome ∨ script.drain.got ≠ [] := by
        cases held with
        | nil => exact Or.inr hread
        | cons b rest =>
          rw [List.getLast?_cons]
          exact Or.inl rfl
      obtain ⟨hends, hendsCut⟩ := hspent hnone hinHand
      exact ⟨spent_of_not_goesOnThrough hends input, spent_of_not_goesOnThrough hendsCut input⟩
  · exact ⟨rfl, rfl, rfl, fun hsome => (nomatch hsome),
      fun _ _ => ⟨⟨rfl, rfl, rfl⟩, ⟨rfl, rfl, rfl⟩⟩⟩

end Inlet

end InputChain
