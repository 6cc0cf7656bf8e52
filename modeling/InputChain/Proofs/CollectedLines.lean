import InputChain.Proofs.Operations
import InputChain.Proofs.Units
import Mathlib.Data.List.Basic

/-!
# Lines collected

All lines are read one by one until there is none or one fails. A failure is answered in place of the
lines collected in front of it: these are taken from the stream and counted, but no answer hands them
over. Where no failure stands behind a line, nothing is lost.

* `Stretch`: lines and what stands behind them, with the answers they make.
* `Cursor.Collects`, `Cursor.collects_readLines`: what one call comes upon.
* `Cursor.Collects.run`, `Cursor.Collects.lineno`: the same line by line, and what is counted.
* `Cursor.CollectsAll`, `Cursor.collectsAll_run`: several calls.
* **`collected_lines_handed_iff`**: when the calls hand over what single reads would.
* `readLines_loses_collected`: a run in which they do not.
-/

namespace InputChain

/-! ## One operation again and again -/

namespace Run

variable {ω κ ρ : Type} {step : ω → κ → ρ × κ} {operation : ω}

/-- One operation, asked as often as there are answers here, gives these answers and leads from one state
to the other. -/
structure Repeats (step : ω → κ → ρ × κ) (operation : ω) (state : κ) (answers : List ρ) (after : κ) :
    Prop where
  answered : (trace step (List.replicate answers.length operation) state).map Prod.fst = answers
  reached : last step (List.replicate answers.length operation) state = after

namespace Repeats

theorem nil (state : κ) : Repeats step operation state [] state :=
  ⟨rfl, rfl⟩

theorem cons {state between after : κ} {answer : ρ} {answers : List ρ}
    (h : step operation state = (answer, between))
    (hrest : Repeats step operation between answers after) :
    Repeats step operation state (answer :: answers) after := by
  have hbetween : (step operation state).2 = between := congrArg Prod.snd h
  constructor
  · rw [List.length_cons, List.replicate_succ, trace, List.map_cons, hbetween, hrest.answered, h]
  · rw [List.length_cons, List.replicate_succ]
    exact (congrArg (last step _) hbetween).trans hrest.reached

theorem append {state between after : κ} {front back : List ρ}
    (h : Repeats step operation state front between)
    (hrest : Repeats step operation between back after) :
    Repeats step operation state (front ++ back) after := by
  induction front generalizing state with
  | nil =>
    obtain rfl : state = between := h.reached
    exact hrest
  | cons answer front ih =>
    obtain ⟨hanswer, hanswers⟩ := List.cons.inj h.answered
    exact cons (Prod.ext hanswer rfl) (ih ⟨hanswers, h.reached⟩)

end Repeats

end Run

/-! ## Lines and what stands behind them -/

/-- The lines that an answer hands over. -/
def linesOfAnswer : Except Failure Response → List String
  | .ok (.line found) => found.toList
  | .ok (.lines texts) => texts
  | .ok (.item (some (.ok text))) => [text]
  | _ => []

/-- The lines that the answers of a run hand over. -/
def linesHanded {κ : Type} (trace : List (Except Failure Response × κ)) : List String :=
  trace.flatMap fun step => linesOfAnswer step.1

/-- Lines that are read one after another, and what stands behind them: a failure or, without one, the
end of the stream. -/
structure Stretch where
  texts : List String
  failure : Option SourceError

namespace Stretch

/-- The answers of as many reads of a single line. -/
def singly (stretch : Stretch) : List (Except Failure Response) :=
  stretch.texts.map (fun text => .ok (.line (some text)))
    ++ [match stretch.failure with
      | none => .ok (.line none)
      | some error => .error (.source error)]

/-- The answer of one read of all lines. -/
def together (stretch : Stretch) : Except Failure Response :=
  match stretch.failure with
  | none => .ok (.lines stretch.texts)
  | some error => .error (.source error)

/-- A failure stands behind some lines. -/
def Loses (stretch : Stretch) : Prop :=
  stretch.failure.isSome ∧ stretch.texts ≠ []

variable (stretch : Stretch)

/-- Read singly, every line is handed over. -/
theorem lines_singly : stretch.singly.flatMap linesOfAnswer = stretch.texts := by
  obtain ⟨texts, failure⟩ := stretch
  have hstop : linesOfAnswer (match failure with
      | none => .ok (.line none)
      | some error => .error (.source error)) = [] := by
    cases failure <;> rfl
  simp only [singly, List.flatMap_append, List.flatMap_singleton, hstop, List.append_nil]
  induction texts with
  | nil => rfl
  | cons text rest ih => exact congrArg (text :: ·) ih

/-- What is handed over if they are read together: nothing if a failure stands behind them. -/
def handed : List String :=
  if stretch.failure.isSome then [] else stretch.texts

theorem lines_together : linesOfAnswer stretch.together = stretch.handed := by
  obtain ⟨texts, failure⟩ := stretch
  cases failure <;> rfl

theorem handed_sublist (stretches : List Stretch) :
    (stretches.flatMap handed).Sublist (stretches.flatMap texts) := by
  induction stretches with
  | nil => exact .refl _
  | cons first rest ih =>
    rw [List.flatMap_cons, List.flatMap_cons]
    refine .append ?_ ih
    unfold handed
    split
    · exact List.nil_sublist _
    · exact .refl _

/-- **All lines of some stretches are handed over just when none of them loses lines.** -/
theorem handed_eq_iff (stretches : List Stretch) :
    stretches.flatMap handed = stretches.flatMap texts ↔ ∀ stretch ∈ stretches, ¬stretch.Loses := by
  induction stretches with
  | nil => simp
  | cons first rest ih =>
    rw [List.flatMap_cons, List.flatMap_cons, List.forall_mem_cons]
    by_cases hfailure : first.failure.isSome
    · rw [handed, if_pos hfailure, List.nil_append]
      constructor
      · intro heq
        -- nothing of the first is handed over, so its lines would have to be those of the others
        have hnil : first.texts = [] := by
          have hlength := congrArg List.length heq
          have hrest := (handed_sublist rest).length_le
          rw [List.length_append] at hlength
          exact List.length_eq_zero_iff.1 (by omega)
        rw [hnil, List.nil_append] at heq
        exact ⟨fun hloses => hloses.2 hnil, ih.1 heq⟩
      · rintro ⟨hkeeps, hrest⟩
        have hnil : first.texts = [] := Decidable.byContradiction fun hsome => hkeeps ⟨hfailure, hsome⟩
        rw [hnil, List.nil_append, ih.2 hrest]
    · rw [handed, if_neg hfailure, List.append_cancel_left_eq, ih]
      exact ⟨fun hrest => ⟨fun hloses => hfailure hloses.1, hrest⟩, And.right⟩

end Stretch

/-! ## One call -/

namespace Cursor

/-- Reading line after line, the cursor comes upon this stretch and stands there. -/
inductive Collects : Cursor Script → Stretch → Cursor Script → Prop where
  | ends {cursor next : Cursor Script} (h : cursor.readLine = (.ok none, next)) :
      Collects cursor ⟨[], none⟩ next
  | fails {cursor next : Cursor Script} {error : SourceError} (h : cursor.readLine = (.error error, next)) :
      Collects cursor ⟨[], some error⟩ next
  | line {cursor between next : Cursor Script} {text : String} {texts : List String}
      {failure : Option SourceError} (h : cursor.readLine = (.ok (some text), between))
      (hrest : Collects between ⟨texts, failure⟩ next) : Collects cursor ⟨text :: texts, failure⟩ next

/-- **One call reads line after line, and answers with all of them or with the failure behind them.** -/
theorem collects_readLines (cursor : Cursor Script) :
    ∃ stretch : Stretch, (cursor.serve .readLines).1 = stretch.together
      ∧ Collects cursor stretch (cursor.serve .readLines).2 := by
  rw [serve]
  fun_induction readLines cursor with
  | case1 cursor error next hread => exact ⟨⟨[], some error⟩, rfl, .fails hread⟩
  | case2 cursor next hread => exact ⟨⟨[], none⟩, rfl, .ends hread⟩
  | case3 cursor text next hread _ rest last hrest ih =>
    rw [hrest] at ih
    obtain ⟨⟨texts, failure⟩, hanswer, hcollects⟩ := ih
    refine ⟨⟨text :: texts, failure⟩, ?_, .line hread hcollects⟩
    cases rest <;> cases failure <;> cases hanswer <;> rfl

theorem serve_readLine {cursor next : Cursor Script} {answer : Except SourceError (Option String)}
    (h : cursor.readLine = (answer, next)) :
    cursor.serve (.common .readLine) = ((answer.map .line).mapError .source, next) := by
  rw [serve, perform, h]
  rfl

/-- A line is counted if it is given as text. -/
theorem lineno_readLine (cursor : Cursor Script) :
    cursor.readLine.2.lineno = cursor.lineno
      + match cursor.readLine.1 with
        | .ok (some _) => 1
        | _ => 0 := by
  have hunit := lineno_readUnit (Inlet.readUntil newline) cursor
  rw [readLine_eq_decoding]
  unfold Delivery.orFault
  generalize cursor.readUnit (Inlet.readUntil newline) = delivery at hunit ⊢
  obtain ⟨_ | ⟨b, line⟩, _ | error, next⟩ := delivery
  · exact hunit
  · exact hunit
  · simp only [List.isEmpty_cons, Bool.false_eq_true, if_false]
    cases Utf8.decode (b :: line) with
    | ok text => exact congrArg (· + 1) hunit
    | error fault => exact hunit
  · exact hunit

namespace Collects

variable {cursor next : Cursor Script} {stretch : Stretch} (h : Collects cursor stretch next)

include h

/-- As many reads of a single line answer the same lines, and come to the same. -/
theorem singly : Run.Repeats serve (.common .readLine) cursor stretch.singly next := by
  induction h with
  | ends h => exact .cons (serve_readLine h) (.nil _)
  | fails h => exact .cons (serve_readLine h) (.nil _)
  | line h hrest ih => exact .cons (serve_readLine h) ih

/-- Every line is counted, also one that is handed over to nobody. -/
theorem lineno : next.lineno = cursor.lineno + stretch.texts.length := by
  induction h with
  | @ends cursor next h | @fails cursor next error h =>
    have hcount := lineno_readLine cursor
    rwa [h] at hcount
  | @line cursor between next text texts failure h hrest ih =>
    have hcount := lineno_readLine cursor
    rw [h] at hcount
    simp only [List.length_cons] at hcount ih ⊢
    omega

end Collects

/-! ## Several calls -/

/-- Calls, one after another, come upon these stretches. -/
inductive CollectsAll : Cursor Script → List Stretch → Cursor Script → Prop where
  | nil (cursor : Cursor Script) : CollectsAll cursor [] cursor
  | cons {cursor between next : Cursor Script} {stretch : Stretch} {rest : List Stretch}
      (h : Collects cursor stretch between) (hrest : CollectsAll between rest next) :
      CollectsAll cursor (stretch :: rest) next

namespace CollectsAll

variable {cursor next : Cursor Script} {stretches : List Stretch} (h : CollectsAll cursor stretches next)

include h

theorem singly :
    Run.Repeats serve (.common .readLine) cursor (stretches.flatMap Stretch.singly) next := by
  induction h with
  | nil => exact .nil _
  | cons h hrest ih => exact h.singly.append ih

theorem lineno : next.lineno = cursor.lineno + (stretches.flatMap Stretch.texts).length := by
  induction h with
  | nil => rfl
  | cons h hrest ih =>
    have hfirst := h.lineno
    simp only [List.flatMap_cons, List.length_append]
    omega

end CollectsAll

/-- **Calls come upon one stretch each.** -/
theorem collectsAll_run (calls : Nat) (cursor : Cursor Script) :
    ∃ stretches next, stretches.length = calls ∧ CollectsAll cursor stretches next
      ∧ Run.Repeats serve .readLines cursor (stretches.map Stretch.together) next := by
  induction calls generalizing cursor with
  | zero => exact ⟨[], cursor, rfl, .nil cursor, .nil cursor⟩
  | succ calls ih =>
    obtain ⟨stretch, hanswer, hcollects⟩ := collects_readLines cursor
    obtain ⟨stretches, next, hlength, hall, hrun⟩ := ih (cursor.serve .readLines).2
    refine ⟨stretch :: stretches, next, congrArg (· + 1) hlength, .cons hcollects hall, ?_⟩
    rw [List.map_cons]
    exact .cons (Prod.ext hanswer rfl) hrun

end Cursor

theorem linesHanded_eq {κ : Type} {trace : List (Except Failure Response × κ)}
    {answers : List (Except Failure Response)} (h : trace.map Prod.fst = answers) :
    linesHanded trace = answers.flatMap linesOfAnswer := by
  rw [← h, List.flatMap_map]
  rfl

/-- **Reading all lines hands over what reading line by line does, unless a failure stands behind a line.**
After every run and for every number of calls: each call comes upon some lines and what stands behind
them. Reading line by line from the same state gives the same lines and failures and comes to the same
state, where all of these lines are counted. The calls hand over just those lines with no failure behind
them in the same call; so all of them are handed over, and counted lines are lines handed over, if and
only if no failure stands behind a line. -/
theorem collected_lines_handed_iff (world : World) (list : SourceList Script)
    (past : List BlockingOperation) (calls : Nat) :
    let cursor := Run.last Cursor.serve past (Cursor.ofList world list)
    let together := Run.trace Cursor.serve (List.replicate calls .readLines) cursor
    let after := Run.last Cursor.serve (List.replicate calls .readLines) cursor
    ∃ stretches : List Stretch,
      let lines := List.replicate (stretches.flatMap Stretch.singly).length (.common .readLine)
      let singly := Run.trace Cursor.serve lines cursor
      together.map Prod.fst = stretches.map Stretch.together
      ∧ singly.map Prod.fst = stretches.flatMap Stretch.singly
      ∧ Run.last Cursor.serve lines cursor = after
      ∧ linesHanded together = stretches.flatMap Stretch.handed
      ∧ linesHanded singly = stretches.flatMap Stretch.texts
      ∧ after.lineno = cursor.lineno + (linesHanded singly).length
      ∧ (linesHanded together = linesHanded singly ↔ ∀ stretch ∈ stretches, ¬stretch.Loses)
      ∧ (after.lineno = cursor.lineno + (linesHanded together).length
          ↔ ∀ stretch ∈ stretches, ¬stretch.Loses) := by
  intro cursor together after
  obtain ⟨stretches, next, hlength, hall, hrun⟩ := Cursor.collectsAll_run calls cursor
  obtain ⟨hanswered, hreached⟩ := hrun
  rw [List.length_map, hlength] at hanswered hreached
  have hafter : after = next := hreached
  have hsingly := hall.singly
  have hlineno := hall.lineno
  rw [← hafter] at hsingly hlineno
  have htogether : linesHanded together = stretches.flatMap Stretch.handed := by
    rw [linesHanded_eq hanswered, List.flatMap_map]
    simp only [Stretch.lines_together]
  have hlines := linesHanded_eq hsingly.answered
  simp only [List.flatMap_assoc, Stretch.lines_singly] at hlines
  refine ⟨stretches, hanswered, hsingly.answered, hsingly.reached, htogether, hlines, ?_, ?_, ?_⟩
  · rw [hlines, hlineno]
  · rw [htogether, hlines]
    apply Stretch.handed_eq_iff
  · rw [htogether, hlineno, Nat.add_left_cancel_iff, eq_comm,
      (Stretch.handed_sublist stretches).length_eq]
    apply Stretch.handed_eq_iff

/-- A line with a source behind it that does not open: reading all lines answers with the failure and then
with no line at all, though one has been counted. Reading line by line gives the line. -/
theorem readLines_loses_collected :
    let cursor := Cursor.ofSources {} [⟨"a", .memory "a" [120, 10]⟩,
      ⟨"b", .scripted "b" (.error (.bare .notFound))⟩]
    let missing := SourceError.ofOpening "b" (.bare .notFound)
    cursor.readLines.1 = .error missing
      ∧ cursor.readLines.2.pending = none
      ∧ cursor.readLines.2.readLines.1 = .ok []
      ∧ cursor.readLines.2.readLines.2.lineno = 1
      ∧ cursor.readLine.1 = .ok (some "x\n")
      ∧ cursor.readLine.2.readLine.1 = .error missing := by
  intro cursor missing
  refine ⟨?_, ?_, ?_, ?_, ?_, ?_⟩ <;> decide +kernel

end InputChain
