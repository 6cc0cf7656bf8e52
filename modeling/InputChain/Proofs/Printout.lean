import InputChain.CommandLine.Heads
import InputChain.Proofs.Ending.Mirrors
import InputChain.Proofs.Fronts

/-!
# The lines that are printed

Of each source are printed no more of its lines than may be, under a header if there are any. What that comes to
depends on the front of the source alone: how many lines it has, and whether a failure is met before there are
enough of them.

* `Heads.Write`, `Heads.writes`, `heads_eq_writes`: the text that is printed, write by write.
* `Front.excerpt`, `Front.printed`: the lines of one source that are printed, and their writes.
* `Front.printed_of_line`, `Front.printed_of_fault`: one more line of a source.
* `excerpts`, `printout`: the lines of all sources, and their writes.
* `firstLines`, **`text_printout_of_unfailing`**: the text that is printed if nothing fails.
-/

namespace InputChain

/-! ## Lines and pieces -/

section Lines

variable {bytes line rest : Bytes}

/-- A piece that is split off ends in the stop. -/
theorem getLast?_of_splitOff {stop : UInt8} (hsplit : Inlet.splitThrough stop bytes = some (line, rest)) :
    line.getLast? = some stop := by
  fun_induction Inlet.splitThrough stop bytes generalizing line with
  | case1 => cases hsplit
  | case2 =>
    cases hsplit
    rfl
  | case3 b bytes hb ih =>
    obtain ⟨⟨line', rest'⟩, hfound, hpair⟩ := Option.map_eq_some_iff.1 hsplit
    cases hpair
    rw [List.getLast?_cons_of_ne_nil (Inlet.ne_nil_of_splitThrough hfound)]
    exact ih hfound

/-- The first line ends in the first line end. -/
theorem linesOf_of_splitThrough (hsplit : Inlet.splitThrough newline bytes = some (line, rest)) :
    linesOf bytes = line :: linesOf rest := by
  have hbytes : bytes ≠ [] := by
    rintro rfl
    cases hsplit
  rw [linesOf_eq_piecesBehind, piecesBehind_cut hbytes, cutThrough, hsplit, linesOf_eq_piecesBehind]
  rfl

/-- Bytes without a line end are one line. -/
theorem linesOf_of_none (hsplit : Inlet.splitThrough newline bytes = none) (hbytes : bytes ≠ []) :
    linesOf bytes = [bytes] := by
  rw [linesOf_eq_piecesBehind, piecesBehind_cut hbytes, cutThrough, hsplit]
  rfl

end Lines

/-! ## What is written -/

namespace Heads

/-- What the command writes at once. -/
inductive Write where
  | header (id : String)
  | line (bytes : Bytes)
  deriving DecidableEq, Repr

/-- The bytes of a write. -/
def Write.text : Write → Bytes
  | .header id => InputChain.header id
  | .line bytes => bytes

/-- What is written above a line before this cursor: the header of its source, if the line is its first. -/
def lineAbove (current : Option Nat) (after : Cursor Script) : List Write :=
  if after.sourceIndex? != current then (after.currentId?.map Write.header).toList else []

/-- What is written for what is left in a stream, and the failure that ends it: the text that is printed, write by
write. -/
def writes (limit : Nat) (current : Option Nat) (printed : Nat) (cursor : Cursor Script) :
    List Write × Option SourceError :=
  match h : cursor.readLineBytes with
  | (.error error, _) => ([], some error)
  | (.ok none, _) => ([], none)
  | (.ok (some line), after) =>
    let count := countPrinted (after.sourceIndex? != current) printed
    have : (after.skipAt limit count).supply < cursor.supply :=
      Nat.lt_of_le_of_lt (after.supply_skipAt limit count) (Cursor.supply_readLineBytes h)
    let (rest, fault) := writes limit after.sourceIndex? count (after.skipAt limit count)
    (lineAbove current after ++ .line line :: rest, fault)
  termination_by cursor.supply

end Heads

open Heads (Write)

/-- The text of some writes, and the failure behind it. -/
def Heads.textOf (written : List Write × Option SourceError) : Bytes × Option SourceError :=
  (written.1.flatMap Write.text, written.2)

theorem text_lineAbove (current : Option Nat) (after : Cursor Script) :
    (Heads.lineAbove current after).flatMap Write.text
      = if after.sourceIndex? != current then (after.currentId?.map header).getD [] else [] := by
  rw [Heads.lineAbove]
  split
  · cases after.currentId? with
    | none => rfl
    | some id => exact List.append_nil _
  · rfl

/-- **The loop prints what it writes.** -/
theorem heads_eq_writes (limit : Nat) (current : Option Nat) (printed : Nat) (cursor : Cursor Script) :
    heads limit current printed cursor = Heads.textOf (Heads.writes limit current printed cursor) := by
  fun_induction Heads.writes limit current printed cursor with
  | case1 current printed cursor error after hread =>
    rw [heads]
    split <;> (rename_i hread'; cases hread.symm.trans hread')
    rfl
  | case2 current printed cursor after hread =>
    rw [heads]
    split <;> (rename_i hread'; cases hread.symm.trans hread')
    rfl
  | case3 current printed cursor line after hread count _ rest fault hrest ih =>
    rw [heads]
    split <;> (rename_i hread'; cases hread.symm.trans hread')
    rw [hrest] at ih
    have hlater : heads limit after.sourceIndex? (countPrinted (after.sourceIndex? != current) printed)
        (after.skipAt limit (countPrinted (after.sourceIndex? != current) printed))
          = Heads.textOf (rest, fault) := ih
    simp only [hlater, Heads.textOf, List.flatMap_append, List.flatMap_cons, text_lineAbove, List.append_assoc]
    rfl

/-! ## What is written of one source -/

/-- Lines with this above the first. -/
def underneath (above : List Write) : List Bytes → List Write
  | [] => []
  | lines => above ++ lines.map .line

theorem underneath_cons (above : List Write) (line : Bytes) (lines : List Bytes) :
    underneath above (line :: lines) = above ++ .line line :: lines.map .line := by
  rw [underneath, List.map_cons]
  exact List.cons_ne_nil line lines

theorem underneath_nothing (lines : List Bytes) : underneath [] lines = lines.map .line := by
  cases lines <;> rfl

namespace Front

/-- The lines that are printed of a front, if no more than so many may be, and the failure if it is met in front of
that. A line that the failure cuts off is not printed. -/
def excerpt (limit : Nat) (front : Front) : List Bytes × Option SourceError :=
  match front.fault with
  | none => ((linesOf front.bytes).take limit, none)
  | some error =>
    let whole := (linesOf front.bytes).filter fun line => line.getLast? = some newline
    if limit ≤ whole.length then (whole.take limit, none) else (whole, some error)

/-- What is written of a front with this above its first line, and then this; if the failure is met, nothing comes
behind it. -/
def printed (limit : Nat) (above : List Write) (front : Front) (later : List Write × Option SourceError) :
    List Write × Option SourceError :=
  match front.excerpt limit with
  | (lines, some error) => (underneath above lines, some error)
  | (lines, none) => (underneath above lines ++ later.1, later.2)

variable {limit : Nat} {above : List Write} {line : Bytes} {front next : Front} {error : SourceError}
  {later : List Write × Option SourceError}

theorem excerpt_zero (front : Front) : front.excerpt 0 = ([], none) := by
  obtain ⟨bytes, _ | error⟩ := front
  · exact congrArg (·, none) List.take_zero
  · rw [excerpt]
    simp only [Nat.zero_le, if_true, List.take_zero]

/-- A line is printed if one more may be. -/
theorem excerpt_of_line (h : front.Yields line none next) (hline : line ≠ []) :
    front.excerpt (limit + 1) = (line :: (next.excerpt limit).1, (next.excerpt limit).2) := by
  cases h with
  | @whole bytes line rest fault hsplit =>
    cases fault with
    | none =>
      rw [excerpt, excerpt, linesOf_of_splitThrough hsplit]
      rfl
    | some error =>
      rw [excerpt, excerpt]
      simp only [linesOf_of_splitThrough hsplit, List.filter_cons, getLast?_of_splitOff hsplit, decide_true,
        if_true, List.length_cons, Nat.add_le_add_iff_right, List.take_succ_cons]
      split <;> rfl
  | last hsplit =>
    rw [excerpt, linesOf_of_none hsplit hline]
    cases limit <;> rfl

/-- A line that a failure cuts off is not. -/
theorem excerpt_of_fault (h : front.Yields line (some error) next) :
    front.excerpt (limit + 1) = ([], some error) := by
  cases h with
  | cut hsplit =>
    have hwhole : ((linesOf line).filter fun line => line.getLast? = some newline) = [] := by
      by_cases hline : line = []
      · subst hline
        rfl
      · rw [linesOf_of_none hsplit hline]
        simp [Inlet.getLast?_of_splitThrough hsplit]
    rw [excerpt]
    simp only [hwhole, List.length_nil]
    exact if_neg (Nat.not_succ_le_zero limit)

theorem printed_zero (above : List Write) (front : Front) (later : List Write × Option SourceError) :
    front.printed 0 above later = later := by
  rw [printed, excerpt_zero]
  rfl

theorem printed_nothing (limit : Nat) (above : List Write) (later : List Write × Option SourceError) :
    Front.nothing.printed limit above later = later := by
  have hnone : Front.nothing.excerpt limit = ([], none) := congrArg (·, none) List.take_nil
  rw [printed, hnone]
  rfl

theorem printed_of_line (h : front.Yields line none next) (hline : line ≠ []) :
    front.printed (limit + 1) above later
      = (above ++ .line line :: (next.printed limit [] later).1, (next.printed limit [] later).2) := by
  rw [printed, printed, excerpt_of_line h hline]
  generalize next.excerpt limit = excerpt
  obtain ⟨lines, _ | error⟩ := excerpt
  · simp only [underneath_cons, underneath_nothing, List.append_assoc, List.cons_append]
  · simp only [underneath_cons, underneath_nothing]

theorem printed_of_fault (h : front.Yields line (some error) next) :
    front.printed (limit + 1) above later = ([], some error) := by
  rw [printed, excerpt_of_fault h]
  rfl

end Front

/-! ## What is written of all sources -/

/-- The lines that are printed of each source, up to the first failure that is met. -/
def excerpts (limit : Nat) : List (String × Front) → List (String × List Bytes) × Option SourceError
  | [] => ([], none)
  | (id, front) :: later =>
    match front.excerpt limit with
    | (lines, some error) => ([(id, lines)], some error)
    | (lines, none) => ((id, lines) :: (excerpts limit later).1, (excerpts limit later).2)

/-- The lines of each source that has any, under its header. -/
def printout (limit : Nat) (fronts : List (String × Front)) : List Write × Option SourceError :=
  ((excerpts limit fronts).1.flatMap fun (id, lines) => underneath [.header id] lines, (excerpts limit fronts).2)

theorem printout_cons (limit : Nat) (id : String) (front : Front) (later : List (String × Front)) :
    printout limit ((id, front) :: later) = front.printed limit [.header id] (printout limit later) := by
  rw [printout, excerpts, Front.printed]
  generalize front.excerpt limit = excerpt
  obtain ⟨lines, _ | error⟩ := excerpt
  · rfl
  · simp

/-! ## Sources that do not fail -/

/-- Of sources that do not fail: of each that has any bytes, its first lines under its header. -/
def firstLines (limit : Nat) (fronts : List (String × Front)) : Bytes :=
  fronts.flatMap fun (id, front) =>
    if front.bytes = [] then [] else header id ++ ((linesOf front.bytes).take limit).flatten

theorem text_underneath (id : String) (lines : List Bytes) :
    (underneath [.header id] lines).flatMap Write.text = if lines = [] then [] else header id ++ lines.flatten := by
  cases lines with
  | nil => rfl
  | cons line lines =>
    have hlines : ((line :: lines).map Write.line).flatMap Write.text = (line :: lines).flatten := by
      rw [List.flatMap_map]
      exact List.flatMap_id'
    rw [if_neg (List.cons_ne_nil line lines), underneath_cons, ← List.map_cons, List.flatMap_append, hlines]
    exact congrArg (· ++ _) (List.append_nil _)

theorem text_printout_of_unfailing {limit : Nat} (hlimit : limit ≠ 0) {fronts : List (String × Front)}
    (hunfailing : ∀ entry ∈ fronts, entry.2.fault = none) :
    Heads.textOf (printout limit fronts) = (firstLines limit fronts, none) := by
  induction fronts with
  | nil => rfl
  | cons first later ih =>
    obtain ⟨id, bytes, fault⟩ := first
    obtain ⟨hfault, hlater⟩ := List.forall_mem_cons.1 hunfailing
    obtain rfl : fault = none := hfault
    have hlines : (linesOf bytes).take limit = [] ↔ bytes = [] := by
      rw [List.take_eq_nil_iff, linesOf_eq_nil_iff]
      exact or_iff_right hlimit
    have hprinted : printout limit ((id, ⟨bytes, none⟩) :: later)
        = (underneath [.header id] ((linesOf bytes).take limit) ++ (printout limit later).1,
          (printout limit later).2) := printout_cons limit id ⟨bytes, none⟩ later
    have hrest := ih hlater
    rw [Heads.textOf, Prod.mk.injEq] at hrest
    simp only [hprinted, Heads.textOf, List.flatMap_append, text_underneath, hlines, hrest.1, hrest.2]
    rfl

end InputChain
