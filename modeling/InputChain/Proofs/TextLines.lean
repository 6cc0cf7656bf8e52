import InputChain.Proofs.Accord
import InputChain.Proofs.AsyncAgreement
import InputChain.Proofs.AsyncOrigin
import InputChain.Proofs.Attribution
import InputChain.Proofs.StreamEnd

/-!
# Lines as text and lines as bytes

A line is read as text by reading its bytes and decoding them. The cursor that waits decodes while it
looks for the line, the other one afterwards; either takes a line that is not UTF-8 once, reports it as a
failure of the source that gave it and does not count it.

* `Cursor.crossing_setLineno`, `Cursor.accord_sameButCount`: the number of lines has no part in what is
  answered.
* `Cursor.decoded`, `Cursor.readLine_eq_decoded`, `AsyncCursor.readLine_eq_decoded`: a text line is the
  decoding of a byte line, by `Cursor.readLine_eq_decoding` also where the unit decodes.
* `DecodesLine`: what that comes to for a caller.
* **`text_line_is_decoded_line`**: from every state that either cursor can reach.
-/

namespace InputChain

/-! ## The number of lines -/

namespace Cursor

section Count

variable {unit : Inlet Script → Reply (Inlet Script)}

/-- A unit is found as it is with another number of lines. -/
theorem crossing_setLineno (lineno : Nat) (cursor : Cursor Script) :
    (cursor.setLineno lineno).crossing unit
      = { cursor.crossing unit with next := (cursor.crossing unit).next.setLineno lineno } := by
  fun_induction crossing unit cursor with
  | case1 cursor hphase =>
    have hphase' : (cursor.setLineno lineno).phase = .exhausted := hphase
    rw [crossing_of_exhausted hphase']
    rfl
  | case2 cursor id held reader hphase reply cursor' error hfault =>
    have hphase' : (cursor.setLineno lineno).phase = .active id held reader := hphase
    rw [crossing_of_fault hphase' rfl hfault]
    rfl
  | case3 cursor id held reader hphase reply cursor' hfault hgot _ ih =>
    have hphase' : (cursor.setLineno lineno).phase = .active id held reader := hphase
    rw [crossing_of_end hphase' rfl hfault (List.isEmpty_iff.1 hgot)]
    exact ih
  | case4 cursor id held reader hphase reply cursor' hfault hgot =>
    have hphase' : (cursor.setLineno lineno).phase = .active id held reader := hphase
    have hsome : reply.got ≠ [] := fun hnil => hgot (List.isEmpty_iff.2 hnil)
    rw [crossing_of_got hphase' rfl hfault hsome]
    rfl
  | case5 cursor hphase hnext =>
    have hphase' : (cursor.setLineno lineno).phase = .idle := hphase
    rw [crossing_of_no_source hphase' hnext]
    rfl
  | case6 cursor hphase source rest hnext error hopen =>
    have hphase' : (cursor.setLineno lineno).phase = .idle := hphase
    rw [crossing_of_refused hphase' hnext hopen]
    rfl
  | case7 cursor hphase source rest hnext reader hopen _ ih =>
    have hphase' : (cursor.setLineno lineno).phase = .idle := hphase
    rw [crossing_of_opened hphase' hnext hopen]
    exact ih

theorem readUnit_setLineno (lineno : Nat) (cursor : Cursor Script) :
    (cursor.setLineno lineno).readUnit unit
      = { cursor.readUnit unit with next := (cursor.readUnit unit).next.setLineno lineno } := by
  cases hpending : cursor.pending with
  | some error =>
    have hpending' : (cursor.setLineno lineno).pending = some error := hpending
    rw [readUnit_of_pending hpending, readUnit_of_pending hpending']
    rfl
  | none =>
    have hpending' : (cursor.setLineno lineno).pending = none := hpending
    rw [readUnit_of_none hpending, readUnit_of_none hpending']
    apply crossing_setLineno

end Count

/-- The two cursors are the same but for the number of lines. -/
def SameButCount (left right : Cursor Script) : Prop :=
  ∃ lineno, left = right.setLineno lineno

theorem findsAlike_sameButCount (unit : Inlet Script → Reply (Inlet Script)) :
    FindsAlike SameButCount unit := by
  rintro _ right ⟨lineno, rfl⟩
  rw [readUnit_setLineno]
  exact ⟨rfl, rfl, lineno, rfl⟩

theorem accord_sameButCount : Accord SameButCount where
  currentId? := by
    rintro _ right ⟨lineno, rfl⟩
    rfl
  setLineno := by
    rintro _ right lineno ⟨-, rfl⟩
    exact ⟨lineno, rfl⟩
  countLine := by
    rintro _ right ⟨lineno, rfl⟩
    exact ⟨lineno + 1, rfl⟩
  hold := by
    rintro _ right pending ⟨lineno, rfl⟩
    exact ⟨lineno, rfl⟩
  skip := by
    rintro _ right ⟨lineno, rfl⟩
    refine ⟨lineno, ?_⟩
    unfold skip
    cases hphase : right.phase <;> simp [setLineno, close, hphase]
  byte := findsAlike_sameButCount _
  line := findsAlike_sameButCount _
  rest := findsAlike_sameButCount _

theorem blockAccord_sameButCount : BlockAccord SameButCount where
  read _ _ := findsAlike_sameButCount _
  fill := findsAlike_sameButCount _
  consume := by
    rintro _ right count ⟨lineno, rfl⟩
    refine ⟨lineno, ?_⟩
    unfold Seamless.consume
    cases hphase : right.phase <;> simp [setLineno, hphase]

/-- A step that answers alike whatever the number of lines does so in every run. -/
theorem answers_of_sameButCount {ω ρ : Type} {step : ω → Cursor Script → ρ × Cursor Script}
    (hstep : ∀ operation {left right}, SameButCount left right →
      Agrees SameButCount (step operation left) (step operation right)) (later : List ω)
    {left right : Cursor Script} (h : SameButCount left right) :
    (Run.trace step later left).map Prod.fst = (Run.trace step later right).map Prod.fst := by
  induction later generalizing left right with
  | nil => rfl
  | cons operation rest ih =>
    have hfirst := hstep operation h
    exact congrArg₂ List.cons hfirst.answer (ih hfirst.next)

/-- **Whatever is asked later is answered the same with another number of lines.** -/
theorem answers_setLineno (lineno : Nat) (later : List BlockingOperation) (cursor : Cursor Script) :
    (Run.trace serve later (cursor.setLineno lineno)).map Prod.fst
      = (Run.trace serve later cursor).map Prod.fst := by
  apply answers_of_sameButCount
  · intro operation left right h
    exact accord_sameButCount.serve operation (fun _ => blockAccord_sameButCount) h
  · exact ⟨lineno, rfl⟩

/-! ## A text line is the decoding of a byte line -/

/-- What a line is as text, by what its bytes are. A line that is not UTF-8 is a failure of the source
that is open, with the number of lines as it was. -/
def decoded {σ : Type} (lineno : Nat) :
    Except SourceError (Option Bytes) × Cursor σ → Except SourceError (Option String) × Cursor σ
  | (.error error, next) => (.error error, next)
  | (.ok none, next) => (.ok none, next)
  | (.ok (some line), next) =>
    match Utf8.decode line with
    | .ok text => (.ok (some text), next)
    | .error fault =>
      (.error (.ofReading (next.currentId?.getD "") (.malformed fault)), next.setLineno lineno)

theorem readLine_eq_decoded (cursor : Cursor Script) :
    cursor.readLine = decoded cursor.lineno cursor.readLineBytes := by
  have hcount := lineno_readUnit (Inlet.readUntil newline) cursor
  cases hfault : (cursor.readUnit (Inlet.readUntil newline)).fault with
  | some error => rw [readLine_of_fault hfault, readLineBytes_of_fault hfault, decoded]
  | none =>
    by_cases hgot : (cursor.readUnit (Inlet.readUntil newline)).got = []
    · rw [readLine_of_nil hfault hgot, readLineBytes_of_nil hfault hgot, decoded]
    · rw [readLineBytes_of_line hfault hgot, decoded]
      cases hdecode : Utf8.decode (cursor.readUnit (Inlet.readUntil newline)).got with
      | ok text => rw [readLine_of_text hfault hgot hdecode]
      | error fault =>
        rw [readLine_of_malformed hfault hgot hdecode, ← hcount]
        rfl

end Cursor

namespace AsyncCursor

open Cursor

theorem readLine_eq_decoded (cursor : AsyncCursor) :
    cursor.readLine = decoded cursor.lineno cursor.readLineBytes := by
  have hcount := lineno_nextLine cursor
  unfold readLine readLineBytes
  generalize cursor.nextLine = step at hcount ⊢
  obtain ⟨_ | _ | line, next⟩ := step
  · rfl
  · rfl
  · simp only [decoded]
    cases Utf8.decode line with
    | ok text => rfl
    | error fault =>
      rw [← hcount]
      rfl

/-- **Whatever is asked later is answered the same with another number of lines.** -/
theorem answers_setLineno (lineno : Nat) (later : List Operation) (cursor : AsyncCursor) :
    (Run.trace perform later (cursor.setLineno lineno)).map Prod.fst
      = (Run.trace perform later cursor).map Prod.fst := by
  have hsettled : ∀ given : AsyncCursor, (Run.trace perform later given).map Prod.fst
      = (Run.trace Cursor.perform later given.settled).map Prod.fst := by
    intro given
    rw [← trace_settled, List.map_map]
    rfl
  rw [hsettled, hsettled]
  apply answers_of_sameButCount
  · intro operation left right h
    exact accord_sameButCount.perform h operation
  · exact ⟨lineno, rfl⟩

end AsyncCursor

/-! ## What a caller sees -/

/-- Where the bytes of a line cannot be given, neither can its text; where they are the bytes of a text,
that text is given; and where they are not, the source that served the line has failed, with the line
taken but not counted. `served next line id` says that the source `id` served the line, and `step` is what
can be asked later. -/
structure DecodesLine {σ ω ρ : Type} (step : ω → Cursor σ → ρ × Cursor σ)
    (served : Cursor σ → Bytes → String → Prop) (cursor : Cursor σ)
    (line : Except SourceError (Option Bytes) × Cursor σ)
    (text : Except SourceError (Option String) × Cursor σ) : Prop where
  error : ∀ error next, line = (.error error, next) → text = (.error error, next)
  nothing : ∀ next, line = (.ok none, next) → text = (.ok none, next)
  counted : ∀ bytes next, line = (.ok (some bytes), next) → next.lineno = cursor.lineno + 1
  wellFormed : ∀ bytes next, line = (.ok (some bytes), next) →
    ∀ given, Utf8.encode given = bytes → text = (.ok (some given), next)
  malformed : ∀ bytes next, line = (.ok (some bytes), next) →
    (∀ given, Utf8.encode given ≠ bytes) →
    ∃ error : SourceError, text = (.error error, next.setLineno cursor.lineno)
      ∧ error.stage = .reading ∧ error.kind = .invalidData ∧ served next bytes error.target
      ∧ ∀ later, (Run.trace step later (next.setLineno cursor.lineno)).map Prod.fst
          = (Run.trace step later next).map Prod.fst

namespace DecodesLine

variable {σ ω ρ : Type} {step : ω → Cursor σ → ρ × Cursor σ}
  {served : Cursor σ → Bytes → String → Prop} {cursor : Cursor σ}
  {line : Except SourceError (Option Bytes) × Cursor σ}
  {text : Except SourceError (Option String) × Cursor σ}

/-- It is enough that the text is the decoding of the line and that the open source served the line. -/
theorem of_decoded (htext : text = Cursor.decoded cursor.lineno line)
    (hcounted : ∀ bytes next, line = (.ok (some bytes), next) → next.lineno = cursor.lineno + 1)
    (hserved : ∀ bytes next, line = (.ok (some bytes), next) →
      ∃ id, next.currentId? = some id ∧ served next bytes id)
    (hlater : ∀ lineno later (next : Cursor σ),
      (Run.trace step later (next.setLineno lineno)).map Prod.fst
        = (Run.trace step later next).map Prod.fst) :
    DecodesLine step served cursor line text where
  error := by
    rintro error next rfl
    exact htext
  nothing := by
    rintro next rfl
    exact htext
  counted := hcounted
  wellFormed := by
    rintro _ next rfl given rfl
    rw [htext, Cursor.decoded, Utf8.decode_ok_iff.2 rfl]
  malformed := by
    intro bytes next hline hnone
    obtain ⟨id, hid, hid'⟩ := hserved bytes next hline
    obtain ⟨fault, hfault⟩ := Utf8.decode_error_iff.2 hnone
    refine ⟨.ofReading id (.malformed fault), ?_, rfl, rfl, hid', fun later => hlater _ later next⟩
    rw [htext, hline, Cursor.decoded, hfault]
    simp only [hid, Option.getD_some]

end DecodesLine

namespace Cursor

/-- The entry of this identifier served the line, and it is the open one after it. -/
def ServedLine (list : SourceList Script) (world : World) (cursor next : Cursor Script) (line : Bytes)
    (id : String) : Prop :=
  ∃ index source, source.id = id
    ∧ ServedBy list world (.common .readLineBytes) (Inlet.readUntil newline) cursor next line index source

variable {list : SourceList Script} {world : World} {cursor next : Cursor Script} {line : Bytes}

theorem lineno_of_readLineBytes (hline : cursor.readLineBytes = (.ok (some line), next)) :
    next.lineno = cursor.lineno + 1 := by
  obtain ⟨-, hnext⟩ := line_of_readLineBytes (congrArg Prod.fst hline)
  rw [hline] at hnext
  rw [show next = _ from hnext, countLine, lineno_readUnit]

/-- A line is served by the entry that is then open. -/
theorem servedLine_readLineBytes (h : cursor.Anchored list world)
    (hline : cursor.readLineBytes = (.ok (some line), next)) :
    ∃ id, next.currentId? = some id ∧ ServedLine list world cursor next line id := by
  have hpending : cursor.pending = none := by
    cases hpending : cursor.pending with
    | none => rfl
    | some error =>
      rw [readLineBytes_of_pending hpending] at hline
      cases hline
  have hanswer : (cursor.serve (.common .readLineBytes)).1 = .ok (.bytes (some line)) := by
    rw [serve, perform, hline]
    rfl
  have hnext : (cursor.serve (.common .readLineBytes)).2 = next := by
    rw [serve, perform, hline]
    rfl
  have hsome : line ≠ [] := by
    rintro rfl
    exact readLineBytes_ne_nil (congrArg Prod.fst hline)
  obtain ⟨index, source, hserved⟩ :=
    servedBy_serve rfl h hpending hanswer hsome
  rw [hnext] at hserved
  exact ⟨source.id, hserved.currentId?, index, source, rfl, hserved⟩

end Cursor

namespace AsyncCursor

/-- The entry of this identifier served the line, and it is the open one after it. -/
def ServedLine (list : SourceList PolledScript) (world : World) (cursor next : AsyncCursor)
    (line : Bytes) (id : String) : Prop :=
  ∃ index source, source.id = id ∧ ServedBy list world cursor next line index source

variable {list : SourceList PolledScript} {world : World} {cursor next : AsyncCursor} {line : Bytes}

theorem lineno_of_readLineBytes (hline : cursor.readLineBytes = (.ok (some line), next)) :
    next.lineno = cursor.lineno + 1 := by
  obtain ⟨-, -, -, rfl⟩ := line_of_readLineBytes hline
  exact congrArg (· + 1) (lineno_crossing .line [] cursor)

theorem servedLine_readLineBytes (h : Cursor.Rooted list world cursor)
    (hline : cursor.readLineBytes = (.ok (some line), next)) :
    ∃ id, next.currentId? = some id ∧ ServedLine list world cursor next line id := by
  obtain ⟨index, source, hserved⟩ := servedBy_readLineBytes h hline
  exact ⟨source.id, hserved.currentId?, index, source, rfl, hserved⟩

end AsyncCursor

/-- **A text line is a byte line decoded, in both cursors.** After every run of either cursor, compare the
two ways of reading a line. Where the bytes cannot be given, the text read answers the same and leaves the
same cursor. Where they are the bytes of a text, that text is given and the cursor is the same. Where they
are not, the text read fails with invalid data at the source that served them; the cursor is the same but
for the line not counted, so that everything asked later is answered the same. -/
theorem text_line_is_decoded_line (world : World) :
    (∀ (list : SourceList Script) (past : List BlockingOperation),
      let cursor := Run.last Cursor.serve past (Cursor.ofList world list)
      DecodesLine Cursor.serve (cursor.ServedLine list world) cursor cursor.readLineBytes cursor.readLine)
    ∧ ∀ (list : SourceList PolledScript) (past : List Operation),
      let cursor : AsyncCursor := Run.last AsyncCursor.perform past (Cursor.ofList world list)
      DecodesLine AsyncCursor.perform (AsyncCursor.ServedLine list world cursor) cursor
        cursor.readLineBytes cursor.readLine := by
  constructor
  · intro list past cursor
    have hanchored : cursor.Anchored list world :=
      Run.last_induction Cursor.serve (fun operation _ => Cursor.anchored_serve operation) past
        (Cursor.anchored_ofList world list)
    apply DecodesLine.of_decoded cursor.readLine_eq_decoded
    · intro bytes next hline
      exact Cursor.lineno_of_readLineBytes hline
    · intro bytes next hline
      exact Cursor.servedLine_readLineBytes hanchored hline
    · intro lineno later next
      exact Cursor.answers_setLineno lineno later next
  · intro list past cursor
    have hrooted : Cursor.Rooted list world cursor := Cursor.rooted_last world list past
    apply DecodesLine.of_decoded (AsyncCursor.readLine_eq_decoded cursor)
    · intro bytes next hline
      exact AsyncCursor.lineno_of_readLineBytes hline
    · intro bytes next hline
      exact AsyncCursor.servedLine_readLineBytes hrooted hline
    · intro lineno later next
      exact AsyncCursor.answers_setLineno lineno later next

/-- A line that is not UTF-8, with another behind it: the text read fails, and the next line is what the
next read gives. -/
theorem text_line_is_decoded_line_before_another :
    let list := SourceList.ofList [⟨"a", .memory "a" [0xFF, 10, 120]⟩]
    let cursor := Cursor.ofList {} list
    let next := cursor.readLineBytes.2
    cursor.readLineBytes.1 = .ok (some [0xFF, 10])
      ∧ (∃ error : SourceError, cursor.readLine = (.error error, next.setLineno 0)
          ∧ error.kind = .invalidData ∧ cursor.ServedLine list {} next [0xFF, 10] error.target
          ∧ (Run.trace Cursor.serve [.common .readLine] (next.setLineno 0)).map Prod.fst
            = (Run.trace Cursor.serve [.common .readLine] next).map Prod.fst)
      ∧ next.readLine.1 = .ok (some "x") := by
  intro list cursor next
  have hline : cursor.readLineBytes.1 = .ok (some [0xFF, 10]) := by decide +kernel
  have hbehind : next.readLine.1 = .ok (some "x") := by decide +kernel
  obtain ⟨hdecodes, -⟩ := text_line_is_decoded_line {}
  have hmalformed : ∀ given, Utf8.encode given ≠ [0xFF, 10] :=
    Utf8.decode_error_iff.1 ⟨⟨0, some 1⟩, by decide +kernel⟩
  obtain ⟨error, htext, -, hkind, hserved, hlater⟩ :=
    (hdecodes list []).malformed [0xFF, 10] next (Prod.ext hline rfl) hmalformed
  exact ⟨hline, ⟨error, htext, hkind, hserved, hlater _⟩, hbehind⟩

end InputChain
