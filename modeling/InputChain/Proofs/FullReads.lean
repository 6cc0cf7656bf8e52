import InputChain.Proofs.BytesLeft
import InputChain.Proofs.Requests
import InputChain.Proofs.StreamEnd

/-!
# Reads of so many bytes

A read of so many bytes asks on until it has them: it gives fewer only at the end of the stream or in front of
a failure, which it then holds back, and fails itself only if there was nothing to give. What it asks last is
what it could not do without.

* `Cursor.Obtains`, `Cursor.Obtains.conserves`: what is asked for bytes, and that none of what is served is
  lost.
* `Cursor.Fetches`, `Cursor.fetches_crossing`, **`Cursor.fetches_gather`**: one byte, and so many.
* `Cursor.Fills`, `Cursor.fills_read`: what a read comes to for its caller.
* **`read_fills`**: after every run.
-/

namespace InputChain

/-- With nothing held, a unit of bytes is the front of what one request gives, and the rest is held. -/
theorem Inlet.takeUpTo_of_request (count : Nat) (reader : Reader Script) (input : StandardInput) :
    takeUpTo count ⟨[], reader, input⟩
      = ⟨(pull blockSize ⟨[], reader, input⟩).got.take count, (pull blockSize ⟨[], reader, input⟩).fault,
          { (pull blockSize ⟨[], reader, input⟩).next with
            held := (pull blockSize ⟨[], reader, input⟩).got.drop count }⟩ := rfl

namespace Cursor

/-! ## What is asked for bytes -/

/-- Asking these, a cursor obtains these bytes: it passes sources, has blocks served, takes what is held, and
comes upon requests that fail, entries that do not open and the end of the list. -/
inductive Obtains : Cursor Script → List Inquiry → Bytes → Cursor Script → Prop where
  | refl (cursor : Cursor Script) : Obtains cursor [] [] cursor
  | passes {cursor there last : Cursor Script} {asked later : List Inquiry} {got : Bytes}
      (hpasses : Passes (Inlet.pull blockSize) cursor asked there) (hrest : Obtains there later got last) :
      Obtains cursor (asked ++ later) got last
  | takes {cursor last : Cursor Script} {id : String} {taken held got : Bytes} {reader : Reader Script}
      {asked : List Inquiry} (hphase : cursor.phase = .active id (taken ++ held) reader)
      (hrest : Obtains { cursor with phase := .active id held reader } asked got last) :
      Obtains cursor asked (taken ++ got) last
  | requests {cursor last : Cursor Script} {id : String} {got : Bytes} {reader : Reader Script}
      {reply : Reply (Inlet Script)} {asked : List Inquiry} (hphase : cursor.phase = .active id [] reader)
      (hreply : Inlet.pull blockSize ⟨[], reader, cursor.world.input⟩ = reply)
      (hgave : reply.got ≠ [] ∨ reply.fault.isSome)
      (hrest : Obtains (cursor.withInlet id { reply.next with held := reply.got }) asked got last) :
      Obtains cursor (.request reply.got reply.fault :: asked) got last
  | refuses {cursor last : Cursor Script} {source : Source Script} {rest : SourceList Script}
      {error : IoError} {asked : List Inquiry} {got : Bytes} (hphase : cursor.phase = .idle)
      (hnext : cursor.sources.next? = some (source, rest))
      (hopen : source.provider.opened cursor.world.files = .error error)
      (hrest : Obtains (cursor.refuse rest) asked got last) :
      Obtains cursor (.opening cursor.sources.position :: asked) got last
  | exhausts {cursor last : Cursor Script} {asked : List Inquiry} {got : Bytes}
      (hphase : cursor.phase = .idle) (hnext : cursor.sources.next? = none)
      (hrest : Obtains { cursor with phase := .exhausted } asked got last) : Obtains cursor asked got last

namespace Obtains

variable {cursor there last : Cursor Script} {asked later : List Inquiry} {got more : Bytes}

theorem trans (h : Obtains cursor asked got there) (h' : Obtains there later more last) :
    Obtains cursor (asked ++ later) (got ++ more) last := by
  induction h with
  | refl => exact h'
  | passes hpasses _ ih =>
    rw [List.append_assoc]
    exact .passes hpasses (ih h')
  | takes hphase _ ih =>
    rw [List.append_assoc]
    exact .takes hphase (ih h')
  | requests hphase hreply hgave _ ih => exact .requests hphase hreply hgave (ih h')
  | refuses hphase hnext hopen _ ih => exact .refuses hphase hnext hopen (ih h')
  | exhausts hphase hnext _ ih => exact .exhausts hphase hnext (ih h')

/-- **What was held and what is served is obtained or held.** -/
theorem conserves (h : Obtains cursor asked got last) :
    cursor.block ++ Inquiry.served asked = got ++ last.block := by
  induction h with
  | refl cursor => exact List.append_nil cursor.block
  | passes hpasses _ ih => rw [Inquiry.served_append, hpasses.served, ← hpasses.block_eq, ← ih, List.nil_append]
  | takes hphase _ ih => rw [block_of_active hphase, List.append_assoc, List.append_assoc, ← ih]; rfl
  | requests hphase _ _ _ ih => rw [block_of_active hphase, Inquiry.served_cons, ← ih]; rfl
  | @refuses cursor last source rest error asked got hphase _ _ _ ih =>
    have hidle : (cursor.refuse rest).phase = .idle := hphase
    rw [block_of_idle hphase, Inquiry.served_cons, ← ih, block_of_idle hidle]
    rfl
  | exhausts hphase _ _ ih => rw [block_of_idle hphase, ← ih]; rfl

end Obtains

/-! ## So many bytes -/

/-- Asking these, a cursor fetches so many bytes. If it comes by all of them it does not fail, and had not
enough before it asked last. If it comes by fewer it fails or stands at the end of the stream; by none, and
nothing is held. -/
structure Fetches (cursor : Cursor Script) (count : Nat) (asked : List Inquiry)
    (delivery : Delivery Script) : Prop where
  obtains : Obtains cursor asked delivery.got delivery.next
  bound : delivery.got.length ≤ count
  full : delivery.got.length = count → delivery.fault = none
    ∧ ∀ earlier last, asked = earlier ++ [last] → (cursor.block ++ Inquiry.served earlier).length < count
  short : delivery.got.length < count → delivery.fault.isSome ∨ delivery.next.phase = .exhausted
  nothing : count ≠ 0 → delivery.got = [] → delivery.next.block = []

variable {cursor : Cursor Script}

/-- Where a byte is found it is taken of what is held, or else of what one request gives. -/
theorem Lands.obtains {there : Cursor Script} {delivery : Delivery Script}
    (h : Lands (Inlet.takeUpTo 1) there delivery) :
    ∃ asked, Obtains there asked delivery.got delivery.next
      ∧ (delivery.got = [] → delivery.next.block = [])
      ∧ (delivery.got ≠ [] → asked = [] ∨ there.block = [] ∧ ∃ last, asked = [last]) := by
  cases h with
  | exhausted hphase => exact ⟨[], .refl there, fun _ => by rw [block, hphase], absurd rfl⟩
  | no_source hphase hnext => exact ⟨[], .exhausts hphase hnext (.refl _), fun _ => rfl, absurd rfl⟩
  | @refused source rest error hphase hnext hopen =>
    have hidle : (there.refuse rest).phase = .idle := hphase
    exact ⟨_, .refuses hphase hnext hopen (.refl _), fun _ => block_of_idle hidle, absurd rfl⟩
  | @reads id held reader hphase hgave =>
    by_cases hheld : held = []
    · subst hheld
      rw [Inlet.takeUpTo_of_request] at hgave ⊢
      generalize hreply : Inlet.pull blockSize ⟨[], reader, there.world.input⟩ = reply at hgave ⊢
      have hgave' : reply.got ≠ [] ∨ reply.fault.isSome :=
        hgave.imp_left fun htake hnil => htake (by rw [hnil, List.take_nil])
      have htaken : reply.got.take 1 ++ reply.got.drop 1 = reply.got := List.take_append_drop 1 reply.got
      have hobtains : Obtains there [.request reply.got reply.fault] (reply.got.take 1 ++ [])
          (there.withInlet id { reply.next with held := reply.got.drop 1 }) :=
        .requests hphase hreply hgave' (.takes (congrArg (Phase.active id · _) htaken.symm) (.refl _))
      rw [List.append_nil] at hobtains
      refine ⟨_, hobtains, fun hgot => ?_, fun _ => Or.inr ⟨block_of_active hphase, _, rfl⟩⟩
      have hnil := (List.take_eq_nil_iff.1 hgot).resolve_left Nat.one_ne_zero
      exact List.drop_eq_nil_iff.2 (by rw [hnil]; exact Nat.zero_le 1)
    · rw [Inlet.takeUpTo_of_held hheld]
      have hphase' : there.phase = .active id (held.take 1 ++ held.drop 1) reader := by
        rw [List.take_append_drop, hphase]
      have hobtains := Obtains.takes hphase' (.refl _)
      rw [List.append_nil] at hobtains
      refine ⟨[], hobtains, fun hgot => ?_, fun _ => Or.inl rfl⟩
      exact absurd hgot fun htake => (List.take_eq_nil_iff.1 htake).elim Nat.one_ne_zero hheld

/-- One byte. -/
theorem fetches_crossing (cursor : Cursor Script) :
    ∃ asked, Fetches cursor 1 asked (cursor.crossing (Inlet.takeUpTo 1)) := by
  obtain ⟨front, there, hpasses, hlands⟩ :=
    crossing_lands (Inlet.endsBy_takeUpTo Nat.one_ne_zero) cursor
  obtain ⟨back, hobtains, hblock, hback⟩ := hlands.obtains
  refine ⟨front ++ back, {
    obtains := .passes hpasses hobtains
    bound := length_got_crossing fun inlet => inlet.length_got_takeUpTo 1
    full := ?_
    short := ?_
    nothing := fun _ => hblock }⟩
  · intro hlength
    have hsome : (cursor.crossing (Inlet.takeUpTo 1)).got ≠ [] := by
      intro hnil
      rw [hnil] at hlength
      cases hlength
    constructor
    · cases hfault : (cursor.crossing (Inlet.takeUpTo 1)).fault with
      | none => rfl
      | some error =>
        exact absurd (got_crossing_of_fault (fun _ _ => Inlet.got_takeUpTo_of_fault) hfault) hsome
    · intro earlier last hasked
      rcases hback hsome with rfl | ⟨hnone, last', rfl⟩
      · -- the byte was held, so no source was passed and nothing was asked
        have hheld : cursor.block ≠ [] := by
          intro hnil
          have hconserves := hobtains.conserves
          rw [hpasses.block_eq, hnil] at hconserves
          exact hsome (List.append_eq_nil_iff.1 hconserves.symm).1
        rw [(hpasses.eq_of_block hheld).1] at hasked
        simp at hasked
      · obtain ⟨rfl, -⟩ := List.append_inj' hasked rfl
        rw [← hpasses.block_eq, hnone, hpasses.served]
        exact Nat.one_pos
  · intro hlength
    have hgot := List.length_eq_zero_iff.1 (Nat.lt_one_iff.1 hlength)
    cases hfault : (cursor.crossing (Inlet.takeUpTo 1)).fault with
    | some error => exact Or.inl rfl
    | none => exact Or.inr (phase_crossing_of_end hgot hfault)

/-- **So many bytes are fetched as one byte, and then the others.** -/
theorem fetches_gather {cursor : Cursor Script} (hpending : cursor.pending = none) (count : Nat) :
    ∃ asked, Fetches cursor count asked (cursor.gather count) := by
  induction count generalizing cursor with
  | zero =>
    rw [gather_zero]
    refine ⟨[], .refl cursor, Nat.le_refl 0, fun _ => ⟨rfl, ?_⟩, nofun, fun h => absurd rfl h⟩
    intro earlier last hasked
    simp at hasked
  | succ count ih =>
    obtain ⟨front, hfirst⟩ := fetches_crossing cursor
    rw [← readUnit_of_none hpending] at hfirst
    have hnone : (cursor.readUnit (Inlet.takeUpTo 1)).next.pending = none := pending_readUnit cursor
    rw [gather_succ]
    by_cases hgot : (cursor.readUnit (Inlet.takeUpTo 1)).got = []
    · rw [if_pos hgot]
      have hlength : (cursor.readUnit (Inlet.takeUpTo 1)).got.length = 0 := by rw [hgot]; rfl
      exact ⟨front, {
        obtains := hfirst.obtains
        bound := by omega
        full := fun hfull => by omega
        short := fun _ => hfirst.short (by omega)
        nothing := fun _ => hfirst.nothing Nat.one_ne_zero }⟩
    · rw [if_neg hgot]
      obtain ⟨back, hrest⟩ := ih hnone
      have hpos := List.length_pos_iff.2 hgot
      have hbound := hfirst.bound
      have hconserves := hfirst.obtains.conserves
      generalize cursor.readUnit (Inlet.takeUpTo 1) = unit at *
      have hlength : (unit.got ++ (unit.next.gather count).got).length
          = (unit.next.gather count).got.length + 1 := by
        rw [List.length_append]
        omega
      refine ⟨front ++ back, {
        obtains := hfirst.obtains.trans hrest.obtains
        bound := hlength.trans_le (Nat.succ_le_succ hrest.bound)
        full := ?_
        short := fun hless => hrest.short (Nat.lt_of_succ_lt_succ (hlength.symm.trans_lt hless))
        nothing := fun _ hnil => absurd (List.append_eq_nil_iff.1 hnil).1 hgot }⟩
      · intro hfull
        obtain ⟨hfault, hlast⟩ := hrest.full (Nat.succ_injective (hlength.symm.trans hfull))
        refine ⟨hfault, fun earlier last hasked => ?_⟩
        -- what was asked last was asked for one of the other bytes, or for the first if they were held
        rcases List.eq_nil_or_concat back with rfl | ⟨earlier', last', rfl⟩
        · rw [List.append_nil] at hasked
          have hless := (hfirst.full (by omega)).2 earlier last hasked
          omega
        · rw [List.concat_eq_append, ← List.append_assoc] at hasked
          obtain ⟨rfl, -⟩ := List.append_inj' hasked rfl
          have hless := hlast earlier' last' (List.concat_eq_append ..)
          rw [Inquiry.served_append, ← List.append_assoc, hconserves, List.append_assoc, List.length_append]
          omega

/-! ## A read -/

/-- The bytes that a read gives. -/
def given : Except SourceError (Option Bytes) → Bytes
  | .ok (some got) => got
  | _ => []

theorem given_of_left (count : Nat) (left : Bytes) :
    given (.ok (if left = [] then none else some (left.take count))) = left.take count := by
  by_cases hleft : left = []
  · rw [if_pos hleft, hleft, List.take_nil]
    rfl
  · rw [if_neg hleft, given]

/-- Asking these, a read of so many bytes answers its caller. What it gives is not empty and no more than was
asked for. If it is less, the stream is at its end or a failure is held back; if it is nothing, the stream is at
its end. A failure is reported only if nothing was held and nothing was served, and then nothing is held back.
If it is all that was asked for, nothing is held back, and before it asked last the cursor had less. -/
structure Fills (cursor : Cursor Script) (count : Nat) (asked : List Inquiry)
    (step : Except SourceError (Option Bytes) × Cursor Script) : Prop where
  obtains : Obtains cursor asked (given step.1) { step.2 with pending := none }
  conserves : cursor.block ++ Inquiry.served asked = given step.1 ++ step.2.block
  length : ∀ got, step.1 = .ok (some got) → 1 ≤ got.length ∧ got.length ≤ count
  short : ∀ got, step.1 = .ok (some got) → got.length < count →
    step.2.isExhausted = true ∨ step.2.pending.isSome = true
  nothing : step.1 = .ok none → step.2.isExhausted = true
  error : ∀ error, step.1 = .error error →
    cursor.block = [] ∧ Inquiry.served asked = [] ∧ step.2.block = [] ∧ step.2.pending = none
  full : ∀ got, step.1 = .ok (some got) → got.length = count → step.2.pending = none
    ∧ ∀ earlier last, asked = earlier ++ [last] → (cursor.block ++ Inquiry.served earlier).length < count

theorem fills_read {count : Nat} (hcount : count ≠ 0) (hpending : cursor.pending = none) :
    ∃ asked, cursor.Fills count asked (cursor.read count) := by
  obtain ⟨asked, hfetches⟩ := fetches_gather hpending count
  have hnone : (cursor.gather count).next.pending = none := pending_gather hcount
  refine ⟨asked, ?_⟩
  rw [Cursor.read, if_neg hcount]
  generalize cursor.gather count = delivery at hfetches hnone ⊢
  obtain ⟨got, fault, next⟩ := delivery
  obtain ⟨hobtains, hbound, hfull, hshort, hnothing⟩ := hfetches
  have hconserves := hobtains.conserves
  have hnext : { next with pending := none } = next := by rw [← show next.pending = none from hnone]
  replace hobtains : Obtains cursor asked got { next with pending := none } := hnext ▸ hobtains
  have hexhausted : next.phase = .exhausted → next.isExhausted = true := fun hphase => by
    rw [isExhausted, hphase]
  cases got with
  | nil =>
    have hblock : next.block = [] := hnothing hcount rfl
    obtain ⟨hheld, hserved⟩ := List.append_eq_nil_iff.1 (hconserves.trans hblock)
    cases fault with
    | none =>
      have hphase := (hshort (Nat.pos_of_ne_zero hcount)).resolve_left Bool.noConfusion
      exact {
        obtains := hobtains
        conserves := hconserves
        length := by rintro _ ⟨⟩
        short := by rintro _ ⟨⟩
        nothing := fun _ => hexhausted hphase
        error := by rintro _ ⟨⟩
        full := by rintro _ ⟨⟩ }
    | some error =>
      exact {
        obtains := hobtains
        conserves := hconserves
        length := by rintro _ ⟨⟩
        short := by rintro _ ⟨⟩
        nothing := by rintro ⟨⟩
        error := fun _ _ => ⟨hheld, hserved, hblock, hnone⟩
        full := by rintro _ ⟨⟩ }
  | cons b got =>
    cases fault with
    | none =>
      exact {
        obtains := hobtains
        conserves := hconserves
        length := by
          rintro _ ⟨⟩
          exact ⟨Nat.succ_pos _, hbound⟩
        short := by
          rintro _ ⟨⟩ hless
          exact Or.inl (hexhausted ((hshort hless).resolve_left Bool.noConfusion))
        nothing := by rintro ⟨⟩
        error := by rintro _ ⟨⟩
        full := by
          rintro _ ⟨⟩ hlength
          exact ⟨hnone, (hfull hlength).2⟩ }
    | some error =>
      exact {
        obtains := hobtains
        conserves := hconserves
        length := by
          rintro _ ⟨⟩
          exact ⟨Nat.succ_pos _, hbound⟩
        short := by
          rintro _ ⟨⟩ -
          exact Or.inr rfl
        nothing := by rintro ⟨⟩
        error := by rintro _ ⟨⟩
        full := by
          -- so many bytes come without a failure
          rintro _ ⟨⟩ hlength
          cases (hfull hlength).1 }

end Cursor

/-- **A read of so many bytes fills its length, unless the stream ends or fails.** After every run that leaves
no failure held, a read of at least one byte comes to what is said in `Cursor.Fills`. Over sources that open and
are read without failures, each reader ended for good when it first gives nothing, so many bytes are left; and
where so many are left, the read gives them from their front, and what two reads give one after the other is
what one read of as many bytes gives. -/
theorem read_fills (world : World) (list : SourceList Script) (past : List BlockingOperation)
    (count : Nat) (hcount : count ≠ 0)
    (hpending : (Run.last Cursor.serve past (Cursor.ofList world list)).pending = none) :
    let cursor := Run.last Cursor.serve past (Cursor.ofList world list)
    (∃ asked, cursor.Fills count asked (cursor.read count))
      ∧ ((∀ source ∈ list.remaining, source.ReadsOut world.files) → ∃ left, cursor.BytesLeft left)
      ∧ ∀ left, cursor.BytesLeft left →
        (cursor.read count).1 = .ok (if left = [] then none else some (left.take count))
          ∧ ∀ more, more ≠ 0 →
            Cursor.given (cursor.read count).1 ++ Cursor.given ((cursor.read count).2.read more).1
              = Cursor.given (cursor.read (count + more)).1 := by
  intro cursor
  refine ⟨Cursor.fills_read hcount hpending, fun hreads => (Cursor.readsOut_run hreads past).bytesLeft,
    fun left hleft => ?_⟩
  obtain ⟨hread, hpending', hleft'⟩ := Cursor.read_of_bytesLeft hcount hpending hleft
  refine ⟨hread, fun more hmore => ?_⟩
  obtain ⟨hsecond, -, -⟩ := Cursor.read_of_bytesLeft hmore hpending' hleft'
  obtain ⟨hboth, -, -⟩ := Cursor.read_of_bytesLeft (by omega : count + more ≠ 0) hpending hleft
  rw [hread, hsecond, hboth, Cursor.given_of_left, Cursor.given_of_left, Cursor.given_of_left, List.take_add]

/-- Three of four bytes that are left in two sources, where the first is read already; and a read that a failure
cuts short. -/
theorem read_fills_across_sources :
    let list : SourceList Script := SourceList.ofList
      [⟨"a", .scripted "a" (.ok ⟨[.bytes [97], .bytes [98]], none⟩)⟩, ⟨"b", .memory "b" [99, 100, 101]⟩]
    let cursor := Run.last Cursor.serve [.common .readByte] (Cursor.ofList {} list)
    let failing := Cursor.ofList {} (SourceList.ofList
      [⟨"a", .scripted "a" (.ok ⟨[.bytes [120, 121], .fault (.bare .other)], none⟩)⟩])
    cursor.pending = none
      ∧ (∀ source ∈ list.remaining, source.ReadsOut {})
      ∧ (∃ asked, cursor.Fills 3 asked (cursor.read 3)) ∧ (cursor.read 3).1 = .ok (some [98, 99, 100])
      ∧ (∃ left, cursor.BytesLeft left ∧ left.take 3 = [98, 99, 100]
        ∧ Cursor.given (cursor.read 3).1 ++ Cursor.given ((cursor.read 3).2.read 9).1
          = Cursor.given (cursor.read 12).1)
      ∧ (∃ asked, failing.Fills 3 asked (failing.read 3)) ∧ (failing.read 3).1 = .ok (some [120, 121])
      ∧ (failing.read 3).2.pending.isSome = true := by
  intro list cursor failing
  have hpending : cursor.pending = none := by decide +kernel
  have hanswer : (cursor.read 3).1 = .ok (some [98, 99, 100]) := by decide +kernel
  have hreads : ∀ source ∈ list.remaining, source.ReadsOut {} := by
    refine List.forall_mem_cons.2 ⟨⟨_, rfl, ⟨rfl, by simp⟩, .of_no_end (by simp) (by simp)⟩, ?_⟩
    exact List.forall_mem_singleton.2 ⟨_, rfl, ⟨rfl, by simp [Behaviour.serving]⟩, .of_plain _⟩
  obtain ⟨hfills, hbytes, hexact⟩ := read_fills {} list [.common .readByte] 3 (by decide) hpending
  obtain ⟨left, hleft⟩ := hbytes hreads
  obtain ⟨hread, hboth⟩ := hexact left hleft
  have htake : left.take 3 = [98, 99, 100] := by
    rw [← Cursor.given_of_left, ← hread, hanswer]
    rfl
  obtain ⟨hcut, -⟩ := read_fills {} (SourceList.ofList
    [⟨"a", .scripted "a" (.ok ⟨[.bytes [120, 121], .fault (.bare .other)], none⟩)⟩]) [] 3 (by decide) rfl
  exact ⟨hpending, hreads, hfills, hanswer, ⟨left, hleft, htake, hboth 9 (by decide)⟩, hcut,
    by decide +kernel, by decide +kernel⟩

end InputChain
