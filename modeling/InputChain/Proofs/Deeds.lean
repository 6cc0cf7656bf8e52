import InputChain.Proofs.Answers

/-!
# What is done to serve a call

A call may take bytes of several sources, one after another, and its answer does not tell which
source gave which byte. What is done to serve it tells: sources are opened and closed, bytes are served
by the source that is then open, and bytes that were held are dropped when a source is skipped.

* `Call`, `Cursor.deliver`: what is asked by those who read; bytes that are shown are consumed at
  once.
* `Deed`, `Cursor.deeds`: what is done to serve a call, in order.
* `Cursor.deedsOf`: what is done in a run of calls.
* `HandsOver`, **`Cursor.handsOver_deliver`**: an answer hands over the bytes served, and no others.
-/

namespace InputChain

/-! ## Calls -/

/-- What is asked of a cursor by those who read, lines and bytes, or skip. -/
inductive Call where
  | ask (operation : Operation)
  /-- One plain read of the seamless view with this room. -/
  | plainRead (room : Nat)
  /-- Bytes that are held are shown, and at once the first so many of them consumed. -/
  | fillConsume (count : Nat)
  deriving DecidableEq, Repr

/-- The cursor serves a call. What is answered of bytes that are shown is those consumed. -/
def Cursor.deliver (call : Call) (cursor : Cursor Script) :
    Except Failure Response × Cursor Script :=
  match call with
  | .ask operation => cursor.serve (.common operation)
  | .plainRead room => cursor.serve (.plainRead room)
  | .fillConsume count =>
    match cursor.serve .fill with
    | (.ok (.slice got), next) =>
      (.ok (.slice (got.take count)), (next.serve (.consume (got.take count).length)).2)
    | failed => failed

/-- What every operation keeps, every call keeps. -/
theorem Cursor.deliver_keeps {Holds : Cursor Script → Prop}
    (hserve : ∀ operation cursor, Holds cursor → Holds (cursor.serve operation).2) (call : Call)
    {cursor : Cursor Script} (h : Holds cursor) : Holds (cursor.deliver call).2 := by
  match call with
  | .ask operation => exact hserve _ cursor h
  | .plainRead room => exact hserve _ cursor h
  | .fillConsume count =>
    have hfill := hserve .fill cursor h
    unfold deliver
    simp only
    split
    · rename_i hanswer
      rw [hanswer] at hfill
      exact hserve _ _ hfill
    · exact hfill

/-! ## Deeds -/

/-- Something that is done to serve a call. -/
inductive Deed where
  /-- A source is opened, refused or closed. -/
  | access (noted : Access)
  /-- The entry at this index serves bytes. -/
  | served (index : Nat) (got : Bytes)
  /-- The entry at this index is skipped while these bytes are held. -/
  | dropped (index : Nat) (held : Bytes)
  deriving DecidableEq, Repr

namespace Deed

/-- What the journal notes of it. -/
def access? : Deed → Option Access
  | .access noted => some noted
  | _ => none

/-- The bytes served. -/
def got : Deed → Bytes
  | .served _ got => got
  | _ => []

/-- The bytes served by some of the entries. -/
def gotOf (entries : Nat → Bool) : Deed → Bytes
  | .served index got => if entries index then got else []
  | _ => []

/-- The bytes that some of the entries served, or held when they were skipped. -/
def takenOf (entries : Nat → Bool) : Deed → Bytes
  | .dropped index held => if entries index then held else []
  | deed => deed.gotOf entries

@[simp] theorem filterMap_access? (accesses : List Access) :
    (accesses.map Deed.access).filterMap access? = accesses := by
  rw [List.filterMap_map]
  exact List.filterMap_some

/-- What is nothing of an access is nothing of several. -/
theorem flatMap_access {bytesOf : Deed → Bytes} (hnone : ∀ noted, bytesOf (.access noted) = [])
    (accesses : List Access) : (accesses.map Deed.access).flatMap bytesOf = [] := by
  rw [List.flatMap_map]
  exact List.flatMap_eq_nil_iff.2 fun noted _ => hnone noted

end Deed

namespace Cursor

variable {cursor : Cursor Script}

/-- What is done for one unit: sources are opened and closed, then the open one serves these bytes. -/
def unitDeeds (cursor next : Cursor Script) (got : Bytes) : List Deed :=
  (next.journal.drop cursor.journal.length).map .access ++ [.served (next.sources.position - 1) got]

/-- With some of the bytes gathered, there are fewer to gather. -/
theorem length_sub_lt {count : Nat} {got : Bytes} (hcount : count ≠ 0) (hgot : got ≠ []) :
    count - got.length < count := by
  have hlength := List.length_pos_iff.2 hgot
  omega

/-- What is done to gather so many bytes. -/
def gatherDeeds (count : Nat) (cursor : Cursor Script) : List Deed :=
  if hcount : count = 0 then []
  else
    let delivery := cursor.readUnit (Inlet.takeUpTo count)
    if hgot : delivery.got = [] then cursor.unitDeeds delivery.next delivery.got
    else
      have : count - delivery.got.length < count := length_sub_lt hcount hgot
      cursor.unitDeeds delivery.next delivery.got
        ++ gatherDeeds (count - delivery.got.length) delivery.next
  termination_by count
  decreasing_by assumption

/-- What is done to gather everything left. -/
def gatherRestDeeds (cursor : Cursor Script) : List Deed :=
  let delivery := cursor.readUnit Inlet.readRest
  if delivery.fault.isSome then cursor.unitDeeds delivery.next delivery.got
  else if hgot : delivery.got = [] then cursor.unitDeeds delivery.next delivery.got
  else
    have : delivery.next.supply < cursor.supply := supply_readUnit_lt Inlet.supply_readRest _ hgot
    cursor.unitDeeds delivery.next delivery.got ++ gatherRestDeeds delivery.next
  termination_by cursor.supply

/-- The bytes of a line; one that a failure cuts off is not served. -/
def lineGot (delivery : Delivery Script) : Bytes :=
  if delivery.fault.isSome then [] else delivery.got

/-- What is done for a line. -/
def lineDeeds (cursor : Cursor Script) : List Deed :=
  let delivery := cursor.readUnit (Inlet.readUntil newline)
  cursor.unitDeeds delivery.next (lineGot delivery)

/-- What a skip does: what is held is dropped, and the source closed. -/
def skipDeeds (cursor : Cursor Script) : List Deed :=
  match cursor.phase with
  | .active _ held _ =>
    [.dropped (cursor.sources.position - 1) held, .access (.closed (cursor.sources.position - 1))]
  | _ => []

/-- What is done to serve a call, in order. -/
def deeds (call : Call) (cursor : Cursor Script) : List Deed :=
  match call with
  | .ask (.read (some count)) => cursor.gatherDeeds count
  | .ask (.read none) => cursor.gatherRestDeeds
  | .ask .readToEnd => cursor.gatherRestDeeds
  | .ask .readByte =>
    let delivery := cursor.readUnit (Inlet.takeUpTo 1)
    cursor.unitDeeds delivery.next delivery.got
  | .ask .readLine => cursor.lineDeeds
  | .ask .readLineBytes => cursor.lineDeeds
  | .ask .skip => cursor.skipDeeds
  | .plainRead room =>
    let delivery := Seamless.read room cursor
    cursor.unitDeeds delivery.next delivery.got
  | .fillConsume count =>
    let delivery := Seamless.fill cursor
    cursor.unitDeeds delivery.next (delivery.got.take count)

/-- What is done in a run of calls, in order. -/
def deedsOf : List Call → Cursor Script → List Deed
  | [], _ => []
  | call :: rest, cursor => cursor.deeds call ++ deedsOf rest (cursor.deliver call).2

/-- What is done in a run is done in its first part, then in the rest. -/
theorem deedsOf_append (past rest : List Call) (cursor : Cursor Script) :
    cursor.deedsOf (past ++ rest)
      = cursor.deedsOf past ++ (Run.last deliver past cursor).deedsOf rest := by
  induction past generalizing cursor with
  | nil => rfl
  | cons call past ih =>
    show cursor.deeds call ++ (cursor.deliver call).2.deedsOf (past ++ rest) = _
    rw [ih, ← List.append_assoc]
    rfl

/-! ## What is shown -/

theorem drop_length_take (count : Nat) (bytes : Bytes) :
    bytes.drop (bytes.take count).length = bytes.drop count := by
  rw [List.length_take]
  rcases Nat.le_total count bytes.length with hle | hle
  · rw [Nat.min_eq_left hle]
  · rw [Nat.min_eq_right hle, List.drop_length, List.drop_eq_nil_of_le hle]

theorem consume_zero (cursor : Cursor Script) : Seamless.consume 0 cursor = cursor := by
  unfold Seamless.consume
  split
  · rename_i hphase
    rw [List.drop_zero, ← hphase]
  · rfl

/-- Of what is shown so much is consumed. -/
theorem deliver_fillConsume (count : Nat) (cursor : Cursor Script) :
    (cursor.deliver (.fillConsume count)).2
      = Seamless.consume ((Seamless.fill cursor).got.take count).length (Seamless.fill cursor).next := by
  have hnone : ∀ error, (Seamless.fill cursor).fault = some error → (Seamless.fill cursor).got = [] :=
    fun error => got_readUnit_of_fault fun _ _ => Inlet.got_fill_of_fault
  unfold deliver
  simp only [serve]
  generalize Seamless.fill cursor = delivery at hnone ⊢
  obtain ⟨got, _ | error, next⟩ := delivery
  · rfl
  · rw [hnone error rfl, List.take_nil]
    exact (consume_zero next).symm

/-- Consuming is no deed. -/
theorem unitDeeds_consume (count : Nat) (cursor next : Cursor Script) (got : Bytes) :
    cursor.unitDeeds (Seamless.consume count next) got = cursor.unitDeeds next got := by
  unfold Seamless.consume
  split <;> rfl

/-! ## What is dropped -/

theorem not_dropped_of_unitDeeds {next : Cursor Script} {got : Bytes} {index : Nat} {held : Bytes} :
    .dropped index held ∉ cursor.unitDeeds next got := by
  intro hmem
  rcases List.mem_append.1 hmem with hmem | hmem
  · obtain ⟨noted, -, hdeed⟩ := List.mem_map.1 hmem
    cases hdeed
  · cases List.mem_singleton.1 hmem

theorem not_dropped_of_gatherDeeds (count : Nat) {index : Nat} {held : Bytes} :
    .dropped index held ∉ cursor.gatherDeeds count := by
  fun_induction gatherDeeds count cursor with
  | case1 => exact List.not_mem_nil
  | case2 => exact not_dropped_of_unitDeeds
  | case3 count cursor hcount delivery hgot _ ih =>
    exact fun hmem => (List.mem_append.1 hmem).elim not_dropped_of_unitDeeds ih

theorem not_dropped_of_gatherRestDeeds {index : Nat} {held : Bytes} :
    .dropped index held ∉ cursor.gatherRestDeeds := by
  fun_induction gatherRestDeeds cursor with
  | case1 => exact not_dropped_of_unitDeeds
  | case2 => exact not_dropped_of_unitDeeds
  | case3 cursor delivery hfault hgot _ ih =>
    exact fun hmem => (List.mem_append.1 hmem).elim not_dropped_of_unitDeeds ih

/-- Only a skip drops anything. -/
theorem skip_of_dropped {call : Call} {index : Nat} {held : Bytes}
    (hmem : .dropped index held ∈ cursor.deeds call) : call = .ask .skip := by
  match call with
  | .ask .skip => rfl
  | .ask (.read (some count)) => exact absurd hmem (not_dropped_of_gatherDeeds count)
  | .ask (.read none) | .ask .readToEnd => exact absurd hmem not_dropped_of_gatherRestDeeds
  | .ask .readByte | .ask .readLine | .ask .readLineBytes | .plainRead room | .fillConsume count =>
    exact absurd hmem not_dropped_of_unitDeeds

theorem skip_mem_of_dropped {calls : List Call} {index : Nat} {held : Bytes}
    (hmem : .dropped index held ∈ cursor.deedsOf calls) : .ask .skip ∈ calls := by
  induction calls generalizing cursor with
  | nil => cases hmem
  | cons call rest ih =>
    rcases List.mem_append.1 hmem with hmem | hmem
    · exact skip_of_dropped hmem ▸ List.mem_cons_self
    · exact List.mem_cons_of_mem call (ih hmem)

/-! ## What is done for a unit -/

/-- In front of an access that is done for a unit there are only accesses. -/
theorem accesses_of_unitDeeds {next : Cursor Script} {got : Bytes} {before after : List Deed}
    {noted : Access} (hdeeds : cursor.unitDeeds next got = before ++ .access noted :: after) :
    noted ∈ next.journal ∧ ∃ earlier : List Access, before = earlier.map .access := by
  rw [unitDeeds] at hdeeds
  rcases List.append_eq_append_iff.1 hdeeds with ⟨front, -, hserved⟩ | ⟨back, hbefore, hback⟩
  · cases front with
    | nil => cases hserved
    | cons deed front => exact absurd (List.cons_eq_cons.1 hserved).2 (by simp)
  · obtain ⟨earlier, rest, haccesses, rfl, rfl⟩ := List.map_eq_append_iff.1 hbefore
    cases rest with
    | nil => cases hback
    | cons given rest =>
      cases hback
      have hmem : noted ∈ next.journal.drop cursor.journal.length := by
        rw [haccesses]
        exact List.mem_append_right _ List.mem_cons_self
      exact ⟨List.mem_of_mem_drop hmem, earlier, rfl⟩

/-! ## What is handed over -/

/-- Of the bytes of one unit, that unit tells. -/
theorem flatMap_unitDeeds {bytesOf : Deed → Bytes} (hnone : ∀ noted, bytesOf (.access noted) = [])
    (cursor next : Cursor Script) (got : Bytes) :
    (cursor.unitDeeds next got).flatMap bytesOf
      = bytesOf (.served (next.sources.position - 1) got) := by
  rw [unitDeeds, List.flatMap_append, Deed.flatMap_access hnone]
  exact List.append_nil _

@[simp] theorem got_unitDeeds (cursor next : Cursor Script) (got : Bytes) :
    (cursor.unitDeeds next got).flatMap Deed.got = got :=
  flatMap_unitDeeds (fun _ => rfl) cursor next got

theorem got_gatherDeeds (count : Nat) (cursor : Cursor Script) :
    (cursor.gatherDeeds count).flatMap Deed.got = (cursor.gather count).got := by
  fun_induction gatherDeeds count cursor with
  | case1 =>
    rw [gather_zero]
    rfl
  | case2 count cursor hcount delivery hgot =>
    rw [gather_of_nil hcount hgot, got_unitDeeds]
  | case3 count cursor hcount delivery hgot _ ih =>
    rw [gather_of_got hcount hgot, List.flatMap_append, got_unitDeeds, ih]
    rfl

theorem got_gatherRestDeeds (cursor : Cursor Script) :
    cursor.gatherRestDeeds.flatMap Deed.got = cursor.gatherRest.got := by
  fun_induction gatherRestDeeds cursor with
  | case1 cursor delivery hfault =>
    rw [gatherRest_of_stop (.inl hfault), got_unitDeeds]
  | case2 cursor delivery hfault hgot =>
    rw [gatherRest_of_stop (.inr hgot), got_unitDeeds]
  | case3 cursor delivery hfault hgot _ ih =>
    rw [gatherRest_of_got (Option.not_isSome_iff_eq_none.1 hfault) hgot, List.flatMap_append,
      got_unitDeeds, ih]
    rfl

end Cursor

/-- An answer hands over the bytes served, and no others; a failure hands over none, or reports that the
line served is not UTF-8. -/
def HandsOver (answer : Except Failure Response) (deeds : List Deed) : Prop :=
  match answer with
  | .ok response => deeds.flatMap Deed.got = response.content
  | .error failure => deeds.flatMap Deed.got = [] ∨ ∃ id fault,
      failure = .source (.ofReading id (.malformed fault))
        ∧ Utf8.decode (deeds.flatMap Deed.got) = .error fault

section Answers

variable {delivery : Delivery Script} {deeds : List Deed}

/-- What a failure is held back for is handed over. -/
theorem handsOver_holdBack {respond : Bytes → Response} (hcontent : ∀ got, (respond got).content = got)
    (hserved : deeds.flatMap Deed.got = delivery.got) :
    HandsOver ((delivery.holdBack.1.map respond).mapError .source) deeds := by
  obtain ⟨got, _ | error, next⟩ := delivery
  · exact hserved.trans (hcontent got).symm
  · cases got with
    | nil => exact Or.inl hserved
    | cons b got => exact hserved.trans (hcontent _).symm

theorem handsOver_answer (hnone : ∀ error, delivery.fault = some error → delivery.got = [])
    (hserved : deeds.flatMap Deed.got = delivery.got) : HandsOver delivery.answer.1 deeds := by
  obtain ⟨got, _ | error, next⟩ := delivery
  · exact hserved
  · exact Or.inl (hserved.trans (hnone error rfl))

end Answers

namespace Cursor

variable {cursor : Cursor Script}

@[simp] theorem got_lineDeeds (cursor : Cursor Script) :
    cursor.lineDeeds.flatMap Deed.got = lineGot (cursor.readUnit (Inlet.readUntil newline)) :=
  got_unitDeeds ..

/-- A line is handed over, unless a failure cuts it off or it is not UTF-8. -/
theorem handsOver_readLine (cursor : Cursor Script) :
    HandsOver ((cursor.readLine.1.map .line).mapError .source) cursor.lineDeeds := by
  have hserved := cursor.got_lineDeeds
  cases hfault : (cursor.readUnit (Inlet.readUntil newline)).fault with
  | some error =>
    rw [lineGot, hfault] at hserved
    rw [readLine_of_fault hfault]
    exact Or.inl hserved
  | none =>
    rw [lineGot, hfault] at hserved
    by_cases hgot : (cursor.readUnit (Inlet.readUntil newline)).got = []
    · rw [readLine_of_nil hfault hgot]
      exact hserved.trans hgot
    · cases hdecode : Utf8.decode (cursor.readUnit (Inlet.readUntil newline)).got with
      | ok text =>
        rw [readLine_of_text hfault hgot hdecode]
        exact hserved.trans (Utf8.decode_ok_iff.1 hdecode).symm
      | error fault =>
        rw [readLine_of_malformed hfault hgot hdecode]
        exact Or.inr ⟨_, fault, rfl, hserved ▸ hdecode⟩

theorem handsOver_readLineBytes (cursor : Cursor Script) :
    HandsOver ((cursor.readLineBytes.1.map .bytes).mapError .source) cursor.lineDeeds := by
  have hserved := cursor.got_lineDeeds
  cases hfault : (cursor.readUnit (Inlet.readUntil newline)).fault with
  | some error =>
    rw [lineGot, hfault] at hserved
    rw [readLineBytes_of_fault hfault]
    exact Or.inl hserved
  | none =>
    rw [lineGot, hfault] at hserved
    by_cases hgot : (cursor.readUnit (Inlet.readUntil newline)).got = []
    · rw [readLineBytes_of_nil hfault hgot]
      exact hserved.trans hgot
    · rw [readLineBytes_of_line hfault hgot]
      exact hserved

theorem handsOver_read (count : Nat) (cursor : Cursor Script) :
    HandsOver (((cursor.read count).1.map .bytes).mapError .source) (cursor.gatherDeeds count) := by
  have hserved := got_gatherDeeds count cursor
  unfold read
  split
  · rename_i hcount
    rw [hcount, gather_zero] at hserved
    rw [hcount]
    exact hserved
  · have hheld := @handsOver_holdBack _ _ (fun got => .bytes (if got.isEmpty then none else some got))
      (fun got => by cases got <;> rfl) hserved
    generalize (cursor.gather count).holdBack = step at hheld ⊢
    obtain ⟨_ | got, next⟩ := step <;> exact hheld

theorem handsOver_readByte (cursor : Cursor Script) :
    HandsOver ((cursor.readByte.1.map .byte).mapError .source) (cursor.deeds (.ask .readByte)) := by
  have hserved : (cursor.deeds (.ask .readByte)).flatMap Deed.got
      = (cursor.readUnit (Inlet.takeUpTo 1)).got := got_unitDeeds ..
  have hnone : ∀ error, (cursor.readUnit (Inlet.takeUpTo 1)).fault = some error →
      (cursor.readUnit (Inlet.takeUpTo 1)).got = [] :=
    fun error => got_readUnit_of_fault fun _ _ => Inlet.got_takeUpTo_of_fault
  have hlength : (cursor.readUnit (Inlet.takeUpTo 1)).got.length ≤ 1 :=
    length_got_readUnit (Inlet.length_got_takeUpTo 1)
  unfold readByte
  generalize cursor.readUnit (Inlet.takeUpTo 1) = delivery at hserved hnone hlength ⊢
  obtain ⟨got, _ | error, next⟩ := delivery
  · exact hserved.trans (toList_head?_of_length hlength).symm
  · exact Or.inl (hserved.trans (hnone error rfl))

/-- What is skipped is not served. -/
theorem handsOver_skip (cursor : Cursor Script) : HandsOver (.ok .done) cursor.skipDeeds := by
  show cursor.skipDeeds.flatMap Deed.got = []
  unfold skipDeeds
  split <;> rfl

theorem handsOver_plainRead (room : Nat) (cursor : Cursor Script) :
    HandsOver (Seamless.read room cursor).answer.1 (cursor.deeds (.plainRead room)) := by
  refine handsOver_answer (fun error hfault => ?_) (got_unitDeeds ..)
  unfold Seamless.read at hfault ⊢
  split
  · rfl
  · rename_i hroom
    rw [if_neg hroom] at hfault
    exact got_readUnit_of_fault (fun _ _ => Inlet.got_read_of_fault) hfault

/-- Of what is shown, what is consumed is handed over. -/
theorem handsOver_fillConsume (count : Nat) (cursor : Cursor Script) :
    HandsOver (cursor.deliver (.fillConsume count)).1 (cursor.deeds (.fillConsume count)) := by
  have hserved : (cursor.deeds (.fillConsume count)).flatMap Deed.got
      = (Seamless.fill cursor).got.take count := got_unitDeeds ..
  have hnone : ∀ error, (Seamless.fill cursor).fault = some error → (Seamless.fill cursor).got = [] :=
    fun error => got_readUnit_of_fault fun _ _ => Inlet.got_fill_of_fault
  unfold deliver
  simp only [serve]
  generalize Seamless.fill cursor = delivery at hserved hnone ⊢
  obtain ⟨got, _ | error, next⟩ := delivery
  · exact hserved
  · rw [hnone error rfl, List.take_nil] at hserved
    exact Or.inl hserved

/-- **Every answer hands over the bytes served for it, and no others.** -/
theorem handsOver_deliver (call : Call) (cursor : Cursor Script) :
    HandsOver (cursor.deliver call).1 (cursor.deeds call) := by
  match call with
  | .ask (.read (some count)) => exact handsOver_read count cursor
  | .ask (.read none) => exact handsOver_holdBack (fun _ => rfl) cursor.got_gatherRestDeeds
  | .ask .readToEnd => exact handsOver_holdBack (fun _ => rfl) cursor.got_gatherRestDeeds
  | .ask .readByte => exact cursor.handsOver_readByte
  | .ask .readLine => exact cursor.handsOver_readLine
  | .ask .readLineBytes => exact cursor.handsOver_readLineBytes
  | .ask .skip => exact cursor.handsOver_skip
  | .plainRead room => exact handsOver_plainRead room cursor
  | .fillConsume count => exact handsOver_fillConsume count cursor

end Cursor

end InputChain
