import InputChain.Proofs.Units

/-!
# The first end of a reader

A reader that answers with nothing has come to an end, though it may have more to give when it is
asked again. Cut at its first end, it has not. A read that has bytes in hand when it comes to an end
gives them and leaves the source open, and is then the one read that goes on past an end.

* `Script.cut`: the reader that has ended for good at its first end.
* `passesEnd`, `resumesFrom`, `Script.resumes`: some read goes on past an end.
* `Script.read_cut`, `Script.resumesAfter_read`: one request.
* `Script.drain_cut`: reading to the end.
* `Script.resumesAfter_some`, `Script.drain_of_goesOnThrough`: where an end is passed, and what is
  behind it.
* `Script.Unfailing`: readers that never fail.
-/

namespace InputChain

/-! ## Readers -/

/-- The answers in front of the first end; behind them the reader has ended for good if there is an
end, and else does what it did before. -/
def cutFrom (thereafter : Option IoError) : List Answer → Script
  | [] => ⟨[], thereafter⟩
  | .fault error :: rest =>
    let ended := cutFrom thereafter rest
    { ended with answers := .fault error :: ended.answers }
  | .bytes content :: rest =>
    if content.isEmpty then ⟨[], none⟩
    else
      let ended := cutFrom thereafter rest
      { ended with answers := .bytes content :: ended.answers }

namespace Script

/-- The reader that has ended for good where it first ends. -/
def cut (script : Script) : Script :=
  cutFrom script.thereafter script.answers

/-- Whether the next request is answered with bytes or with a failure. -/
def goesOn (script : Script) : Bool :=
  match script.answers with
  | [] => script.thereafter.isSome
  | .fault _ :: _ => true
  | .bytes content :: _ => !content.isEmpty

/-- The reader with the interruptions in front of its next answer left out. -/
def awake (script : Script) : Script :=
  { script with answers := script.answers.dropWhile isInterruption }

/-- Whether the next request is so answered if it is made again when it is interrupted. -/
def goesOnThrough (script : Script) : Bool :=
  script.awake.goesOn

end Script

/-- Whether a read with bytes in hand, of which this is the last, leaves the source open at an end
behind which there is more: a read to the end does if there is anything but interruptions, and a read
of a line if there is anything at all. Lines do not go on past a line end. -/
def passesEnd (last : UInt8) (script : Script) : Bool :=
  script.goesOnThrough || (last != newline && script.goesOn)

/-- Whether some read comes to an end behind which there is more with bytes in hand. A failure that
is no interruption leaves no bytes in hand. -/
def resumesFrom (thereafter : Option IoError) : (last : Option UInt8) → List Answer → Bool
  | _, [] => false
  | last, .fault error :: rest =>
    resumesFrom thereafter (if error.isInterrupted then last else none) rest
  | last, .bytes content :: rest =>
    if content.isEmpty then last.any (passesEnd · ⟨rest, thereafter⟩)
    else resumesFrom thereafter content.getLast? rest

namespace Script

/-- Whether some read goes on past an end of the reader, with this byte the last in hand at first. -/
def resumesAfter (last : Option UInt8) (script : Script) : Bool :=
  resumesFrom script.thereafter last script.answers

/-- Whether some read goes on past an end of the reader. -/
def resumes (script : Script) : Bool :=
  script.resumesAfter none

variable {thereafter : Option IoError}

/-! ### Interruptions -/

theorem cutFrom_dropWhile (answers : List Answer) :
    cutFrom thereafter (answers.dropWhile isInterruption)
      = { cutFrom thereafter answers with
          answers := (cutFrom thereafter answers).answers.dropWhile isInterruption } := by
  induction answers with
  | nil => rfl
  | cons answer rest ih =>
    match answer with
    | .fault error =>
      by_cases herror : error.isInterrupted <;>
        simp [cutFrom, isInterruption, herror, ih]
    | .bytes content =>
      by_cases hcontent : content = [] <;>
        simp [cutFrom, isInterruption, hcontent]

theorem resumesFrom_dropWhile (last : Option UInt8) (answers : List Answer) :
    resumesFrom thereafter last (answers.dropWhile isInterruption)
      = resumesFrom thereafter last answers := by
  induction answers with
  | nil => rfl
  | cons answer rest ih =>
    match answer with
    | .fault error =>
      by_cases herror : error.isInterrupted <;>
        simp [resumesFrom, isInterruption, herror, ih]
    | .bytes content => rfl

/-! ### One request -/

theorem cut_fault (error : IoError) (rest : List Answer) :
    cut ⟨.fault error :: rest, thereafter⟩
      = ⟨.fault error :: (cut ⟨rest, thereafter⟩).answers, (cut ⟨rest, thereafter⟩).thereafter⟩ :=
  rfl

theorem cut_bytes {content : Bytes} (hcontent : content ≠ []) (rest : List Answer) :
    cut ⟨.bytes content :: rest, thereafter⟩
      = ⟨.bytes content :: (cut ⟨rest, thereafter⟩).answers,
          (cut ⟨rest, thereafter⟩).thereafter⟩ := by
  rw [cut, cutFrom, if_neg (by simpa using hcontent)]
  rfl

/-- With bytes in hand a read can only go on past more ends. -/
theorem resumesFrom_of_none {last : Option UInt8} {answers : List Answer}
    (h : resumesFrom thereafter none answers) : resumesFrom thereafter last answers := by
  induction answers with
  | nil => exact h
  | cons answer rest ih =>
    match answer with
    | .fault error =>
      rw [resumesFrom, ite_self] at h
      rw [resumesFrom]
      split
      · exact ih h
      · exact h
    | .bytes content =>
      rw [resumesFrom] at h ⊢
      split at h
      · cases h
      · rename_i hcontent
        rwa [if_neg hcontent]

/-- Behind an end at which nothing goes on, the reader has ended. -/
theorem cut_of_not_goesOn {script : Script} (h : script.goesOn = false) :
    script.cut = ⟨[], none⟩ := by
  obtain ⟨answers, thereafter⟩ := script
  match answers, thereafter with
  | [], none => rfl
  | [], some error => cases h
  | .fault error :: rest, _ => cases h
  | .bytes [] :: rest, _ => rfl
  | .bytes (b :: content) :: rest, _ => cases h

theorem resumes_of_not_goesOn {script : Script} (h : script.goesOn = false) :
    script.resumes = false := by
  obtain ⟨answers, thereafter⟩ := script
  match answers with
  | [] => rfl
  | .fault error :: rest => cases h
  | .bytes [] :: rest => rfl
  | .bytes (b :: content) :: rest => cases h

variable {room : Nat} {script : Script}

theorem resumes_of_resumesAfter {last : Option UInt8} (h : script.resumesAfter last = false) :
    script.resumes = false :=
  Bool.eq_false_iff.2 fun hnone => Bool.eq_false_iff.1 h (resumesFrom_of_none hnone)

/-- A request is served alike by the reader and by what it is cut to. -/
theorem read_cut (room : Nat) (script : Script) :
    (script.cut.read room).got = (script.read room).got
      ∧ (script.cut.read room).fault = (script.read room).fault
      ∧ ((script.read room).got ≠ [] ∨ (script.read room).fault.isSome →
          (script.cut.read room).next = (script.read room).next.cut) := by
  obtain ⟨answers, thereafter⟩ := script
  by_cases hroom : room = 0
  · simp [read, hroom]
  · match answers with
    | [] => simp [read, hroom, cut, cutFrom]
    | .fault error :: rest => simp [read, hroom, cut, cutFrom]
    | .bytes content :: rest =>
      by_cases hcontent : content = []
      · simp [read, hroom, cut, cutFrom, hcontent]
      · by_cases hfits : content.length ≤ room
        · simp [read, hroom, cut, cutFrom, hcontent, hfits]
        · have hdrop : content.drop room ≠ [] := by simpa using hfits
          simp [read, hroom, cut, cutFrom, hcontent, hfits]

/-- A request that gives bytes or fails leaves the reader with the same ends to go on past. -/
theorem resumesAfter_read (hroom : room ≠ 0)
    (hread : (script.read room).got ≠ [] ∨ (script.read room).fault.isSome) :
    (script.read room).next.resumesAfter (script.read room).got.getLast? = script.resumes := by
  obtain ⟨answers, thereafter⟩ := script
  match answers with
  | [] => simp [read, hroom, resumesAfter, resumes]
  | .fault error :: rest => simp [read, hroom, resumesAfter, resumes, resumesFrom]
  | .bytes content :: rest =>
    by_cases hcontent : content = []
    · simp [read, hroom, hcontent] at hread
    · by_cases hfits : content.length ≤ room
      · simp [read, hroom, resumesAfter, resumes, resumesFrom, hcontent, hfits]
      · simp [read, hroom, resumesAfter, resumes, resumesFrom, hcontent, hfits, List.getLast?_drop]

theorem cut_awake (script : Script) : script.awake.cut = script.cut.awake :=
  cutFrom_dropWhile script.answers

theorem resumesAfter_awake (last : Option UInt8) (script : Script) :
    script.awake.resumesAfter last = script.resumesAfter last :=
  resumesFrom_dropWhile last script.answers

/-- A request that comes to an end with the bytes of a line in hand leaves a reader that has ended. -/
theorem read_cut_of_end {last : UInt8} (hlast : last ≠ newline)
    (h : script.resumesAfter (some last) = false) (hgot : (script.read room).got = [])
    (hfault : (script.read room).fault = none) (hroom : room ≠ 0) :
    (script.cut.read room).next = (script.read room).next.cut
      ∧ (script.read room).next.resumes = false := by
  obtain ⟨answers, thereafter⟩ := script
  match answers with
  | [] =>
    simp only [read, if_neg hroom] at hfault
    subst hfault
    simp [read, hroom, cut, cutFrom, resumes, resumesAfter, resumesFrom]
  | .fault error :: rest => simp [read, hroom] at hfault
  | .bytes content :: rest =>
    by_cases hcontent : content = []
    · subst hcontent
      have hpasses : passesEnd last ⟨rest, thereafter⟩ = false := h
      have hends : goesOn ⟨rest, thereafter⟩ = false := by
        simpa [hlast] using (Bool.or_eq_false_iff.1 hpasses).2
      have hread : (read room ⟨.bytes [] :: rest, thereafter⟩).next = ⟨rest, thereafter⟩ := by
        simp [read, hroom]
      rw [hread, cut_of_not_goesOn hends]
      refine ⟨?_, resumes_of_not_goesOn hends⟩
      simp [read, hroom, cut, cutFrom]
    · by_cases hfits : content.length ≤ room
      · simp [read, hroom, hcontent, hfits] at hgot
      · simp [read, hroom, hcontent, hfits] at hgot

/-! ### Reading to the end -/

theorem drain_go_congr (script : Script) (answers behind : List Answer) :
    drain.go script answers = drain.go ⟨behind, script.thereafter⟩ answers := by
  induction answers with
  | nil => rfl
  | cons answer rest ih =>
    match answer with
    | .fault error => simp only [drain.go, ih]
    | .bytes content => simp only [drain.go, ih]

theorem drain_fault (error : IoError) (rest : List Answer) :
    drain ⟨.fault error :: rest, thereafter⟩
      = if error.isInterrupted then drain ⟨rest, thereafter⟩
        else ⟨[], some error, ⟨rest, thereafter⟩⟩ := by
  rw [drain, drain.go, drain, drain_go_congr _ rest rest]

theorem drain_bytes {content : Bytes} (hcontent : content ≠ []) (rest : List Answer) :
    drain ⟨.bytes content :: rest, thereafter⟩ = (drain ⟨rest, thereafter⟩).after content := by
  rw [drain, drain.go, if_neg (by simpa using hcontent), drain, drain_go_congr _ rest rest]
  rfl

theorem drain_awake (script : Script) : script.awake.drain = script.drain := by
  obtain ⟨answers, thereafter⟩ := script
  induction answers with
  | nil => rfl
  | cons answer rest ih =>
    match answer with
    | .fault error =>
      rw [drain_fault]
      by_cases herror : error.isInterrupted
      · rw [if_pos herror, ← ih, awake, awake]
        simp only [List.dropWhile_cons, isInterruption, herror, if_true]
      · rw [if_neg herror, awake]
        simp only [List.dropWhile_cons, isInterruption, herror, Bool.false_eq_true, if_false]
        rw [drain_fault, if_neg herror]
    | .bytes content => rfl

/-- Unless the reader resumes, it is read to its end alike, cut or not. After a read that came to an
end with bytes in hand, neither has anything more for a read to the end. -/
theorem drain_cut {last : Option UInt8} (h : script.resumesAfter last = false) :
    script.cut.drain.got = script.drain.got
      ∧ script.cut.drain.fault = script.drain.fault
      ∧ (script.drain.fault.isSome → script.cut.drain.next = script.drain.next.cut
          ∧ script.drain.next.resumes = false)
      ∧ (script.drain.fault = none → last.isSome ∨ script.drain.got ≠ [] →
          script.drain.next.goesOnThrough = false
            ∧ script.cut.drain.next.goesOnThrough = false) := by
  obtain ⟨answers, thereafter⟩ := script
  induction answers generalizing last with
  | nil =>
    cases thereafter with
    | none => exact ⟨rfl, rfl, fun hfault => (nomatch hfault), fun _ _ => ⟨rfl, rfl⟩⟩
    | some error => exact ⟨rfl, rfl, fun _ => ⟨rfl, rfl⟩, fun hfault => (nomatch hfault)⟩
  | cons answer rest ih =>
    match answer with
    | .fault error =>
      rw [cut_fault, drain_fault, drain_fault]
      by_cases herror : error.isInterrupted
      · rw [if_pos herror, if_pos herror]
        refine ih ?_
        rwa [resumesAfter, resumesFrom, if_pos herror] at h
      · rw [if_neg herror, if_neg herror]
        rw [resumesAfter, resumesFrom, if_neg herror] at h
        exact ⟨rfl, rfl, fun _ => ⟨rfl, h⟩, fun hfault => (nomatch hfault)⟩
    | .bytes [] =>
      refine ⟨rfl, rfl, fun hfault => (nomatch hfault), fun _ hlast => ⟨?_, rfl⟩⟩
      cases last with
      | none => exact (hlast.elim Bool.noConfusion fun hgot => hgot rfl).elim
      | some b =>
        have hpasses : passesEnd b ⟨rest, thereafter⟩ = false := h
        exact (Bool.or_eq_false_iff.1 hpasses).1
    | .bytes (b :: content) =>
      have hcontent : b :: content ≠ [] := List.cons_ne_nil b content
      rw [cut_bytes hcontent, drain_bytes hcontent, drain_bytes hcontent]
      obtain ⟨hgot, hfault, hfailed, hspent⟩ := @ih (b :: content).getLast? h
      refine ⟨congrArg (_ ++ ·) hgot, hfault, hfailed, fun hnone _ => hspent hnone (Or.inl ?_)⟩
      rw [List.getLast?_cons]
      rfl

/-! ### In front of an end -/

variable {rest : List Answer}

theorem awake_of_answers (h : script.awake.answers = .bytes [] :: rest) :
    script.awake = ⟨.bytes [] :: rest, script.thereafter⟩ := by
  rw [← h]
  rfl

/-- Right in front of an end but for interruptions, a read to the end gives nothing. -/
theorem drain_of_awake (h : script.awake.answers = .bytes [] :: rest) :
    script.drain = ⟨[], none, ⟨rest, script.thereafter⟩⟩ := by
  rw [← drain_awake, awake_of_answers h]
  rfl

/-- So does it over the reader cut there, which has then ended. -/
theorem drain_cut_of_awake (h : script.awake.answers = .bytes [] :: rest) :
    script.cut.drain = ⟨[], none, ⟨[], none⟩⟩ := by
  rw [← drain_awake, ← cut_awake, awake_of_answers h]
  rfl

/-- What goes on is given by a read to the end. -/
theorem drain_of_goesOnThrough (h : script.goesOnThrough) :
    script.drain.got ≠ [] ∨ script.drain.fault.isSome := by
  obtain ⟨answers, thereafter⟩ := script
  have hhead := List.head?_dropWhile_not isInterruption answers
  rw [goesOnThrough, awake] at h
  rw [← drain_awake, awake]
  simp only at h ⊢
  generalize answers.dropWhile isInterruption = awoken at h hhead ⊢
  match awoken with
  | [] => exact Or.inr h
  | .fault error :: rest =>
    have hawake : error.isInterrupted = false := hhead
    rw [drain_fault, if_neg (Bool.eq_false_iff.1 hawake)]
    exact Or.inr rfl
  | .bytes [] :: rest => cases h
  | .bytes (b :: content) :: rest =>
    rw [drain_bytes (List.cons_ne_nil b content)]
    exact Or.inl (List.cons_ne_nil b _)

theorem read_of_goesOn {room : Nat} (hroom : room ≠ 0) (h : script.goesOn) :
    (script.read room).got ≠ [] ∨ (script.read room).fault.isSome := by
  obtain ⟨answers, thereafter⟩ := script
  match answers with
  | [] => exact Or.inr (by rwa [read, if_neg hroom])
  | .fault error :: rest => exact Or.inr (by rw [read, if_neg hroom]; rfl)
  | .bytes [] :: rest => cases h
  | .bytes (b :: content) :: rest =>
    refine Or.inl ?_
    simp only [read, if_neg hroom]
    split
    · exact List.cons_ne_nil b content
    · simpa using hroom

/-- With bytes in hand some read goes on past an end right behind them or past one further on. -/
theorem resumesAfter_some {last : UInt8} (h : script.resumesAfter (some last)) :
    (∃ rest, script.awake.answers = .bytes [] :: rest ∧ passesEnd last ⟨rest, script.thereafter⟩)
      ∨ script.resumes := by
  rw [resumes, ← resumesAfter_awake]
  rw [← resumesAfter_awake] at h
  obtain ⟨answers, thereafter⟩ := script
  have hhead := List.head?_dropWhile_not isInterruption answers
  simp only [awake, resumesAfter] at h ⊢
  generalize answers.dropWhile isInterruption = awoken at h hhead ⊢
  match awoken with
  | [] => cases h
  | .fault error :: rest =>
    have hawake : error.isInterrupted = false := hhead
    rw [resumesFrom, hawake] at h
    rw [resumesFrom, hawake]
    exact Or.inr h
  | .bytes [] :: rest => exact Or.inl ⟨rest, rfl, h⟩
  | .bytes (b :: content) :: rest => exact Or.inr h

theorem goesOn_of_resumes (h : script.resumes) : script.goesOn := by
  cases hgoes : script.goesOn with
  | true => rfl
  | false => exact (resumes_of_not_goesOn hgoes).symm.trans h

/-- A request is answered, or bytes are taken of what answers it. -/
theorem supply_read_lt {room : Nat} (hroom : room ≠ 0) (hgoes : script.goesOn)
    (hresumes : script.resumes) :
    2 * (script.read room).next.supply + (script.read room).got.length < 2 * script.supply := by
  obtain ⟨answers, thereafter⟩ := script
  match answers with
  | [] => cases hresumes
  | .fault error :: rest => simp [read, hroom, supply, weight]
  | .bytes [] :: rest => cases hgoes
  | .bytes (b :: content) :: rest =>
    simp only [read, if_neg hroom]
    split
    · simp only [supply, weight]
      omega
    · simp only [supply, weight, List.length_drop, List.length_take]
      omega

/-! ### Readers that never fail -/

/-- The reader never fails. -/
def Unfailing (script : Script) : Prop :=
  script.thereafter = none ∧ ∀ answer ∈ script.answers, ∃ content, answer = .bytes content

variable {answer : Answer}

theorem Unfailing.tail (h : Unfailing ⟨answer :: rest, thereafter⟩) :
    Unfailing ⟨rest, thereafter⟩ :=
  ⟨h.1, fun given hgiven => h.2 given (List.mem_cons_of_mem answer hgiven)⟩

theorem Unfailing.drain (h : script.Unfailing) :
    script.drain.fault = none ∧ script.drain.next.Unfailing := by
  obtain ⟨answers, thereafter⟩ := script
  induction answers with
  | nil => exact ⟨h.1, h⟩
  | cons answer rest ih =>
    obtain ⟨content, rfl⟩ := h.2 answer List.mem_cons_self
    by_cases hcontent : content = []
    · subst hcontent
      exact ⟨rfl, h.tail⟩
    · rw [drain_bytes hcontent]
      exact ih h.tail

/-- Nothing interrupts a reader that never fails. -/
theorem Unfailing.awake (h : script.Unfailing) : script.awake = script := by
  obtain ⟨answers, thereafter⟩ := script
  cases answers with
  | nil => rfl
  | cons answer rest =>
    obtain ⟨content, rfl⟩ := h.2 answer List.mem_cons_self
    rfl

end Script

end InputChain
