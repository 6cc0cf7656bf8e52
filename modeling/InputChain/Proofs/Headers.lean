import InputChain.Proofs.FirstLines
import InputChain.Proofs.StreamEnd

/-!
# Where a header begins

A header is written right behind the line that was printed last. Lines are printed as they are read, so a last line
without a line end leaves none behind it, and the header of the next source goes on in the same line of output.

* `BeginsLine`, `Heads.Headed`, `headed_writes`: no header is written without a line behind it.
* `EndsInLine`, `Heads.Headed.endsInLine`: so every header but the first write has a line in front of it.
* **`beginsLine_of_headed`**: a header begins a line just if the line in front of it ends in a line end.
* `sections`, `Front.EndsOpen`, **`Front.getLast?_excerpt`**: the sources with a header, and those that leave a line
  open.
* **`header_begins_line_iff`**: in terms of the writes, and of the sources.
-/

namespace InputChain

open Heads (Write)

/-- What is written behind these bytes begins a line: nothing is written in front of it, or a line end. -/
def BeginsLine (before : Bytes) : Prop :=
  before = [] ∨ before.getLast? = some newline

instance (before : Bytes) : Decidable (BeginsLine before) :=
  inferInstanceAs (Decidable (_ ∨ _))

/-! ## Headers and lines -/

/-- Every header has a line right behind it, and no line is empty. -/
inductive Heads.Headed : List Write → Prop where
  | nil : Headed []
  | line {bytes : Bytes} {rest : List Write} (hbytes : bytes ≠ []) (hrest : Headed rest) :
      Headed (.line bytes :: rest)
  | header {id : String} {bytes : Bytes} {rest : List Write} (hbytes : bytes ≠ []) (hrest : Headed rest) :
      Headed (.header id :: .line bytes :: rest)

open Heads (Headed)

/-- **A header is only written with a line behind it**, whatever the sources are. -/
theorem headed_writes (limit : Nat) (current : Option Nat) (printed : Nat) (cursor : Cursor Script) :
    Headed (Heads.writes limit current printed cursor).1 := by
  fun_induction Heads.writes limit current printed cursor with
  | case1 => exact .nil
  | case2 => exact .nil
  | case3 current printed cursor line after hread count _ rest fault hrest ih =>
    rw [hrest] at ih
    have hline : line ≠ [] := by
      rintro rfl
      exact Cursor.readLineBytes_ne_nil (congrArg Prod.fst hread)
    unfold Heads.lineAbove
    split
    · cases after.currentId? with
      | none => exact .line hline ih
      | some id => exact .header hline ih
    · exact .line hline ih

/-- The last of these writes, if there are any, is a line. -/
def EndsInLine (written : List Write) : Prop :=
  ∀ last ∈ written.getLast?, ∃ line, last = .line line ∧ line ≠ []

theorem EndsInLine.cons {line : Bytes} {written : List Write} (hline : line ≠ []) (h : EndsInLine written) :
    EndsInLine (.line line :: written) := by
  by_cases hwritten : written = []
  · subst hwritten
    rintro last ⟨⟩
    exact ⟨line, rfl, hline⟩
  · rw [EndsInLine, List.getLast?_cons_of_ne_nil hwritten]
    exact h

/-- So a line stands in front of every header but one that is written first. -/
theorem Heads.Headed.endsInLine {earlier later : List Write} {id : String}
    (h : Headed (earlier ++ .header id :: later)) : EndsInLine earlier := by
  generalize hwritten : earlier ++ .header id :: later = written at h
  induction h generalizing earlier with
  | nil => exact absurd hwritten (by simp)
  | line hbytes hrest ih =>
    match earlier with
    | [] => cases hwritten
    | first :: earlier =>
      obtain ⟨rfl, hrest⟩ := List.cons.inj hwritten
      exact (ih hrest).cons hbytes
  | header hbytes hrest ih =>
    match earlier with
    | [] => exact nofun
    | [first] => cases (List.cons.inj hwritten).2
    | first :: second :: earlier =>
      obtain ⟨-, hwritten⟩ := List.cons.inj hwritten
      obtain ⟨rfl, hrest⟩ := List.cons.inj hwritten
      rw [EndsInLine, List.getLast?_cons_of_ne_nil (List.cons_ne_nil _ _)]
      exact (ih hrest).cons hbytes

/-- Text ends as the last line of it. -/
theorem beginsLine_append_line {front : List Write} {line : Bytes} (hline : line ≠ []) :
    BeginsLine ((front ++ [Write.line line]).flatMap Write.text) ↔ line.getLast? = some newline := by
  have htext : (front ++ [Write.line line]).flatMap Write.text = front.flatMap Write.text ++ line := by
    rw [List.flatMap_append, List.flatMap_singleton]
    rfl
  have hlast : (front.flatMap Write.text ++ line).getLast? = line.getLast? := by
    rw [List.getLast?_append, List.getLast?_eq_some_getLast hline, Option.some_or]
  rw [BeginsLine, htext, hlast]
  exact or_iff_right fun hnil => hline (List.append_eq_nil_iff.1 hnil).2

/-- **A header begins a line just if the line in front of it ends in a line end.** -/
theorem beginsLine_of_headed {earlier later : List Write} {id : String}
    (h : Headed (earlier ++ .header id :: later)) :
    BeginsLine (earlier.flatMap Write.text)
      ↔ ∀ line, earlier.getLast? = some (.line line) → line.getLast? = some newline := by
  obtain rfl | ⟨front, last, rfl⟩ := List.eq_nil_or_concat earlier
  · exact iff_of_true (Or.inl rfl) nofun
  · rw [List.concat_eq_append] at h ⊢
    obtain ⟨line, rfl, hline⟩ := h.endsInLine _ List.getLast?_concat
    rw [beginsLine_append_line hline, List.getLast?_concat]
    constructor
    · rintro hended line' ⟨⟩
      exact hended
    · exact fun hended => hended line rfl

/-! ## Sources that leave a line open -/

/-- The sources of which lines are printed, up to the first failure that is met. -/
def sections (limit : Nat) : List (String × Front) → List (String × Front)
  | [] => []
  | (id, front) :: later =>
    match front.excerpt limit with
    | ([], some _) => []
    | ([], none) => sections limit later
    | (_ :: _, some _) => [(id, front)]
    | (_ :: _, none) => (id, front) :: sections limit later

/-- The writes of sources of which lines are printed. -/
def sectionWrites (limit : Nat) (fronts : List (String × Front)) : List Write :=
  fronts.flatMap fun entry => .header entry.1 :: (entry.2.excerpt limit).1.map .line

/-- The last line that is printed has no line end: all lines are printed, and the last has none. -/
def Front.EndsOpen (limit : Nat) (front : Front) : Prop :=
  front.fault = none ∧ (linesOf front.bytes).length ≤ limit ∧ front.bytes.getLast? ≠ some newline

instance (limit : Nat) (front : Front) : Decidable (front.EndsOpen limit) :=
  inferInstanceAs (Decidable (_ ∧ _))

theorem printout_eq_sections (limit : Nat) (fronts : List (String × Front)) :
    (printout limit fronts).1 = sectionWrites limit (sections limit fronts) := by
  fun_induction sections limit fronts with
  | case1 => rfl
  | case2 id front later error hexcerpt =>
    rw [printout_cons, Front.printed, hexcerpt]
    rfl
  | case3 id front later hexcerpt ih =>
    rw [printout_cons, Front.printed, hexcerpt]
    exact ih
  | case4 id front later line lines error hexcerpt =>
    rw [printout_cons, Front.printed, hexcerpt, sectionWrites, List.flatMap_singleton, hexcerpt]
    rfl
  | case5 id front later line lines hexcerpt ih =>
    rw [printout_cons, Front.printed, hexcerpt, sectionWrites, List.flatMap_cons, hexcerpt]
    simp only [underneath_cons]
    exact congrArg (_ ++ ·) ih

/-- Of a section lines are printed, and in a section with others behind it no failure is met. -/
theorem excerpt_of_sections {limit : Nat} {fronts earlier later : List (String × Front)} {entry : String × Front}
    (hsplit : sections limit fronts = earlier ++ entry :: later) :
    ∀ last ∈ earlier, ∃ lines line, last.2.excerpt limit = (lines ++ [line], none) := by
  fun_induction sections limit fronts generalizing earlier with
  | case1 => exact absurd hsplit.symm (by simp)
  | case2 => exact absurd hsplit.symm (by simp)
  | case3 id front later hexcerpt ih => exact ih hsplit
  | case4 id front later line lines error hexcerpt =>
    match earlier with
    | [] => exact nofun
    | first :: earlier => exact absurd (List.cons.inj hsplit).2.symm (by simp)
  | case5 id front later line lines hexcerpt ih =>
    match earlier with
    | [] => exact nofun
    | first :: earlier =>
      obtain ⟨rfl, hrest⟩ := List.cons.inj hsplit
      refine List.forall_mem_cons.2 ⟨?_, ih hrest⟩
      refine ⟨(line :: lines).dropLast, (line :: lines).getLast (List.cons_ne_nil line lines), ?_⟩
      rw [List.dropLast_concat_getLast]
      exact hexcerpt

/-- What is printed of a source are lines of it. -/
theorem Front.mem_linesOf_of_excerpt (limit : Nat) (front : Front) :
    ∀ line ∈ (front.excerpt limit).1, line ∈ linesOf front.bytes := by
  obtain ⟨bytes, _ | error⟩ := front
  · exact fun line hline => List.mem_of_mem_take hline
  · intro line hline
    rw [excerpt] at hline
    simp only at hline
    split at hline
    · exact (List.mem_filter.1 (List.mem_of_mem_take hline)).1
    · exact (List.mem_filter.1 hline).1

/-- **A source leaves a line open** just if it has no more lines than may be printed and the last has no line
end. -/
theorem Front.getLast?_excerpt {limit : Nat} {front : Front} {lines : List Bytes} {line : Bytes}
    (hexcerpt : front.excerpt limit = (lines ++ [line], none)) :
    line.getLast? = some newline ↔ ¬ front.EndsOpen limit := by
  obtain ⟨bytes, _ | error⟩ := front
  · have htake : (linesOf bytes).take limit = lines ++ [line] := congrArg Prod.fst hexcerpt
    rcases Nat.lt_or_ge limit (linesOf bytes).length with hmore | hall
    · have hline : line ∈ (linesOf bytes).dropLast := by
        have hshort : (linesOf bytes).dropLast.take limit = lines ++ [line] := by
          rw [List.dropLast_eq_take, List.take_take, Nat.min_eq_left (by omega), htake]
        exact List.mem_of_mem_take (hshort ▸ List.mem_append_right lines (List.mem_singleton_self line))
      exact iff_of_true ((areLines_linesOf bytes).ended line hline) fun hopen => Nat.not_le_of_lt hmore hopen.2.1
    · rw [List.take_of_length_le hall] at htake
      rw [← getLast?_of_linesOf htake]
      exact ⟨fun hended hopen => hopen.2.2 hended, fun hclosed => by
        by_contra hopen
        exact hclosed ⟨rfl, hall, hopen⟩⟩
  · -- in front of a failure only whole lines are printed
    refine iff_of_true ?_ fun hopen => (nomatch hopen.1)
    rw [excerpt] at hexcerpt
    simp only at hexcerpt
    split at hexcerpt
    · have hline : line ∈ lines ++ [line] := List.mem_append_right lines (List.mem_singleton_self line)
      rw [← (Prod.mk.inj hexcerpt).1] at hline
      simpa using (List.mem_filter.1 (List.mem_of_mem_take hline)).2
    · cases congrArg Prod.snd hexcerpt

/-- A header begins a line just if the section in front of it leaves none open. -/
theorem beginsLine_sectionWrites {limit : Nat} {earlier : List (String × Front)}
    (hexcerpt : ∀ last ∈ earlier, ∃ lines line, last.2.excerpt limit = (lines ++ [line], none)) :
    BeginsLine ((sectionWrites limit earlier).flatMap Write.text)
      ↔ ∀ last ∈ earlier.getLast?, ¬ last.2.EndsOpen limit := by
  obtain rfl | ⟨front, last, rfl⟩ := List.eq_nil_or_concat earlier
  · exact iff_of_true (Or.inl rfl) nofun
  · rw [List.concat_eq_append] at hexcerpt ⊢
    obtain ⟨lines, line, hlast⟩ := hexcerpt last (List.mem_append_right front (List.mem_singleton_self last))
    have hline : line ≠ [] := by
      refine (areLines_linesOf last.2.bytes).ne_nil line (last.2.mem_linesOf_of_excerpt limit line ?_)
      rw [hlast]
      exact List.mem_append_right lines (List.mem_singleton_self line)
    have hwrites : sectionWrites limit (front ++ [last])
        = (sectionWrites limit front ++ .header last.1 :: lines.map .line) ++ [.line line] := by
      rw [sectionWrites, List.flatMap_append, List.flatMap_singleton, hlast, List.map_append, sectionWrites]
      simp only [List.append_assoc, List.cons_append, List.map_cons, List.map_nil]
    rw [hwrites, beginsLine_append_line hline, List.getLast?_concat, Front.getLast?_excerpt hlast]
    constructor
    · rintro hclosed last' ⟨⟩
      exact hclosed
    · exact fun hclosed => hclosed last rfl

/-- **Where headers begin lines.** Whatever the sources are, a header is the first write or comes right behind a
line, and begins a line of output just if it is the first or that line ends in a line end. Over sources whose
readers rest at their end, of which at most one is standard input, it does not just if the source printed last in
front of it has no more lines than may be printed, and the last of these has no line end. -/
theorem header_begins_line_iff (world : World) (limit : Nat) (hlimit : limit ≠ 0)
    (sources : List (Source Script)) :
    let cursor := Cursor.ofSources world sources
    let written := (Heads.writes limit none 0 cursor).1
    (heads limit none 0 cursor).1 = written.flatMap Write.text
      ∧ (∀ words request, Heads.Request.ofWords words = .ok request → request.limit = limit →
          sources = request.inputs.inputs.map Source.ofToken →
        (Heads.run world words).output = written.flatMap Write.text)
      ∧ (∀ earlier id later, written = earlier ++ .header id :: later →
        (∀ last ∈ earlier.getLast?, ∃ line, last = .line line)
          ∧ (BeginsLine (earlier.flatMap Write.text)
            ↔ ∀ line, earlier.getLast? = some (.line line) → line.getLast? = some newline))
      ∧ ((∀ source ∈ sources, source.RestsAtEnd world.files) →
          sources.countP (fun source => source.provider.isStandardInput) ≤ 1 →
        written = sectionWrites limit (sections limit (frontsOf world sources))
          ∧ ∀ earlier entry later, sections limit (frontsOf world sources) = earlier ++ entry :: later →
            (BeginsLine ((sectionWrites limit earlier).flatMap Write.text)
              ↔ ∀ last ∈ earlier.getLast?, ¬ last.2.EndsOpen limit)) := by
  intro cursor written
  have htext : heads limit none 0 cursor = Heads.textOf (Heads.writes limit none 0 cursor) :=
    heads_eq_writes limit none 0 cursor
  refine ⟨congrArg Prod.fst htext, ?_, ?_, fun hrests honce => ⟨?_, fun earlier entry later hsplit => ?_⟩⟩
  · rintro words request hrequest rfl rfl
    rw [Heads.run_of_request world hrequest hlimit, htext]
    generalize hwritten : Heads.writes request.limit none 0 cursor = given
    have hfst : written = given.1 := congrArg Prod.fst hwritten
    rw [hfst]
    obtain ⟨given, _ | error⟩ := given <;> rfl
  · intro earlier id later hsplit
    have hheaded : Headed (earlier ++ .header id :: later) := hsplit ▸ headed_writes limit none 0 cursor
    refine ⟨fun last hlast => ?_, beginsLine_of_headed hheaded⟩
    obtain ⟨line, hline, -⟩ := hheaded.endsInLine last hlast
    exact ⟨line, hline⟩
  · have hwrites := congrArg Prod.fst (writes_ofSources hlimit hrests honce)
    exact hwrites.trans (printout_eq_sections limit _)
  · exact beginsLine_sectionWrites (excerpt_of_sections hsplit)

/-- One line of each: a first source that leaves it open, one without bytes, one with more lines, one that ends in a
line end, and one that fails. -/
theorem header_begins_line_iff_mixed :
    let world : World :=
      { files := { files := [(["a"], Utf8.encode "x"), (["b"], Utf8.encode "y\nz"), (["c"], Utf8.encode "w\n"),
                     (["e"], [])],
                   directories := [["d"]] }
        input := .ofBytes [] }
    let named : List (String × Front) :=
      sections 1 (frontsOf world (["a", "e", "b", "c", "a", "d"].map Source.ofToken))
    1 ≠ 0
      ∧ named.map Prod.fst = ["a", "b", "c", "a"]
      ∧ (Heads.run world ["-n", "1", "-i", "a,e,b,c,a,d"]).output
        = Utf8.encode "==> a <==\nx==> b <==\ny\n==> c <==\nw\n==> a <==\nx"
      ∧ BeginsLine ((sectionWrites 1 (named.take 0)).flatMap Write.text)
      ∧ ¬ BeginsLine ((sectionWrites 1 (named.take 1)).flatMap Write.text)
      ∧ BeginsLine ((sectionWrites 1 (named.take 2)).flatMap Write.text)
      ∧ BeginsLine ((sectionWrites 1 (named.take 3)).flatMap Write.text) := by
  intro world named
  obtain ⟨-, hrun, -, hsections⟩ := header_begins_line_iff world 1 (by decide)
    (["a", "e", "b", "c", "a", "d"].map Source.ofToken)
  have hrests : ∀ source ∈ ["a", "e", "b", "c", "a", "d"].map Source.ofToken, source.RestsAtEnd world.files := by
    intro source hsource
    obtain ⟨token, -, rfl⟩ := List.mem_map.1 hsource
    exact restsAtEnd_ofToken world.files token
  obtain ⟨hwritten, hbegins⟩ := hsections hrests (by decide)
  have houtput := hrun ["-n", "1", "-i", "a,e,b,c,a,d"] ⟨⟨["a", "e", "b", "c", "a", "d"]⟩, 1⟩ (by decide +kernel)
    rfl rfl
  have hbegins (count : Nat) (hcount : count < named.length) :
      BeginsLine ((sectionWrites 1 (named.take count)).flatMap Write.text)
        ↔ ∀ last ∈ (named.take count).getLast?, ¬ last.2.EndsOpen 1 :=
    hbegins (named.take count) named[count] (named.drop (count + 1)) (by
      rw [List.getElem_cons_drop, List.take_append_drop])
  rw [houtput, hwritten, hbegins 0 (by decide +kernel), hbegins 1 (by decide +kernel), hbegins 2 (by decide +kernel),
    hbegins 3 (by decide +kernel)]
  decide +kernel

/-- Not every header begins a line: the only line of a first file is left open, and the header of the second goes on
in it. -/
theorem header_behind_open_line :
    let world : World := { files := { files := [(["a"], [120]), (["b"], [121])] }, input := .ofBytes [] }
    let written := (Heads.writes 10 none 0 (Cursor.ofSources world [.file "a", .file "b"])).1
    (Heads.run world ["-i", "a,b"]).output = written.flatMap Write.text
      ∧ written.flatMap Write.text = Utf8.encode "==> a <==\nx==> b <==\ny"
      ∧ ¬ ∀ earlier id later, written = earlier ++ .header id :: later → BeginsLine (earlier.flatMap Write.text) := by
  intro world written
  have hwritten : written = [.header "a", .line [120], .header "b", .line [121]] := by decide +kernel
  refine ⟨by decide +kernel, by decide +kernel, fun hall => ?_⟩
  exact absurd (hall [.header "a", .line [120]] "b" [.line [121]] hwritten) (by decide +kernel)

end InputChain
