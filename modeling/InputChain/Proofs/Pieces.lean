import InputChain.Proofs.LineSplitting

/-!
# Bytes cut into pieces

Bytes are cut behind every stop: each piece ends behind one, or at the end of the bytes. Cut at line ends, the
pieces are the lines. A cut made of the bytes of several parts put together is the cut of each part on its own just
if no part that others follow ends in the middle of a piece.

* `piecesBehind`, `cutThrough`: the pieces of some bytes, and the first of them.
* `cutThrough_ne_nil`, **`piecesBehind_cut`**: pieces are cut off one by one, and each has a byte.
* `cutThrough_of_some`, `cutThrough_of_none`: the first piece, by whether it ends in the front of the bytes.
* `linesOf_append`, **`linesOf_flatten_eq_iff`**: when the lines of all bytes are those of the parts.
-/

namespace InputChain

/-- The pieces of some bytes: each ends behind a `stop`, or at the end of the bytes. -/
def piecesBehind (stop : UInt8) : Bytes → List Bytes
  | [] => []
  | b :: rest =>
    if b = stop then [b] :: piecesBehind stop rest
    else
      match piecesBehind stop rest with
      | [] => [[b]]
      | piece :: later => (b :: piece) :: later

/-- The first piece of some bytes, and what is behind it. -/
def cutThrough (stop : UInt8) (bytes : Bytes) : Bytes × Bytes :=
  (Inlet.splitThrough stop bytes).getD (bytes, [])

/-- Lines are the pieces behind line ends. -/
theorem linesOf_eq_piecesBehind (bytes : Bytes) : linesOf bytes = piecesBehind newline bytes := by
  induction bytes with
  | nil => rfl
  | cons b rest ih =>
    rw [linesOf, ih]
    cases hlater : piecesBehind newline rest <;> simp only [piecesBehind, hlater]

theorem piecesBehind_eq_nil_iff {stop : UInt8} {bytes : Bytes} : piecesBehind stop bytes = [] ↔ bytes = [] := by
  constructor
  · intro hnil
    cases bytes with
    | nil => rfl
    | cons b rest =>
      simp only [piecesBehind] at hnil
      split at hnil
      · cases hnil
      · split at hnil <;> cases hnil
  · rintro rfl
    rfl

/-! ## Piece by piece -/

section Cut

variable {stop : UInt8} {bytes front piece rest : Bytes}

theorem splitThrough_append_of_some (back : Bytes) (hsplit : Inlet.splitThrough stop front = some (piece, rest)) :
    Inlet.splitThrough stop (front ++ back) = some (piece, rest ++ back) := by
  fun_induction Inlet.splitThrough stop front generalizing piece with
  | case1 => cases hsplit
  | case2 front =>
    cases hsplit
    exact if_pos rfl
  | case3 b front hb ih =>
    obtain ⟨⟨piece', rest'⟩, hfound, hpair⟩ := Option.map_eq_some_iff.1 hsplit
    cases hpair
    rw [List.cons_append, Inlet.splitThrough, if_neg hb, ih hfound]
    rfl

theorem splitThrough_append_of_none (back : Bytes) (hsplit : Inlet.splitThrough stop front = none) :
    Inlet.splitThrough stop (front ++ back)
      = (Inlet.splitThrough stop back).map fun (piece, rest) => (front ++ piece, rest) := by
  fun_induction Inlet.splitThrough stop front with
  | case1 => exact Option.map_id'.symm
  | case2 => cases hsplit
  | case3 b front hb ih =>
    rw [List.cons_append, Inlet.splitThrough, if_neg hb, ih (Option.map_eq_none_iff.1 hsplit), Option.map_map]
    rfl

/-- A piece that ends in the front is cut off there. -/
theorem cutThrough_of_some (back : Bytes) (hsplit : Inlet.splitThrough stop front = some (piece, rest)) :
    cutThrough stop (front ++ back) = (piece, rest ++ back) := by
  rw [cutThrough, splitThrough_append_of_some back hsplit]
  rfl

/-- A piece that does not end in the front ends behind it. -/
theorem cutThrough_of_none (back : Bytes) (hsplit : Inlet.splitThrough stop front = none) :
    cutThrough stop (front ++ back) = (front ++ (cutThrough stop back).1, (cutThrough stop back).2) := by
  rw [cutThrough, splitThrough_append_of_none back hsplit, cutThrough]
  cases Inlet.splitThrough stop back <;> rfl

theorem cutThrough_ne_nil (hbytes : bytes ≠ []) : (cutThrough stop bytes).1 ≠ [] := by
  unfold cutThrough
  cases hsplit : Inlet.splitThrough stop bytes with
  | none => exact hbytes
  | some found => exact Inlet.ne_nil_of_splitThrough hsplit

theorem piecesBehind_of_ne {b : UInt8} (hb : b ≠ stop) (rest : Bytes) :
    piecesBehind stop (b :: rest)
      = match piecesBehind stop rest with
        | [] => [[b]]
        | piece :: later => (b :: piece) :: later :=
  if_neg hb

/-- **The first piece is cut off**, and the others are those of the rest. -/
theorem piecesBehind_cut (hbytes : bytes ≠ []) :
    piecesBehind stop bytes
      = (cutThrough stop bytes).1 :: piecesBehind stop (cutThrough stop bytes).2 := by
  unfold cutThrough
  fun_induction Inlet.splitThrough stop bytes with
  | case1 => exact absurd rfl hbytes
  | case2 rest => exact if_pos rfl
  | case3 b rest hb ih =>
    rw [piecesBehind_of_ne hb]
    by_cases hrest : rest = []
    · subst hrest
      rfl
    · rw [ih hrest]
      cases Inlet.splitThrough stop rest <;> rfl

end Cut

/-! ## The lines of several parts -/

section Lines

variable {front back : Bytes}

theorem linesOf_eq_nil_iff : linesOf front = [] ↔ front = [] := by
  constructor
  · intro hnil
    rw [← (areLines_linesOf front).flatten, hnil]
    rfl
  · rintro rfl
    rfl

/-- Bytes end as their last line ends. -/
theorem getLast?_of_linesOf {lines : List Bytes} {line : Bytes} (hlines : linesOf front = lines ++ [line]) :
    front.getLast? = line.getLast? := by
  have hare := areLines_linesOf front
  have hline : line ≠ [] := hare.ne_nil line (by simp [hlines])
  rw [← hare.flatten, hlines, List.flatten_concat, List.getLast?_append, List.getLast?_eq_some_getLast hline,
    Option.some_or]

/-- If lines of the front are followed by others, the front ends in a line end. -/
theorem getLast?_of_lines_behind {lines : List Bytes} (hfront : front ≠ []) (hlines : lines ≠ [])
    (hwhole : AreLines (front ++ back) (linesOf front ++ lines)) : front.getLast? = some newline := by
  obtain hnil | ⟨init, last, hlast⟩ := List.eq_nil_or_concat (linesOf front)
  · exact absurd (linesOf_eq_nil_iff.1 hnil) hfront
  · rw [List.concat_eq_append] at hlast
    rw [getLast?_of_linesOf hlast]
    refine hwhole.ended last ?_
    rw [List.dropLast_append_of_ne_nil hlines, hlast]
    simp

/-- All lines of bytes that end in a line end do. -/
theorem getLast?_of_mem_linesOf (hended : front.getLast? = some newline) :
    ∀ line ∈ linesOf front, line.getLast? = some newline := by
  intro line hline
  obtain hnil | ⟨init, last, hlast⟩ := List.eq_nil_or_concat (linesOf front)
  · rw [hnil] at hline
    cases hline
  · rw [List.concat_eq_append] at hlast
    rcases List.mem_append.1 (hlast ▸ hline) with hinit | hmem
    · refine (areLines_linesOf front).ended line ?_
      rwa [hlast, List.dropLast_concat]
    · rw [List.mem_singleton.1 hmem, ← getLast?_of_linesOf hlast, hended]

/-- Behind a line end the lines begin anew. -/
theorem linesOf_append (hended : front.getLast? = some newline) (back : Bytes) :
    linesOf (front ++ back) = linesOf front ++ linesOf back := by
  have hfront := areLines_linesOf front
  have hback := areLines_linesOf back
  refine (areLines_iff.1 ⟨?_, ?_, ?_, ?_⟩).symm
  · rw [List.flatten_append, hfront.flatten, hback.flatten]
  · exact fun line hline => (List.mem_append.1 hline).elim (hfront.ne_nil line) (hback.ne_nil line)
  · exact fun line hline => (List.mem_append.1 hline).elim (hfront.inner line) (hback.inner line)
  · intro line hline
    have hall := getLast?_of_mem_linesOf hended
    by_cases hmore : linesOf back = []
    · rw [hmore, List.append_nil] at hline
      exact hall line (List.dropLast_subset _ hline)
    · rw [List.dropLast_append_of_ne_nil hmore] at hline
      exact (List.mem_append.1 hline).elim (hall line) (hback.ended line)

theorem flatten_flatMap_linesOf (parts : List Bytes) : (parts.flatMap linesOf).flatten = parts.flatten := by
  induction parts with
  | nil => rfl
  | cons part later ih =>
    rw [List.flatMap_cons, List.flatten_append, ih, (areLines_linesOf part).flatten, List.flatten_cons]

/-- **The lines of all bytes are the lines of the parts just if every part that has bytes, but for the last of
these, ends in a line end.** -/
theorem linesOf_flatten_eq_iff (parts : List Bytes) :
    linesOf parts.flatten = parts.flatMap linesOf
      ↔ ∀ part ∈ (parts.filter (· ≠ [])).dropLast, part.getLast? = some newline := by
  induction parts with
  | nil => simp [linesOf]
  | cons part later ih =>
    rw [List.flatten_cons, List.flatMap_cons]
    by_cases hpart : part = []
    · subst hpart
      rw [List.filter_cons_of_neg (by simp), linesOf]
      exact ih
    · rw [List.filter_cons_of_pos (by simpa using hpart)]
      by_cases hlater : later.filter (· ≠ []) = []
      · have hnil : ∀ part ∈ later, part = [] := by simpa using hlater
        have hflatten : later.flatten = [] := List.flatten_eq_nil_iff.2 hnil
        have hlines : later.flatMap linesOf = [] := by
          refine List.flatMap_eq_nil_iff.2 fun part hmem => ?_
          rw [hnil part hmem, linesOf]
        rw [hflatten, hlines, hlater]
        simp
      · have hflatten : later.flatten ≠ [] := by
          intro hnil
          refine hlater (List.filter_eq_nil_iff.2 fun part hmem => ?_)
          simpa using List.flatten_eq_nil_iff.1 hnil part hmem
        have hlines : later.flatMap linesOf ≠ [] := by
          intro hnil
          refine hflatten ?_
          rw [← flatten_flatMap_linesOf, hnil, List.flatten_nil]
        rw [List.dropLast_cons_of_ne_nil hlater, List.forall_mem_cons, ← ih]
        constructor
        · intro hwhole
          have hended : part.getLast? = some newline :=
            getLast?_of_lines_behind hpart hlines (hwhole ▸ areLines_linesOf (part ++ later.flatten))
          rw [linesOf_append hended] at hwhole
          exact ⟨hended, List.append_cancel_left hwhole⟩
        · rintro ⟨hended, hrest⟩
          rw [linesOf_append hended, hrest]

end Lines

end InputChain
