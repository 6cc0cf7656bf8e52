import InputChain.Text.Utf8
import Mathlib.Algebra.Group.Nat.Defs
import Mathlib.Tactic.SplitIfs

/-!
# Bytes that are text

Bytes are read as a text just when they are the bytes of that text. A sequence is known by the value
that it is read as: the first byte and the number of bytes behind it follow from the value, and so do
these.

* `Utf8.tailBytes`, `Utf8.leadOf`, `Utf8.tailsOf`: the bytes of a sequence by its value.
* `Utf8.sequenceEnd_ok_iff`, `Utf8.lead_iff`, `Utf8.sequence_iff`: which sequences are read.
* `Utf8.decodeFrom_ok_iff`, **`Utf8.decode_ok_iff`**: which texts are.
-/

namespace InputChain

namespace Utf8

/-! ## One sequence -/

/-- The last `tails` bytes of the sequence of a value. -/
def tailBytes : (tails : Nat) → (value : Nat) → Bytes
  | 0, _ => []
  | tails + 1, value => UInt8.ofNat (value / 64 ^ tails % 64 + 0x80) :: tailBytes tails value

theorem toNat_tail (n : Nat) : (UInt8.ofNat (n % 64 + 0x80)).toNat = n % 64 + 0x80 := by
  have hlt : n % 64 < 64 := Nat.mod_lt n (by decide)
  rw [UInt8.toNat_ofNat', Nat.mod_eq_of_lt (by omega)]

/-- The bytes behind a first one are read as a value just when they are those of the value, and the
second byte lies within its bounds. -/
theorem sequenceEnd_ok_iff {seen tails : Nat} {low high : UInt8} {code value : Nat}
    {bytes rest : Bytes} (hlow : 0x80 ≤ low.toNat) (hhigh : high.toNat ≤ 0xBF) :
    sequenceEnd seen tails low high code bytes = .ok (value, rest)
      ↔ bytes = tailBytes tails value ++ rest ∧ value / 64 ^ tails = code
        ∧ (tails ≠ 0 → low.toNat ≤ value / 64 ^ (tails - 1) % 64 + 0x80
          ∧ value / 64 ^ (tails - 1) % 64 + 0x80 ≤ high.toNat) := by
  fun_induction sequenceEnd seen tails low high code bytes with
  | case1 seen low high code bytes =>
    simp only [Except.ok.injEq, Prod.mk.injEq, tailBytes, List.nil_append, Nat.pow_zero, Nat.div_one,
      ne_eq, not_true_eq_false, false_implies, and_true]
    exact ⟨fun h => ⟨h.2, h.1.symm⟩, fun h => ⟨h.2.symm, h.1⟩⟩
  | case2 => simp [tailBytes]
  | case3 seen tails low high code b bytes hbounds ih =>
    rw [ih (by decide) (by decide)]
    rw [UInt8.le_iff_toNat_le, UInt8.le_iff_toNat_le] at hbounds
    have hvalue : value / 64 ^ (tails + 1) = value / 64 ^ tails / 64 := by
      rw [Nat.pow_succ, Nat.div_div_eq_div_mul]
    have hlast : value / 64 ^ (tails - 1) % 64 + 0x80 ≤ 0xBF := by omega
    simp only [tailBytes, List.cons_append, List.cons.injEq, hvalue, Nat.succ_sub_one]
    constructor
    · rintro ⟨rfl, hcode, -⟩
      have hb : value / 64 ^ tails % 64 + 0x80 = b.toNat := by omega
      rw [hb, UInt8.ofNat_toNat]
      exact ⟨⟨rfl, rfl⟩, by omega, fun _ => hbounds⟩
    · rintro ⟨⟨rfl, rfl⟩, rfl, hfirst⟩
      have hb := toNat_tail (value / 64 ^ tails)
      refine ⟨rfl, ?_, fun _ => ⟨Nat.le_add_left .., hlast⟩⟩
      rw [hb]
      omega
  | case4 seen tails low high code b bytes hbounds =>
    refine iff_of_false (fun h => by cases h) ?_
    simp only [tailBytes, List.cons_append, List.cons.injEq, Nat.succ_sub_one]
    rintro ⟨⟨rfl, -⟩, -, hfirst⟩
    have hb := toNat_tail (value / 64 ^ tails)
    refine hbounds ?_
    rw [UInt8.le_iff_toNat_le, UInt8.le_iff_toNat_le, hb]
    exact hfirst (Nat.succ_ne_zero tails)

/-- What each first byte promises. -/
theorem Lead.ofByte?_cases {b : UInt8} {lead : Lead} (h : ofByte? b = some lead) :
    lead.tails = 0 ∧ lead.bits = b.toNat ∧ b.toNat < 0x80
      ∧ lead.low.toNat = 0x80 ∧ lead.high.toNat = 0xBF
    ∨ lead.tails = 1 ∧ lead.bits + 0xC0 = b.toNat ∧ 0xC2 ≤ b.toNat ∧ b.toNat < 0xE0
      ∧ lead.low.toNat = 0x80 ∧ lead.high.toNat = 0xBF
    ∨ lead.tails = 2 ∧ lead.bits + 0xE0 = b.toNat ∧ b.toNat < 0xF0
      ∧ (b.toNat = 0xE0 ∧ lead.low.toNat = 0xA0 ∨ b.toNat ≠ 0xE0 ∧ lead.low.toNat = 0x80)
      ∧ (b.toNat = 0xED ∧ lead.high.toNat = 0x9F ∨ b.toNat ≠ 0xED ∧ lead.high.toNat = 0xBF)
    ∨ lead.tails = 3 ∧ lead.bits + 0xF0 = b.toNat ∧ b.toNat < 0xF5
      ∧ (b.toNat = 0xF0 ∧ lead.low.toNat = 0x90 ∨ b.toNat ≠ 0xF0 ∧ lead.low.toNat = 0x80)
      ∧ (b.toNat = 0xF4 ∧ lead.high.toNat = 0x8F ∨ b.toNat ≠ 0xF4 ∧ lead.high.toNat = 0xBF) := by
  simp only [ofByte?, UInt8.lt_iff_toNat_lt, ← UInt8.toNat_inj, UInt8.reduceToNat] at h
  repeat' split at h
  all_goals first | exact absurd h (Option.some_ne_none lead).symm | obtain rfl := Option.some.inj h
  all_goals simp only [UInt8.reduceToNat, true_and, and_true]; omega

/-- How many bytes come behind the first one in the sequence of a value. -/
def tailsOf (value : Nat) : Nat :=
  if value < 0x80 then 0 else if value < 0x800 then 1 else if value < 0x10000 then 2 else 3

/-- The first byte of the sequence of a value. -/
def leadOf (value : Nat) : Nat :=
  if value < 0x80 then value
  else if value < 0x800 then 0xC0 + value / 64
  else if value < 0x10000 then 0xE0 + value / 64 ^ 2
  else 0xF0 + value / 64 ^ 3

/-- What a first byte promises is kept just by the values of the characters whose sequences begin with
it. -/
theorem lead_iff {b : UInt8} {lead : Lead} {value : Nat} (h : Lead.ofByte? b = some lead) :
    (value / 64 ^ lead.tails = lead.bits
        ∧ (lead.tails ≠ 0 → lead.low.toNat ≤ value / 64 ^ (lead.tails - 1) % 64 + 0x80
          ∧ value / 64 ^ (lead.tails - 1) % 64 + 0x80 ≤ lead.high.toNat))
      ↔ value.isValidChar ∧ lead.tails = tailsOf value ∧ b.toNat = leadOf value := by
  rcases Lead.ofByte?_cases h with ⟨htails, hlead⟩ | ⟨htails, hlead⟩ | ⟨htails, hlead⟩ |
    ⟨htails, hlead⟩ <;>
  · rw [htails]
    simp only [tailsOf, leadOf, Nat.isValidChar, Nat.reducePow, Nat.reduceSub, Nat.div_one]
    split_ifs <;> omega

theorem leadOf_lt {value : Nat} (hvalid : value.isValidChar) : leadOf value < 0xF5 := by
  simp only [leadOf, Nat.isValidChar, Nat.reducePow] at hvalid ⊢
  split_ifs <;> omega

/-- The bytes of a character are the first byte of its value and the bytes behind that. -/
theorem utf8EncodeChar_eq (c : Char) :
    String.utf8EncodeChar c = UInt8.ofNat (leadOf c.toNat) :: tailBytes (tailsOf c.toNat) c.toNat := by
  have hvalid : c.toNat.isValidChar := c.valid
  have hval : c.val.toNat = c.toNat := rfl
  simp only [String.utf8EncodeChar, hval, leadOf, tailsOf]
  generalize c.toNat = value at hvalid ⊢
  simp only [Nat.isValidChar] at hvalid
  split_ifs <;> try omega
  all_goals simp only [tailBytes, List.cons.injEq, Nat.reducePow, Nat.div_one, and_true]
  all_goals congr 1
  all_goals omega

theorem toNat_leadOf (c : Char) : (UInt8.ofNat (leadOf c.toNat)).toNat = leadOf c.toNat := by
  have hlt := leadOf_lt (show c.toNat.isValidChar from c.valid)
  rw [UInt8.toNat_ofNat', Nat.mod_eq_of_lt (by omega)]

/-- The bytes that begin no sequence. -/
theorem Lead.ofByte?_none {b : UInt8} (h : ofByte? b = none) :
    0x80 ≤ b.toNat ∧ b.toNat < 0xC2 ∨ 0xF5 ≤ b.toNat := by
  simp only [ofByte?, UInt8.lt_iff_toNat_lt, ← UInt8.toNat_inj, UInt8.reduceToNat] at h
  repeat' split at h
  all_goals first | omega | cases h

/-- Every first byte of a character promises something. -/
theorem Lead.ofByte?_leadOf (c : Char) : ofByte? (UInt8.ofNat (leadOf c.toNat)) ≠ none := by
  intro hnone
  have hvalid : c.toNat.isValidChar := c.valid
  have hrange := ofByte?_none hnone
  have hlt := leadOf_lt hvalid
  rw [toNat_leadOf] at hrange
  simp only [leadOf, Nat.isValidChar, Nat.reducePow] at hvalid hrange hlt
  split_ifs at hrange hlt <;> omega

/-- **A sequence is read just when it is that of a character.** -/
theorem sequence_iff {b : UInt8} {lead : Lead} {bytes rest : Bytes} {value : Nat}
    (h : Lead.ofByte? b = some lead) :
    sequenceEnd 1 lead.tails lead.low lead.high lead.bits bytes = .ok (value, rest)
      ↔ ∃ c : Char, c.toNat = value ∧ String.utf8EncodeChar c ++ rest = b :: bytes := by
  have hcases := Lead.ofByte?_cases h
  rw [sequenceEnd_ok_iff (by omega) (by omega), lead_iff h]
  constructor
  · rintro ⟨rfl, hvalid, htails, hb⟩
    have hvalue : (Char.ofNat value).toNat = value := by
      rw [Char.ofNat, dif_pos hvalid]
      rfl
    refine ⟨Char.ofNat value, hvalue, ?_⟩
    rw [utf8EncodeChar_eq, hvalue, htails, ← hb, UInt8.ofNat_toNat, List.cons_append]
  · rintro ⟨c, rfl, hbytes⟩
    rw [utf8EncodeChar_eq, List.cons_append, List.cons.injEq] at hbytes
    obtain ⟨rfl, rfl⟩ := hbytes
    have hvalid : c.toNat.isValidChar := c.valid
    have hlead := toNat_leadOf c
    have htails : lead.tails = tailsOf c.toNat := by
      rw [hlead] at hcases
      simp only [leadOf, tailsOf, Nat.isValidChar, Nat.reducePow] at hvalid hcases ⊢
      split_ifs at hcases ⊢ <;> omega
    exact ⟨by rw [htails], hvalid, htails, hlead⟩

/-! ## A text -/

/-- The bytes of a text begin with the sequence of its first character. -/
theorem flatMap_eq_cons_iff {b : UInt8} {lead : Lead} {bytes : Bytes} {chars : List Char}
    (h : Lead.ofByte? b = some lead) :
    chars.flatMap String.utf8EncodeChar = b :: bytes
      ↔ ∃ c behind, chars = c :: behind
        ∧ sequenceEnd 1 lead.tails lead.low lead.high lead.bits bytes
          = .ok (c.toNat, behind.flatMap String.utf8EncodeChar) := by
  constructor
  · intro hbytes
    match chars with
    | [] => cases hbytes
    | c :: behind => exact ⟨c, behind, rfl, (sequence_iff h).2 ⟨c, rfl, hbytes⟩⟩
  · rintro ⟨c, behind, rfl, hsequence⟩
    obtain ⟨c', hvalue, hbytes⟩ := (sequence_iff h).1 hsequence
    obtain rfl : c' = c := Char.ext (UInt32.toNat_inj.1 hvalue)
    exact hbytes

/-- The bytes of some characters are read as these characters, and no others are read at all. -/
theorem decodeFrom_ok_iff {index : Nat} {bytes : Bytes} {chars : List Char} :
    decodeFrom index bytes = .ok chars ↔ chars.flatMap String.utf8EncodeChar = bytes := by
  fun_induction decodeFrom index bytes generalizing chars with
  | case1 index =>
    match chars with
    | [] => exact iff_of_true rfl rfl
    | c :: behind =>
      refine iff_of_false (fun h => nomatch h) fun hbytes => ?_
      rw [List.flatMap_cons, utf8EncodeChar_eq] at hbytes
      cases hbytes
  | case2 index b rest hlead =>
    refine iff_of_false (fun h => nomatch h) fun hbytes => ?_
    match chars with
    | [] => cases hbytes
    | c :: behind =>
      rw [List.flatMap_cons, utf8EncodeChar_eq, List.cons_append, List.cons.injEq] at hbytes
      exact Lead.ofByte?_leadOf c (hbytes.1 ▸ hlead)
  | case3 index b rest lead hlead length hsequence =>
    refine iff_of_false (fun h => nomatch h) fun hbytes => ?_
    obtain ⟨c, behind, -, hread⟩ := (flatMap_eq_cons_iff hlead).1 hbytes
    cases hsequence.symm.trans hread
  | case4 index b rest lead hlead found hsequence _ fault hbehind ih =>
    refine iff_of_false (fun h => nomatch h) fun hbytes => ?_
    obtain ⟨c, behind, -, hread⟩ := (flatMap_eq_cons_iff hlead).1 hbytes
    cases hsequence.symm.trans hread
    cases hbehind.symm.trans (ih.2 rfl)
  | case5 index b rest lead hlead found hsequence _ behind hbehind ih =>
    rw [flatMap_eq_cons_iff hlead]
    constructor
    · intro h
      cases h
      obtain ⟨c, hvalue, -⟩ := (sequence_iff hlead).1 hsequence
      refine ⟨c, behind, ?_, ?_⟩
      · rw [← hvalue, Char.ofNat_toNat]
      · rw [hsequence, hvalue, ih.1 hbehind]
    · rintro ⟨c, behind', rfl, hread⟩
      cases hsequence.symm.trans hread
      cases hbehind.symm.trans (ih.2 rfl)
      rw [Char.ofNat_toNat]

/-- **Bytes are read as a text just when they are the bytes of that text.** -/
theorem decode_ok_iff {bytes : Bytes} {text : String} :
    decode bytes = .ok text ↔ encode text = bytes := by
  rw [encode, ← @decodeFrom_ok_iff 0, decode]
  cases decodeFrom 0 bytes with
  | error fault => exact iff_of_false (fun h => nomatch h) fun h => nomatch h
  | ok chars =>
    simp only [Except.map, Except.ok.injEq]
    exact ⟨fun h => h ▸ String.toList_ofList.symm, fun h => h ▸ String.ofList_toList⟩

/-- Bytes that are the bytes of no text are not read. -/
theorem decode_error_iff {bytes : Bytes} :
    (∃ fault, decode bytes = .error fault) ↔ ∀ text, encode text ≠ bytes := by
  constructor
  · rintro ⟨fault, hfault⟩ text htext
    cases hfault.symm.trans (decode_ok_iff.2 htext)
  · intro hnone
    cases hdecode : decode bytes with
    | error fault => exact ⟨fault, rfl⟩
    | ok text => exact absurd (decode_ok_iff.1 hdecode) (hnone text)

end Utf8

end InputChain
