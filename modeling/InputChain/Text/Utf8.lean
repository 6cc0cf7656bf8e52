/-!
# Bytes and UTF-8 text

A stream carries bytes; a line of text is the bytes read as UTF-8. Reading stops at the first place
where the bytes are no UTF-8, and says where that is and how many bytes are to blame.

* `encode`: the bytes of a text.
* `decode`: the text of some bytes, or the first `Fault`.
* `Fault.message`: the wording of a fault.
-/

namespace InputChain

/-- The content of a stream, or of a piece of one. -/
abbrev Bytes := List UInt8

/-- The byte that ends a line. -/
def newline : UInt8 := 10

namespace Utf8

/-- The bytes of a text. -/
def encode (text : String) : Bytes :=
  text.toList.flatMap String.utf8EncodeChar

/-- Where bytes stop being UTF-8. -/
structure Fault where
  /-- The number of bytes before the faulty sequence. -/
  index : Nat
  /-- How many bytes are at fault; none if the bytes end inside a sequence that could go on. -/
  length : Option Nat
  deriving DecidableEq, Repr

/-- The wording of a fault. -/
def Fault.message (fault : Fault) : String :=
  match fault.length with
  | some n => s!"invalid utf-8 sequence of {n} bytes from index {fault.index}"
  | none => s!"incomplete utf-8 byte sequence from index {fault.index}"

/-- What the first byte of a sequence promises. -/
structure Lead where
  /-- The bits it contributes to the character. -/
  bits : Nat
  /-- The number of bytes that follow it. -/
  tails : Nat
  /-- The least byte that may come second. -/
  low : UInt8
  /-- The greatest byte that may come second. -/
  high : UInt8

/-- Reads a first byte. The bounds on the second byte shut out overlong forms, surrogates and
characters above `U+10FFFF`. -/
def Lead.ofByte? (b : UInt8) : Option Lead :=
  if b < 0x80 then some ⟨b.toNat, 0, 0x80, 0xBF⟩
  else if b < 0xC2 then none
  else if b < 0xE0 then some ⟨b.toNat - 0xC0, 1, 0x80, 0xBF⟩
  else if b = 0xE0 then some ⟨0, 2, 0xA0, 0xBF⟩
  else if b = 0xED then some ⟨0xD, 2, 0x80, 0x9F⟩
  else if b < 0xF0 then some ⟨b.toNat - 0xE0, 2, 0x80, 0xBF⟩
  else if b = 0xF0 then some ⟨0, 3, 0x90, 0xBF⟩
  else if b < 0xF4 then some ⟨b.toNat - 0xF0, 3, 0x80, 0xBF⟩
  else if b = 0xF4 then some ⟨4, 3, 0x80, 0x8F⟩
  else none

/-- Reads `tails` more bytes of a sequence of which `seen` bytes were read with the value `code`. The
error is the number of bytes at fault, or none at the end of the bytes. -/
def sequenceEnd (seen : Nat) : (tails : Nat) → (low high : UInt8) → (code : Nat) → Bytes →
    Except (Option Nat) (Nat × Bytes)
  | 0, _, _, code, rest => .ok (code, rest)
  | _ + 1, _, _, _, [] => .error none
  | tails + 1, low, high, code, b :: rest =>
    if low ≤ b ∧ b ≤ high then
      sequenceEnd (seen + 1) tails 0x80 0xBF (code * 64 + (b.toNat - 0x80)) rest
    else .error (some seen)

theorem length_of_sequenceEnd {seen tails : Nat} {low high : UInt8} {code : Nat} {bytes : Bytes}
    {found : Nat × Bytes} (h : sequenceEnd seen tails low high code bytes = .ok found) :
    found.2.length + tails = bytes.length := by
  fun_induction sequenceEnd seen tails low high code bytes with
  | case1 => cases h; rfl
  | case2 => cases h
  | case3 _ _ _ _ _ _ _ _ ih => have := ih h; simp only [List.length_cons]; omega
  | case4 => cases h

/-- The characters of some bytes, of which `index` bytes came before. -/
def decodeFrom (index : Nat) : Bytes → Except Fault (List Char)
  | [] => .ok []
  | b :: rest =>
    match Lead.ofByte? b with
    | none => .error ⟨index, some 1⟩
    | some lead =>
      match h : sequenceEnd 1 lead.tails lead.low lead.high lead.bits rest with
      | .error length => .error ⟨index, length⟩
      | .ok found =>
        have : found.2.length < (b :: rest).length := by
          have := length_of_sequenceEnd h; simp only [List.length_cons]; omega
        match decodeFrom (index + 1 + lead.tails) found.2 with
        | .error fault => .error fault
        | .ok chars => .ok (Char.ofNat found.1 :: chars)
  termination_by bytes => bytes.length
  decreasing_by assumption

/-- The text of some bytes. -/
def decode (bytes : Bytes) : Except Fault String :=
  (decodeFrom 0 bytes).map String.ofList

end Utf8

end InputChain
