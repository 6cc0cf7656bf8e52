import InputChain.Proofs.Decoding
import InputChain.Proofs.Operations
import InputChain.Proofs.Units

/-!
# What an answer hands over

An operation answers with what its units delivered, or with the failure they met. From the answer one
can tell what was delivered.

* `Response.content`, `reportsFailure`: the bytes in an answer, and whether it reports a failure.
* `Delivery.got_of_holdBack`, `Delivery.fault_of_holdBack` and their like: what was delivered, by what is
  answered.
* `Cursor.text_of_readLine`, `Cursor.line_of_readLineBytes`: a line that is given is all that its unit
  gave.
-/

namespace InputChain

/-- The bytes that an answer hands over. -/
def Response.content : Response → Bytes
  | .bytes found => found.getD []
  | .byte found => found.toList
  | .line found => found.elim [] Utf8.encode
  | .lines texts => texts.flatMap Utf8.encode
  | .item (some (.ok text)) => Utf8.encode text
  | .item _ => []
  | .slice got => got
  | .done => []

/-- Whether an answer reports a failure. -/
def reportsFailure : Except Failure Response → Bool
  | .error _ => true
  | .ok (.item (some (.error _))) => true
  | .ok _ => false

/-- At most one byte is given whole as a byte. -/
theorem toList_head?_of_length {got : Bytes} (hlength : got.length ≤ 1) : got.head?.toList = got := by
  cases got with
  | nil => rfl
  | cons b rest =>
    obtain rfl := List.length_eq_zero_iff.1 (Nat.le_zero.1 (Nat.le_of_succ_le_succ hlength))
    rfl

namespace Delivery

variable {delivery : Delivery Script} {error : SourceError}

/-- A read that is answered with a failure met it in front of any byte. -/
theorem fault_of_holdBack (h : delivery.holdBack.1 = .error error) :
    delivery.fault = some error ∧ delivery.holdBack.2 = delivery.next := by
  obtain ⟨_ | ⟨b, got⟩, _ | given, next⟩ := delivery
  · cases h
  · cases h
    exact ⟨rfl, rfl⟩
  · cases h
  · cases h

/-- A read that is answered with bytes gives those it delivers, and stays where it came to. -/
theorem got_of_holdBack {got : Bytes} (h : delivery.holdBack.1 = .ok got) :
    delivery.got = got
      ∧ delivery.holdBack.2 = { delivery.next with pending := delivery.holdBack.2.pending } := by
  obtain ⟨_ | ⟨b, got⟩, _ | given, next⟩ := delivery
  · cases h
    exact ⟨rfl, rfl⟩
  · cases h
  · cases h
    exact ⟨rfl, rfl⟩
  · cases h
    exact ⟨rfl, rfl⟩

theorem fault_of_orFault (h : delivery.orFault.1 = .error error) :
    delivery.fault = some error ∧ delivery.orFault.2 = delivery.next := by
  obtain ⟨got, _ | given, next⟩ := delivery
  · cases h
  · cases h
    exact ⟨rfl, rfl⟩

theorem got_of_orFault {got : Bytes} (h : delivery.orFault.1 = .ok got) :
    delivery.got = got ∧ delivery.orFault.2 = delivery.next := by
  obtain ⟨given, _ | error, next⟩ := delivery
  · cases h
    exact ⟨rfl, rfl⟩
  · cases h

theorem got_of_answer {response : Response} (h : delivery.answer.1 = .ok response) :
    response = .slice delivery.got ∧ delivery.answer.2 = delivery.next := by
  obtain ⟨given, _ | error, next⟩ := delivery
  · cases h
    exact ⟨rfl, rfl⟩
  · cases h

theorem fault_of_answer (h : reportsFailure delivery.answer.1) :
    ∃ error, delivery.fault = some error
      ∧ delivery.answer = (.error (.io error.kind error.message), delivery.next) := by
  obtain ⟨given, _ | error, next⟩ := delivery
  · cases h
  · exact ⟨error, rfl, rfl⟩

end Delivery

namespace Cursor

variable {cursor : Cursor Script}

/-- A line given as text is all that its unit gave. -/
theorem text_of_readLine {text : String} (h : cursor.readLine.1 = .ok (some text)) :
    Utf8.encode text = (cursor.readUnit (Inlet.readUntil newline)).got
      ∧ cursor.readLine.2 = (cursor.readUnit (Inlet.readUntil newline)).next.countLine := by
  cases hfault : (cursor.readUnit (Inlet.readUntil newline)).fault with
  | some error =>
    rw [readLine_of_fault hfault] at h
    cases h
  | none =>
    by_cases hgot : (cursor.readUnit (Inlet.readUntil newline)).got = []
    · rw [readLine_of_nil hfault hgot] at h
      cases h
    · cases hdecode : Utf8.decode (cursor.readUnit (Inlet.readUntil newline)).got with
      | ok text' =>
        rw [readLine_of_text hfault hgot hdecode] at h ⊢
        cases h
        exact ⟨Utf8.decode_ok_iff.1 hdecode, rfl⟩
      | error fault =>
        rw [readLine_of_malformed hfault hgot hdecode] at h
        cases h

theorem line_of_readLineBytes {line : Bytes} (h : cursor.readLineBytes.1 = .ok (some line)) :
    line = (cursor.readUnit (Inlet.readUntil newline)).got
      ∧ cursor.readLineBytes.2 = (cursor.readUnit (Inlet.readUntil newline)).next.countLine := by
  cases hfault : (cursor.readUnit (Inlet.readUntil newline)).fault with
  | some error =>
    rw [readLineBytes_of_fault hfault] at h
    cases h
  | none =>
    by_cases hgot : (cursor.readUnit (Inlet.readUntil newline)).got = []
    · rw [readLineBytes_of_nil hfault hgot] at h
      cases h
    · rw [readLineBytes_of_line hfault hgot] at h ⊢
      cases h
      exact ⟨rfl, rfl⟩

end Cursor

end InputChain
