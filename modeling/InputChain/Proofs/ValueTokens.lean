import InputChain.Proofs.KeptInputs
import Mathlib.Data.List.DropRight
import Mathlib.Data.List.TakeWhile

/-!
# The tokens of a value

The value of an argument is divided at its commas, the blanks around each piece are dropped, and so are empty
pieces. What is left are tokens, and tokens joined by commas are divided into the same again. No token is empty,
and of all spellings of standard input only one is left, so a builder can use whatever a value names.

* `Trimmed`, `trimmed_trimBlanks`, `trimBlanks_of_trimmed`: texts without blanks at their ends.
* `not_mem_of_mem_pieces`, `pieces_of_not_mem`: pieces and the character between them.
* `IsToken`, `valueTokens`: tokens, and those of a value.
* `valueTokens_append`, **`valueTokens_intercalate`**: the tokens on both sides of a comma, and of joined tokens.
* `isToken_of_mem_ofValue?`, `Builder.build_addArgs_iff`: the inputs of a value, and what can be built with them.
* **`value_divides_at_commas`**: all of this of one value.
-/

namespace InputChain

/-! ## Blanks at the ends -/

/-- There is no blank in front or at the end. -/
structure Trimmed (chars : List Char) : Prop where
  front : ∀ h : chars ≠ [], isBlank (chars.head h) = false
  back : ∀ h : chars ≠ [], isBlank (chars.getLast h) = false

theorem trimBlanks_eq (chars : List Char) :
    trimBlanks chars = (chars.dropWhile isBlank).rdropWhile isBlank := rfl

theorem trimmed_trimBlanks (chars : List Char) : Trimmed (trimBlanks chars) := by
  rw [trimBlanks_eq]
  refine ⟨fun h => ?_, fun h => ?_⟩
  · rw [(List.rdropWhile_prefix ..).head h]
    exact List.head_dropWhile_not ..
  · simpa using List.rdropWhile_last_not isBlank (chars.dropWhile isBlank) h

theorem trimBlanks_of_trimmed {chars : List Char} (h : Trimmed chars) : trimBlanks chars = chars := by
  have hfront : chars.dropWhile isBlank = chars := by
    refine List.dropWhile_eq_self_iff.2 fun hsome => ?_
    rw [← List.head_eq_getElem (List.ne_nil_of_length_pos hsome), h.front]
    exact Bool.false_ne_true
  have hback : chars.rdropWhile isBlank = chars := by
    refine List.rdropWhile_eq_self_iff.2 fun hsome => ?_
    rw [h.back hsome]
    exact Bool.false_ne_true
  rw [trimBlanks_eq, hfront, hback]

theorem trimBlanks_subset (chars : List Char) : trimBlanks chars ⊆ chars :=
  fun _ hc => (List.dropWhile_suffix isBlank).subset ((List.rdropWhile_prefix isBlank _).subset hc)

/-! ## Pieces -/

section Pieces

variable {separator : Char} {text : List Char}

/-- A text without the separator is one piece. -/
theorem pieces_of_not_mem (h : separator ∉ text) : pieces separator text = [text] := by
  induction text with
  | nil => rfl
  | cons c rest ih =>
    obtain ⟨hc, hrest⟩ := not_or.1 fun hor => h (List.mem_cons.2 hor)
    rw [pieces, if_neg (Ne.symm hc), ih hrest]

theorem not_mem_of_mem_pieces : ∀ piece ∈ pieces separator text, separator ∉ piece := by
  induction text with
  | nil => simp [pieces]
  | cons c rest ih =>
    rw [pieces]
    split_ifs with hc
    · exact List.forall_mem_cons.2 ⟨List.not_mem_nil, ih⟩
    · cases hpieces : pieces separator rest with
      | nil => exact absurd hpieces (pieces_ne_nil separator rest)
      | cons piece more =>
        rw [hpieces] at ih
        obtain ⟨hpiece, hmore⟩ := List.forall_mem_cons.1 ih
        exact List.forall_mem_cons.2 ⟨List.not_mem_cons_of_ne_of_not_mem (Ne.symm hc) hpiece, hmore⟩

end Pieces

/-! ## Tokens -/

/-- A token has a character, no comma, and no blanks at its ends. -/
structure IsToken (token : String) : Prop where
  ne_empty : token ≠ ""
  no_comma : ',' ∉ token.toList
  trimmed : Trimmed token.toList

/-- The tokens of a value, as it gives them. -/
def valueTokens (value : List Char) : List (List Char) :=
  ((pieces ',' value).map trimBlanks).filter (!·.isEmpty)

theorem inputs_ofValue? (value : String) :
    (InputArgs.ofValue? (some value)).inputs
      = (valueTokens value.toList).map fun token => normalizeToken (String.ofList token) := by
  simp only [InputArgs.ofValue?, InputArgs.ofTokens, List.map_map]
  rfl

theorem isToken_of_mem_valueTokens {value : List Char} :
    ∀ token ∈ valueTokens value, IsToken (String.ofList token) := by
  intro token htoken
  obtain ⟨hmem, hsome⟩ := List.mem_filter.1 htoken
  obtain ⟨piece, hpiece, rfl⟩ := List.mem_map.1 hmem
  refine ⟨?_, ?_, ?_⟩
  · simpa using hsome
  · rw [String.toList_ofList]
    exact fun hcomma => not_mem_of_mem_pieces piece hpiece (trimBlanks_subset piece hcomma)
  · rw [String.toList_ofList]
    exact trimmed_trimBlanks piece

/-- **The tokens on both sides of a comma** are those of either side. -/
theorem valueTokens_append (front back : List Char) :
    valueTokens (front ++ ',' :: back) = valueTokens front ++ valueTokens back := by
  rw [valueTokens, pieces_append_cons, List.map_append, List.filter_append]
  rfl

/-- A token is the one token of itself. -/
theorem valueTokens_of_isToken {token : String} (h : IsToken token) :
    valueTokens token.toList = [token.toList] := by
  have hsome : token.toList ≠ [] := fun hnil => h.ne_empty (String.toList_eq_nil_iff.1 hnil)
  rw [valueTokens, pieces_of_not_mem h.no_comma, List.map_singleton, trimBlanks_of_trimmed h.trimmed]
  exact List.filter_cons_of_pos (by simpa using hsome)

/-- **Joined tokens are divided into the same again.** -/
theorem valueTokens_intercalate {tokens : List String} (h : ∀ token ∈ tokens, IsToken token) :
    valueTokens (",".intercalate tokens).toList = tokens.map String.toList := by
  induction tokens with
  | nil => rfl
  | cons token rest ih =>
    obtain ⟨htoken, hrest⟩ := List.forall_mem_cons.1 h
    cases rest with
    | nil => exact valueTokens_of_isToken htoken
    | cons next later =>
      have hjoined : (",".intercalate (token :: next :: later)).toList
          = token.toList ++ ',' :: (",".intercalate (next :: later)).toList := by
        rw [String.intercalate_cons_cons, String.toList_append, String.toList_append, List.append_assoc]
        rfl
      rw [hjoined, valueTokens_append, valueTokens_of_isToken htoken, ih hrest]
      rfl

/-! ## Inputs -/

theorem isToken_standardInputId : IsToken standardInputId := by
  refine ⟨?_, ?_, ?_, ?_⟩ <;> decide

theorem isToken_normalizeToken {token : String} (h : IsToken token) : IsToken (normalizeToken token) := by
  unfold normalizeToken
  split_ifs
  · exact isToken_standardInputId
  · exact h

/-- Of the spellings of standard input, one is left. -/
theorem toLower_normalizeToken (token : String) : (normalizeToken token).toLower ≠ "stdin" := by
  unfold normalizeToken
  split_ifs with h
  · decide +kernel
  · exact fun hstdin => h (Or.inr hstdin)

/-- **Every input of a value is a token**, and none is another spelling of standard input. -/
theorem isToken_of_mem_ofValue? (value : Option String) :
    ∀ token ∈ (InputArgs.ofValue? value).inputs, IsToken token ∧ token.toLower ≠ "stdin" := by
  intro token htoken
  cases value with
  | none =>
    obtain rfl := List.mem_singleton.1 htoken
    exact ⟨isToken_standardInputId, by decide +kernel⟩
  | some value =>
    rw [inputs_ofValue?] at htoken
    obtain ⟨given, hgiven, rfl⟩ := List.mem_map.1 htoken
    exact ⟨isToken_normalizeToken (isToken_of_mem_valueTokens given hgiven), toLower_normalizeToken _⟩

/-- **The inputs of a value can all be used**: with them, what can be built is what could be built before. -/
theorem Builder.build_addArgs_iff {σ : Type} (value : Option String) (builder : Builder σ) :
    (∃ list, (builder.addArgs (.ofValue? value)).build = .ok list) ↔ ∃ list, builder.build = .ok list := by
  have hargs : ∀ input ∈ (InputArgs.ofValue? value).inputs.map (Pending.argument : String → Pending σ),
      input.Usable := by
    intro input hinput
    obtain ⟨token, htoken, rfl⟩ := List.mem_map.1 hinput
    exact (isToken_of_mem_ofValue? value token htoken).1.ne_empty
  rw [build_eq_ok_iff, build_eq_ok_iff, inputs_addArgs]
  exact ⟨fun hall input hinput => hall input (List.mem_append_left _ hinput),
    fun hall => List.forall_mem_append.2 ⟨hall, hargs⟩⟩

/-- **The value of an argument.** Two values joined by a comma name the inputs of the first and then those of the
second. Tokens joined by commas name the inputs of these tokens. And whatever a value names, or no value, is a
token, and none is another spelling of standard input, so that a new builder with these inputs builds a list under
either policy, and no builder fails that did not before. -/
theorem value_divides_at_commas {σ : Type} :
    (∀ front back : String, (InputArgs.ofValue? (some (front ++ "," ++ back))).inputs
        = (InputArgs.ofValue? (some front)).inputs ++ (InputArgs.ofValue? (some back)).inputs)
      ∧ (∀ tokens : List String, (∀ token ∈ tokens, IsToken token) →
          InputArgs.ofValue? (some (",".intercalate tokens)) = InputArgs.ofTokens tokens)
      ∧ ∀ value : Option String,
          (∀ token ∈ (InputArgs.ofValue? value).inputs, IsToken token ∧ token.toLower ≠ "stdin")
            ∧ (∀ policy, ∃ list,
                ((Builder.empty.setPolicy policy).addArgs (.ofValue? value) : Builder σ).build = .ok list)
            ∧ ∀ builder : Builder σ, (∃ list, (builder.addArgs (.ofValue? value)).build = .ok list)
                ↔ ∃ list, builder.build = .ok list := by
  refine ⟨fun front back => ?_, fun tokens htokens => ?_, fun value => ⟨isToken_of_mem_ofValue? value, ?_, ?_⟩⟩
  · have hjoined : (front ++ "," ++ back).toList = front.toList ++ ',' :: back.toList := by
      rw [String.toList_append, String.toList_append, List.append_assoc]
      rfl
    rw [inputs_ofValue?, inputs_ofValue?, inputs_ofValue?, hjoined, valueTokens_append, List.map_append]
  · have hinputs : (InputArgs.ofValue? (some (",".intercalate tokens))).inputs = tokens.map normalizeToken := by
      rw [inputs_ofValue?, valueTokens_intercalate htokens, List.map_map]
      exact List.map_congr_left fun token _ => congrArg normalizeToken String.ofList_toList
    exact congrArg InputArgs.mk hinputs
  · intro policy
    exact (Builder.build_addArgs_iff value _).2 ⟨_, rfl⟩
  · exact Builder.build_addArgs_iff value

/-- A path with a blank inside, standard input in capitals, and a path beyond ASCII. -/
theorem value_divides_at_commas_mixed :
    let tokens := ["a b", "STDIN", "é"]
    (∀ token ∈ tokens, IsToken token)
      ∧ (InputArgs.ofValue? (some "a b,STDIN,é")).inputs = ["a b", "-", "é"] := by
  intro tokens
  have htokens : ∀ token ∈ tokens, IsToken token := by
    intro token htoken
    simp only [tokens, List.mem_cons, List.not_mem_nil, or_false] at htoken
    rcases htoken with rfl | rfl | rfl <;> refine ⟨?_, ?_, ?_, ?_⟩ <;> decide +kernel
  refine ⟨htokens, ?_⟩
  have hjoined : ",".intercalate tokens = "a b,STDIN,é" := by decide +kernel
  rw [← hjoined, (@value_divides_at_commas Script).2.1 tokens htokens]
  decide +kernel

end InputChain
