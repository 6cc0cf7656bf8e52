/-!
# A text cut at a separator

* `pieces`: the pieces between the separators, empty ones among them.
* `pieces_append_cons`: cutting works on both sides of a separator alike.
-/

namespace InputChain

/-- The pieces of a text between the characters `separator`: one piece more than there are of
these. -/
def pieces (separator : Char) : List Char → List (List Char)
  | [] => [[]]
  | c :: rest =>
    if c = separator then [] :: pieces separator rest
    else
      match pieces separator rest with
      | piece :: more => (c :: piece) :: more
      | [] => [[c]]

theorem pieces_ne_nil (separator : Char) (text : List Char) : pieces separator text ≠ [] := by
  cases text with
  | nil => simp [pieces]
  | cons c rest =>
    simp only [pieces]
    split
    · simp
    · split <;> simp

theorem pieces_append_cons (separator : Char) (front back : List Char) :
    pieces separator (front ++ separator :: back)
      = pieces separator front ++ pieces separator back := by
  induction front with
  | nil => simp [pieces]
  | cons c rest ih =>
    simp only [List.cons_append, pieces]
    split
    · rw [ih, List.cons_append]
    · rw [ih]
      match h : pieces separator rest with
      | [] => exact absurd h (pieces_ne_nil separator rest)
      | piece :: more => rfl

end InputChain
