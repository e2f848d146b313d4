/-!
Cutting a text into lines. A line ends at a line feed; a carriage return right before it belongs
to the line's end. A text with `n` line feeds has `n + 1` lines, so that line numbers agree with
what an editor shows.
-/

namespace HurlAssist.Text

/-- The pieces of a text between its line feeds. -/
def pieces : List Char → List (List Char)
  | [] => [[]]
  | c :: cs =>
    if c = '\n' then [] :: pieces cs
    else
      match pieces cs with
      | [] => [[c]]
      | p :: ps => (c :: p) :: ps

/-- The piece without the carriage return that ends it, if one does. -/
def dropReturn : List Char → List Char
  | [] => []
  | [c] => if c = '\r' then [] else [c]
  | c :: d :: cs => c :: dropReturn (d :: cs)

/-- The lines of a text, without their ends. -/
def lines (source : String) : List String :=
  (pieces source.toList).map fun p => String.ofList (dropReturn p)

theorem pieces_ne_nil (cs : List Char) : pieces cs ≠ [] := by
  cases cs with
  | nil => simp [pieces]
  | cons c cs =>
    simp only [pieces]
    split
    · simp
    · split <;> simp

/-- A text has one line more than it has line feeds. -/
theorem length_pieces (cs : List Char) : (pieces cs).length = cs.count '\n' + 1 := by
  induction cs with
  | nil => rfl
  | cons c cs ih =>
    by_cases h : c = '\n'
    · simp [pieces, h, ih]
    · rw [pieces, if_neg h, List.count_cons_of_ne (by simpa using h)]
      rw [← ih]
      cases hp : pieces cs with
      | nil => exact absurd hp (pieces_ne_nil cs)
      | cons p ps => simp

end HurlAssist.Text
