import HurlAssist.Text.Blank

/-!
The words of a text: what stands between its blanks.

Main statement: taking the first word off is taking the first of the words (`words_eq`).
-/

namespace HurlAssist.Text

/-- The words of a text, its longest runs of characters that are not blank. -/
def words (cs : List Char) : List (List Char) := (cs.splitOnP isBlank).filter (!·.isEmpty)

theorem words_cons_blank {c : Char} (h : isBlank c = true) (cs : List Char) :
    words (c :: cs) = words cs := by
  simp [words, List.splitOnP_cons_eq_if_modifyHead, h]

theorem words_dropBlank (cs : List Char) : words (dropBlank cs) = words cs := by
  induction cs with
  | nil => rfl
  | cons c cs ih =>
    cases h : isBlank c with
    | true => rw [words_cons_blank h, ← ih, dropBlank, List.dropWhile_cons_of_pos h, dropBlank]
    | false => rw [dropBlank, List.dropWhile_cons_of_neg (by simp [h])]

theorem words_append {w rest : List Char} (whole : ∀ c ∈ w, isBlank c = false) (ne : w ≠ [])
    (ended : ∀ c, rest.head? = some c → isBlank c = true) : words (w ++ rest) = w :: words rest := by
  cases rest with
  | nil => simp [words, List.splitOnP_eq_singleton whole, ne]
  | cons c rest =>
    rw [words_cons_blank (ended c rfl), words,
      List.splitOnP_append_cons_of_forall_mem whole c (ended c rfl)]
    simp [words, ne]

theorem firstWord_whole (cs : List Char) : ∀ c ∈ firstWord cs, isBlank c = false := by
  have all := List.all_takeWhile (p := (!isBlank ·)) (l := dropBlank cs)
  intro c hc
  simpa using List.all_eq_true.mp all c hc

/-- The first word of a text stands between the blanks in front and a blank or the end. -/
theorem firstWord_append {ws w rest : List Char} (blank : ∀ c ∈ ws, isBlank c = true) (ne : w ≠ [])
    (whole : ∀ c ∈ w, isBlank c = false) (ended : ∀ c, rest.head? = some c → isBlank c = true) :
    firstWord (ws ++ w ++ rest) = w := by
  have dropped : dropBlank (ws ++ w ++ rest) = w ++ rest := by
    cases w with
    | nil => exact absurd rfl ne
    | cons c w =>
      have first := whole c List.mem_cons_self
      rw [dropBlank, List.append_assoc, List.dropWhile_append_of_pos blank, List.cons_append,
        List.dropWhile_cons_of_neg (by simp [first])]
  have taken : rest.takeWhile (!isBlank ·) = [] := by
    cases rest with
    | nil => rfl
    | cons c rest => simp [ended c rfl]
  rw [firstWord, dropped, List.takeWhile_append_of_pos fun c hc => by simp [whole c hc], taken,
    List.append_nil]

theorem head?_afterFirstWord {cs : List Char} {c : Char} (h : (afterFirstWord cs).head? = some c) :
    isBlank c = true := by
  have ended := List.head?_dropWhile_not (!isBlank ·) (dropBlank cs)
  rw [← afterFirstWord, h] at ended
  simpa using ended

/-- Without a first word there is no word, else the others are the words of what follows it. -/
theorem words_eq (cs : List Char) :
    words cs = if firstWord cs = [] then [] else firstWord cs :: words (afterFirstWord cs) := by
  rw [← words_dropBlank, dropBlank_eq_firstWord_append]
  split
  · rename_i none
    have empty : dropBlank cs = [] := by
      cases h : dropBlank cs with
      | nil => rfl
      | cons c rest =>
        have first := List.head?_dropWhile_not isBlank cs
        rw [← dropBlank, h] at first
        simp only [List.head?_cons] at first
        simp [firstWord, h, first] at none
    rw [dropBlank_eq_firstWord_append] at empty
    rw [empty]
    rfl
  · rename_i some
    exact words_append (firstWord_whole cs) some fun c hc => head?_afterFirstWord hc

/-- A text of one word has a first word and no second. -/
theorem length_words_eq_one (cs : List Char) :
    (words cs).length = 1 ↔ firstWord cs ≠ [] ∧ firstWord (afterFirstWord cs) = [] := by
  rw [words_eq]
  by_cases first : firstWord cs = []
  · simp [first]
  · rw [if_neg first, words_eq]
    by_cases second : firstWord (afterFirstWord cs) = []
    · simp [first, second]
    · simp [second]

end HurlAssist.Text
