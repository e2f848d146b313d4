import HurlAssist.Proofs.Text.TrailingBlanks

/-!
Cutting a text at a mark or at an octet. Where the mark is not in the first of two texts, it is
found between them (`takeWhile_append_mark`, `dropWhile_append_mark`). Where a text is one text and
then another, the second is what stands from the octet on that the first ends at
(`fromOctet?_append`). So a line without the blanks around it can be cut behind its first word
(`fromOctet?_trim`).
-/

namespace HurlAssist.Text

section

variable {mark : Char} {before : List Char} (free : mark ∉ before)

include free

theorem bne_of_not_mem : ∀ c ∈ before, (c != mark) = true := by
  intro c hc
  rw [bne_iff_ne]
  rintro rfl
  exact free hc

theorem takeWhile_append_mark (after : List Char) :
    (before ++ mark :: after).takeWhile (· != mark) = before := by
  rw [List.takeWhile_append_of_pos (bne_of_not_mem free)]
  simp

theorem dropWhile_append_mark (after : List Char) :
    (before ++ mark :: after).dropWhile (· != mark) = mark :: after := by
  rw [List.dropWhile_append_of_pos (bne_of_not_mem free)]
  simp

theorem dropWhile_of_no_mark : before.dropWhile (· != mark) = [] :=
  List.dropWhile_eq_nil_iff.mpr (bne_of_not_mem free)

end

/-- The number of octets that a text takes in UTF-8. -/
def octets : List Char → Nat
  | [] => 0
  | c :: cs => c.utf8Size + octets cs

/-- A text from its octet `n` on, if a character starts there or the text ends. -/
def fromOctet? : Nat → List Char → Option (List Char)
  | 0, cs => some cs
  | _ + 1, [] => none
  | n + 1, c :: cs => if c.utf8Size ≤ n + 1 then fromOctet? (n + 1 - c.utf8Size) cs else none

theorem fromOctet?_append (cs ds : List Char) : fromOctet? (octets cs) (cs ++ ds) = some ds := by
  induction cs with
  | nil => cases ds <;> rfl
  | cons c cs ih =>
    have size : octets (c :: cs) = c.utf8Size + octets cs := rfl
    have pos := c.utf8Size_pos
    obtain ⟨n, hn⟩ := Nat.exists_eq_add_one_of_ne_zero (show octets (c :: cs) ≠ 0 by omega)
    rw [hn] at size
    rw [hn, List.cons_append, fromOctet?, if_pos (by omega), size, Nat.add_sub_cancel_left, ih]

/-- A text that is left when blanks are taken off has no blanks in front. -/
theorem Trails.dropBlank_eq {s cs : List Char} (h : Trails s (Text.dropBlank cs)) :
    Text.dropBlank s = s := by
  obtain ⟨ws, _, split⟩ := h
  have first := List.head?_dropWhile_not isBlank cs
  rw [← Text.dropBlank, split] at first
  cases s with
  | nil => rfl
  | cons c s =>
    simp only [List.cons_append, List.head?_cons] at first
    rw [Text.dropBlank, List.dropWhile_cons_of_neg (by simp [first])]

/-- Without the blanks around it, a line has the same first word. -/
theorem firstWord_trim (cs : List Char) : firstWord (trim cs) = firstWord cs := by
  have trails : Trails (trim cs) (dropBlank cs) := trails_trimEnd (dropBlank cs)
  rw [← trails.firstWord_eq, firstWord, (Trails.refl (dropBlank cs)).dropBlank_eq, firstWord]

/-- What follows the first word is the same but for blanks at the end. -/
theorem trails_afterFirstWord_trim (cs : List Char) :
    Trails (afterFirstWord (trim cs)) (afterFirstWord cs) := by
  have trails : Trails (trim cs) (dropBlank cs) := trails_trimEnd (dropBlank cs)
  have after := trails.afterFirstWord
  rw [afterFirstWord, afterFirstWord, (Trails.refl (dropBlank cs)).dropBlank_eq] at after
  exact after

/-- Without the blanks around it, a line starts with its first word. -/
theorem trim_eq_append (cs : List Char) : trim cs = firstWord cs ++ afterFirstWord (trim cs) := by
  have trails : Trails (trim cs) (dropBlank cs) := trails_trimEnd (dropBlank cs)
  rw [← firstWord_trim, ← dropBlank_eq_firstWord_append, trails.dropBlank_eq]

/-- It can be cut behind that word. -/
theorem fromOctet?_trim (cs : List Char) :
    fromOctet? (octets (firstWord cs)) (trim cs) = some (afterFirstWord (trim cs)) := by
  have cut := fromOctet?_append (firstWord cs) (afterFirstWord (trim cs))
  rwa [← trim_eq_append] at cut

end HurlAssist.Text
