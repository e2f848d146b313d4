/-!
White space: the characters with the Unicode property White_Space, and what it means to strip
them from text and to read text word by word.

Main statements: `dropBlank` and `trimEnd` remove blanks only, from one side each, and a line is
its first word between blanks (`dropBlank_eq_firstWord_append`).
-/

namespace HurlAssist.Text

/-- A character with the Unicode property White_Space. -/
def isBlank (c : Char) : Bool :=
  (0x9 ≤ c.toNat && c.toNat ≤ 0xD) || c.toNat == 0x20 || c.toNat == 0x85 || c.toNat == 0xA0 ||
  c.toNat == 0x1680 || (0x2000 ≤ c.toNat && c.toNat ≤ 0x200A) || c.toNat == 0x2028 ||
  c.toNat == 0x2029 || c.toNat == 0x202F || c.toNat == 0x205F || c.toNat == 0x3000

/-- The text without its leading blanks. -/
def dropBlank (cs : List Char) : List Char := cs.dropWhile isBlank

/-- The text without its trailing blanks. -/
def trimEnd : List Char → List Char
  | [] => []
  | c :: cs =>
    match trimEnd cs with
    | [] => if isBlank c then [] else [c]
    | d :: ds => c :: d :: ds

/-- The text without its leading and its trailing blanks. -/
def trim (cs : List Char) : List Char := trimEnd (dropBlank cs)

/-- How many blanks the text starts with. -/
def indent (cs : List Char) : Nat := (cs.takeWhile isBlank).length

/-- The first run of characters that are not blank; empty if all of the text is blank. -/
def firstWord (cs : List Char) : List Char := (dropBlank cs).takeWhile (!isBlank ·)

/-- What follows the first word. -/
def afterFirstWord (cs : List Char) : List Char := (dropBlank cs).dropWhile (!isBlank ·)

theorem dropBlank_eq_firstWord_append (cs : List Char) :
    dropBlank cs = firstWord cs ++ afterFirstWord cs :=
  (List.takeWhile_append_dropWhile).symm

theorem eq_blanks_append_dropBlank (cs : List Char) :
    cs = cs.takeWhile isBlank ++ dropBlank cs :=
  (List.takeWhile_append_dropWhile).symm

/-- A text is the blanks in front, the first word, and what follows it. -/
theorem eq_blanks_append_words (cs : List Char) :
    cs = cs.takeWhile isBlank ++ firstWord cs ++ afterFirstWord cs := by
  rw [List.append_assoc, ← dropBlank_eq_firstWord_append]
  exact eq_blanks_append_dropBlank cs

theorem trimEnd_append_blanks (cs : List Char) {ws : List Char} (h : ∀ c ∈ ws, isBlank c = true) :
    trimEnd (cs ++ ws) = trimEnd cs := by
  induction cs with
  | nil =>
    induction ws with
    | nil => rfl
    | cons w ws ih =>
      have hw := h w (by simp)
      have := ih fun c hc => h c (by simp [hc])
      simp only [List.nil_append, trimEnd] at this ⊢
      simp [this, hw]
  | cons c cs ih => simp only [List.cons_append, trimEnd, ih]

/-- Whether the text holds nothing but blanks. -/
def allBlank (cs : List Char) : Bool := cs.all isBlank

end HurlAssist.Text
