import Mathlib.Data.List.TakeWhile
import HurlAssist.Text.Blank

/-!
Blanks at the end of a text. Stripping blanks and reading words does not see them.

Main statements: a text is what `trimEnd` leaves of it with blanks behind (`trails_trimEnd`), and a
text with blanks behind it has the same first word, the same text without blanks around it, and the
same text with blanks behind it after the first word.
-/

namespace HurlAssist.Text

/-- The second text is the first with blanks behind it. -/
def Trails (s t : List Char) : Prop := ∃ ws, (∀ c ∈ ws, isBlank c = true) ∧ t = s ++ ws

theorem Trails.refl (cs : List Char) : Trails cs cs :=
  ⟨[], fun _ h => absurd h List.not_mem_nil, (List.append_nil cs).symm⟩

theorem trails_append (s : List Char) {ws : List Char} (h : allBlank ws = true) :
    Trails s (s ++ ws) :=
  ⟨ws, List.all_eq_true.mp h, rfl⟩

theorem Trails.cons {s t : List Char} (c : Char) (h : Trails s t) : Trails (c :: s) (c :: t) := by
  obtain ⟨ws, blank, rfl⟩ := h
  exact ⟨ws, blank, rfl⟩

theorem trails_trimEnd (cs : List Char) : Trails (trimEnd cs) cs := by
  induction cs with
  | nil => exact .refl []
  | cons c cs ih =>
    obtain ⟨ws, blank, whole⟩ := ih
    rw [trimEnd]
    cases left : trimEnd cs with
    | nil =>
      -- All behind `c` is blank, and `c` goes with it if it is blank too.
      rw [left, List.nil_append] at whole
      cases hc : isBlank c with
      | true =>
        refine ⟨c :: ws, ?_, by rw [whole]; rfl⟩
        intro x hx
        rcases List.mem_cons.mp hx with rfl | hx
        · exact hc
        · exact blank x hx
      | false => exact ⟨ws, blank, by rw [whole]; rfl⟩
    | cons d ds =>
      rw [left] at whole
      exact ⟨ws, blank, by rw [whole]; rfl⟩

theorem trimEnd_of_whole {w : List Char} (whole : ∀ c ∈ w, isBlank c = false) : trimEnd w = w := by
  obtain ⟨ws, blank, split⟩ := trails_trimEnd w
  cases ws with
  | nil =>
    rw [List.append_nil] at split
    exact split.symm
  | cons c ws =>
    have here : c ∈ w := by
      rw [split]
      simp
    have solid := whole c here
    rw [blank c List.mem_cons_self] at solid
    cases solid

/-- A text without blanks is what is left of it and blanks around it. -/
theorem trim_append {ws w ws' : List Char} (blank : ∀ c ∈ ws, isBlank c = true) (ne : w ≠ [])
    (whole : ∀ c ∈ w, isBlank c = false) (blank' : ∀ c ∈ ws', isBlank c = true) :
    trim (ws ++ w ++ ws') = w := by
  cases w with
  | nil => exact absurd rfl ne
  | cons c w =>
    have first := whole c List.mem_cons_self
    rw [trim, dropBlank, List.append_assoc, List.dropWhile_append_of_pos blank, List.cons_append,
      List.dropWhile_cons_of_neg (by simp [first]), ← List.cons_append,
      trimEnd_append_blanks _ blank', trimEnd_of_whole whole]

/-- A text is what is left of it without the blanks around it, and these blanks. -/
theorem exists_blanks_around_trim (cs : List Char) : ∃ ws, (∀ c ∈ ws, isBlank c = true) ∧
    cs = cs.takeWhile isBlank ++ trim cs ++ ws := by
  obtain ⟨ws, blank, split⟩ := trails_trimEnd (dropBlank cs)
  refine ⟨ws, blank, ?_⟩
  rw [trim, List.append_assoc, ← split]
  exact eq_blanks_append_dropBlank cs

/-- The text without blanks around it stands behind the blanks in front of it. -/
theorem indent_add_length_trim_le (cs : List Char) :
    indent cs + (trim cs).length ≤ cs.length := by
  obtain ⟨ws, _, parts⟩ := exists_blanks_around_trim cs
  have length := congrArg List.length parts
  rw [List.length_append, List.length_append] at length
  rw [indent]
  omega

theorem indent_add_length_words (cs : List Char) :
    indent cs + (firstWord cs).length + (afterFirstWord cs).length = cs.length := by
  have parts := congrArg List.length (eq_blanks_append_words cs)
  rw [List.length_append, List.length_append] at parts
  exact parts.symm

/-- The first word stands behind the blanks in front of it. -/
theorem indent_add_length_firstWord_le (cs : List Char) :
    indent cs + (firstWord cs).length ≤ cs.length := by
  have := indent_add_length_words cs
  omega

namespace Trails

variable {s t : List Char}

theorem trimEnd_eq (h : Trails s t) : Text.trimEnd t = Text.trimEnd s := by
  obtain ⟨ws, blank, rfl⟩ := h
  exact trimEnd_append_blanks s blank

/-- Either both sides hold nothing but blanks, or they start alike and go on with blanks behind. -/
theorem dropBlank_cases (h : Trails s t) :
    dropBlank s = [] ∧ dropBlank t = [] ∨
      ∃ c cs cs', dropBlank s = c :: cs ∧ dropBlank t = c :: cs' ∧ Trails cs cs' := by
  obtain ⟨ws, blank, rfl⟩ := h
  have behind : ws.dropWhile isBlank = [] := List.dropWhile_eq_nil_iff.mpr blank
  rw [dropBlank, dropBlank, List.dropWhile_append]
  cases s.dropWhile isBlank with
  | nil => exact .inl ⟨rfl, behind⟩
  | cons c cs => exact .inr ⟨c, cs, cs ++ ws, rfl, rfl, ws, blank, rfl⟩

theorem dropBlank (h : Trails s t) : Trails (Text.dropBlank s) (Text.dropBlank t) := by
  rcases h.dropBlank_cases with ⟨hs, ht⟩ | ⟨c, cs, cs', hs, ht, more⟩
  · rw [hs, ht]
    exact .refl []
  · rw [hs, ht]
    exact more.cons c

theorem trim_eq (h : Trails s t) : trim t = trim s := h.dropBlank.trimEnd_eq

/-- A word at the start is the same, and what follows it has blanks behind it. -/
theorem word (h : Trails s t) :
    t.takeWhile (!isBlank ·) = s.takeWhile (!isBlank ·) ∧
      Trails (s.dropWhile (!isBlank ·)) (t.dropWhile (!isBlank ·)) := by
  obtain ⟨ws, blank, rfl⟩ := h
  induction s with
  | nil =>
    cases ws with
    | nil => exact ⟨rfl, .refl []⟩
    | cons w ws =>
      have hw := blank w List.mem_cons_self
      exact ⟨by simp [hw], w :: ws, blank, by simp [hw]⟩
  | cons c s ih =>
    cases hc : isBlank c with
    | true => exact ⟨by simp [hc], ws, blank, by simp [hc]⟩
    | false =>
      obtain ⟨first, rest⟩ := ih
      refine ⟨by simpa [hc] using first, ?_⟩
      simpa [hc] using rest

theorem firstWord_eq (h : Trails s t) : firstWord t = firstWord s := h.dropBlank.word.1

theorem afterFirstWord (h : Trails s t) : Trails (Text.afterFirstWord s) (Text.afterFirstWord t) :=
  h.dropBlank.word.2

end Trails

end HurlAssist.Text
