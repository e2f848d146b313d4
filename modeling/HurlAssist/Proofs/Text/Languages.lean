import Mathlib.Computability.Language

/-!
Languages of characters that the forms of texts are made of.
-/

namespace HurlAssist.Text

variable {p : Char → Bool} {w : List Char}

/-- Any number of these characters. -/
def many (p : Char → Bool) : Language Char := {w : List Char | ∀ c ∈ w, p c = true}

/-- One or more of these characters. -/
def oneOrMore (p : Char → Bool) : Language Char :=
  {w : List Char | w ≠ [] ∧ ∀ c ∈ w, p c = true}

/-- This text alone. -/
def just (text : String) : Language Char := {text.toList}

theorem mem_oneOrMore : w ∈ oneOrMore p ↔ w ≠ [] ∧ ∀ c ∈ w, p c = true := Iff.rfl

theorem mem_top : w ∈ (⊤ : Language Char) := Set.mem_univ w

end HurlAssist.Text
