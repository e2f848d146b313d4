import Mathlib.Data.List.Basic
import HurlAssist.Document.LineKind
import HurlAssist.Text.Case

/-!
The case of words that are written in ASCII capitals, as methods are. They are their own upper case
(`toUpper_of_capitals`), and the upper case of their lower case as well (`toUpper_toLower`).
-/

namespace HurlAssist.Text

open Line (isUpper)

/-- What holds of the 26 capitals, one by one. -/
theorem forall_capital {P : Char → Prop} (h : ∀ n < 26, P (Char.ofNat (65 + n))) (c : Char)
    (capital : isUpper c = true) : P c := by
  simp only [isUpper, Bool.and_eq_true, decide_eq_true_eq] at capital
  have low : 65 ≤ c.toNat := capital.1
  have high : c.toNat ≤ 90 := capital.2
  have here := h (c.toNat - 65) (by omega)
  rwa [Nat.add_sub_cancel' low, Char.ofNat_toNat] at here

/-- No capital is a sigma, which would have a small form of its own at the end of a word. -/
theorem ne_sigma_of_isUpper : ∀ c, isUpper c = true → c.toNat ≠ 0x3A3 :=
  forall_capital (by decide +kernel)

theorem upperChar_of_isUpper : ∀ c, isUpper c = true → upperChar c = [c] :=
  forall_capital (by decide +kernel)

theorem upperChar_lowerChar : ∀ c, isUpper c = true → (lowerChar c).flatMap upperChar = [c] :=
  forall_capital (by decide +kernel)

theorem lowerAfter_of_capitals {cs : List Char} (before : List Char)
    (capitals : ∀ c ∈ cs, isUpper c = true) : lowerAfter before cs = cs.flatMap lowerChar := by
  induction cs generalizing before with
  | nil => rfl
  | cons c cs ih =>
    have here := ne_sigma_of_isUpper c (capitals c List.mem_cons_self)
    rw [lowerAfter, if_neg (fun sigma => here sigma.1), List.flatMap_cons,
      ih _ fun d hd => capitals d (List.mem_cons_of_mem c hd)]

section

variable {word : String} (capitals : ∀ c ∈ word.toList, isUpper c = true)

include capitals

theorem toUpper_of_capitals : toUpper word = word := by
  have same : word.toList.flatMap upperChar = word.toList.flatMap fun c => [c] :=
    List.flatMap_congr fun c hc => upperChar_of_isUpper c (capitals c hc)
  rw [toUpper, same, List.flatMap_singleton', String.ofList_toList]

theorem toUpper_toLower : toUpper (toLower word) = word := by
  have same : (word.toList.flatMap lowerChar).flatMap upperChar =
      word.toList.flatMap fun c => [c] := by
    rw [List.flatMap_assoc]
    exact List.flatMap_congr fun c hc => upperChar_lowerChar c (capitals c hc)
  rw [toUpper, toLower, lowerAfter_of_capitals [] capitals, String.toList_ofList, same,
    List.flatMap_singleton', String.ofList_toList]

end

end HurlAssist.Text
