import HurlAssist.Digits
import HurlAssist.Text.Parts

/-!
Sets of characters given by ranges of code points, as the tables of the Unicode properties give
them. A long table is written as text: hexadecimal numbers between blanks, two with a hyphen for all
from the first to the second.
-/

namespace HurlAssist.Text

/-- Whether a code point lies in one of the ranges. Both ends of a range belong to it. -/
def inRanges (ranges : List (Nat × Nat)) (n : Nat) : Bool :=
  ranges.any fun r => r.1 ≤ n && n ≤ r.2

/-- The words of a table. -/
def tableWords (table : String) : List (List Char) :=
  (parts (fun c => c == ' ' || c == '\n') table.toList).filter (!·.isEmpty)

/-- The range that a word writes. -/
def range? (word : List Char) : Option (Nat × Nat) :=
  match (parts (· == '-') word).mapM (Digits.number? 16) with
  | some [n] => some (n, n)
  | some [first, last] => some (first, last)
  | _ => none

/-- The ranges that a table writes. -/
def ranges (table : String) : List (Nat × Nat) := (tableWords table).filterMap range?

end HurlAssist.Text
