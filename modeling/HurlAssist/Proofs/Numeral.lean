import Mathlib.Data.Nat.Digits.Defs
import HurlAssist.Proofs.Document.LineForms
import HurlAssist.Document.Parse

/-!
Integers as they are written: decimal digits, at least one, behind a sign or none. `Denotes` says
which integer a token stands for, by the places of its digits, and `read?` reads a token from left
to right in 32 bits, giving up where a number on the way does not fit. Reading gives the integer
that the token denotes exactly if 32 bits hold it (`read?_eq`), and the status of a response is what
reading gives (`statusOf_eq_read?`).
-/

namespace HurlAssist

namespace Numeral

open Text

/-- The value of a decimal digit. -/
def digit (c : Char) : Nat := c.toNat - '0'.toNat

/-- The value of decimal digits by their places, the last one being that of the units. -/
def byPlaces (digits : List Char) : Nat := Nat.ofDigits 10 (digits.reverse.map digit)

/-- A number with one more digit behind it. -/
def append (n : Nat) (c : Char) : Nat := 10 * n + digit c

/-- The token consists of digits, at least one, behind one sign or none, and stands for this
integer. -/
inductive Denotes : List Char → Int → Prop where
  | unsigned {digits : List Char} (number : digits ∈ oneOrMore Line.isDigit) :
      Denotes digits (byPlaces digits)
  | plus {digits : List Char} (number : digits ∈ oneOrMore Line.isDigit) :
      Denotes ('+' :: digits) (byPlaces digits)
  | minus {digits : List Char} (number : digits ∈ oneOrMore Line.isDigit) :
      Denotes ('-' :: digits) (-byPlaces digits)

/-- 32 bits with sign hold the integer. -/
def Fits (n : Int) : Prop := -2 ^ 31 ≤ n ∧ n ≤ 2 ^ 31 - 1

instance (n : Int) : Decidable (Fits n) := inferInstanceAs (Decidable (_ ∧ _))

/-- The number, if 32 bits with sign hold it. -/
def word? (n : Int) : Option Int32 := if Fits n then some (.ofInt n) else none

/-- The number with one more digit, on the side of zero that the sign says. Both the product and
the sum have to fit 32 bits. -/
def push? (sign : Int) (n : Int32) (c : Char) : Option Int32 :=
  (word? (n.toInt * 10)).bind fun shifted =>
    if Line.isDigit c then word? (shifted.toInt + sign * digit c) else none

/-- The sign in front of a token, as a factor, and what stands behind it. -/
def signed : List Char → Int × List Char
  | '-' :: digits => (-1, digits)
  | '+' :: digits => (1, digits)
  | digits => (1, digits)

/-- Reads a token in 32 bits, one digit after the other. -/
def read? (token : List Char) : Option Int32 :=
  if (signed token).2.isEmpty then none else (signed token).2.foldlM (push? (signed token).1) 0

theorem ofDigits_eq_byPlaces (digits : List Char) : Decimal.ofDigits digits = byPlaces digits := by
  have step : append = fun n c => digit c + 10 * n := by
    funext n c
    exact Nat.add_comm _ _
  calc
    Decimal.ofDigits digits = digits.foldl append 0 := rfl
    _ = byPlaces digits := by
      rw [byPlaces, Nat.ofDigits_eq_foldr, List.map_reverse, List.foldr_reverse, List.foldl_map,
        step]
      rfl

theorem sign_cases (token : List Char) : (signed token).1 = 1 ∨ (signed token).1 = -1 := by
  unfold signed
  split
  · exact .inr rfl
  · exact .inl rfl
  · exact .inl rfl

theorem signed_of_number {digits : List Char} (number : digits ∈ oneOrMore Line.isDigit) :
    signed digits = (1, digits) := by
  unfold signed
  split
  · cases number.2 '-' List.mem_cons_self
  · cases number.2 '+' List.mem_cons_self
  · rfl

/-- A token denotes an integer if there are digits behind the sign, and then the one that they
write with that sign. -/
theorem denotes_iff {token : List Char} {n : Int} : Denotes token n ↔
    Line.isNumber (signed token).2 = true ∧
      n = (signed token).1 * Decimal.ofDigits (signed token).2 := by
  rw [Line.isNumber_iff, ofDigits_eq_byPlaces]
  constructor
  · intro denotes
    cases denotes with
    | unsigned number =>
      rw [signed_of_number number]
      exact ⟨number, (Int.one_mul _).symm⟩
    | plus number => exact ⟨number, (Int.one_mul _).symm⟩
    | minus number => exact ⟨number, (Int.neg_one_mul _).symm⟩
  · rintro ⟨number, rfl⟩
    revert number
    fun_cases signed token with
    | case1 digits =>
      intro number
      rw [Int.neg_one_mul]
      exact .minus number
    | case2 digits =>
      intro number
      rw [Int.one_mul]
      exact .plus number
    | case3 =>
      intro number
      rw [Int.one_mul]
      exact .unsigned number

theorem toInt_of_word? {n : Int} {w : Int32} (h : word? n = some w) : Fits n ∧ w.toInt = n := by
  unfold word? at h
  split at h
  · rename_i fits
    obtain rfl := Option.some.inj h
    exact ⟨fits, Int32.toInt_ofInt_of_le fits.1 (Int.lt_of_le_sub_one fits.2)⟩
  · cases h

theorem word?_toInt (w : Int32) : word? w.toInt = some w := by
  have fits : Fits w.toInt := ⟨w.le_toInt, Int.le_sub_one_of_lt w.toInt_lt⟩
  rw [word?, if_pos fits, Int32.ofInt_toInt]

theorem word?_eq_none_iff {n : Int} : word? n = none ↔ ¬ Fits n := by
  by_cases fits : Fits n
  · simp [word?, fits]
  · simp [word?, fits]

theorem le_append (n : Nat) (c : Char) : n ≤ append n c := by
  unfold append
  omega

theorem le_foldl_append (digits : List Char) (n : Nat) : n ≤ digits.foldl append n := by
  induction digits generalizing n with
  | nil => exact Nat.le_refl n
  | cons c digits ih => exact (le_append n c).trans (ih (append n c))

section

variable {sign : Int} (unit : sign = 1 ∨ sign = -1)

include unit

/-- What does not fit does not fit further away from zero either. -/
theorem word?_eq_none_of_le {m n : Nat} (h : word? (sign * m) = none) (le : m ≤ n) :
    word? (sign * n) = none := by
  rw [word?_eq_none_iff, Fits] at h ⊢
  rcases unit with rfl | rfl
  · omega
  · omega

/-- One more digit gives the number with that digit, if it fits. -/
theorem push?_eq {w : Int32} {n : Nat} (hw : w.toInt = sign * n) (c : Char) :
    push? sign w c = if Line.isDigit c then word? (sign * append n c) else none := by
  have product : w.toInt * 10 = sign * (10 * n : Nat) := by
    rw [hw]
    push_cast
    ring
  rw [push?, product]
  cases shifted : word? (sign * (10 * n : Nat)) with
  | none =>
    have further : 10 * n ≤ append n c := Nat.le_add_right _ _
    rw [Option.bind_none, word?_eq_none_of_le unit shifted further, ite_self]
  | some w' =>
    obtain ⟨-, value⟩ := toInt_of_word? shifted
    rw [Option.bind_some, value, ← Int.mul_add, append, Nat.cast_add]

/-- Reading digits from a number on gives the number that they write behind it, if it fits. -/
theorem foldlM_push? (digits : List Char) {w : Int32} {n : Nat} (hw : w.toInt = sign * n) :
    digits.foldlM (push? sign) w =
      if digits.all Line.isDigit then word? (sign * digits.foldl append n) else none := by
  induction digits generalizing w n with
  | nil =>
    rw [List.foldlM_nil, List.foldl_nil, ← hw, word?_toInt]
    rfl
  | cons c digits ih =>
    rw [List.foldlM_cons, push?_eq unit hw, List.all_cons, List.foldl_cons]
    cases Line.isDigit c with
    | false => rfl
    | true =>
      rw [if_pos rfl, Bool.true_and]
      cases next : word? (sign * append n c) with
      | none =>
        -- the digits to come only lead further away from zero
        rw [word?_eq_none_of_le unit next (le_foldl_append digits _), ite_self]
        rfl
      | some w' => exact ih (toInt_of_word? next).2

end

/-- Reading a token gives the integer that its digits write, if it fits. -/
theorem read?_eq (token : List Char) : read? token =
    if Line.isNumber (signed token).2 then
      word? ((signed token).1 * Decimal.ofDigits (signed token).2)
    else none := by
  have zero : (0 : Int32).toInt = (signed token).1 * (0 : Nat) := by simp
  rw [read?, foldlM_push? (sign_cases token) _ zero, Line.isNumber]
  cases (signed token).2.isEmpty with
  | true => rfl
  | false => rfl

/-- The integer that a token of this sign and these digits has as a status. -/
theorem statusOf_eq (token : List Char) : Response.statusOf token =
    if Line.isNumber (signed token).2 ∧ Fits ((signed token).1 * Decimal.ofDigits (signed token).2)
      then (signed token).1 * Decimal.ofDigits (signed token).2 else 0 := by
  unfold Response.statusOf
  fun_cases signed token with
  | case1 digits =>
    cases number : Line.isNumber digits with
    | false => simp [number]
    | true => simp [number, Fits]
  | case2 digits =>
    cases number : Line.isNumber digits with
    | false => simp [number]
    | true => simp [number, Fits]
  | case3 =>
    cases number : Line.isNumber token with
    | false => simp [number]
    | true => simp [number, Fits]

/-- A token that denotes an integer of 32 bits has it as its status, any other token 0. -/
theorem statusOf_spec (token : List Char) :
    (∀ n, Denotes token n → Fits n → Response.statusOf token = n) ∧
      ((∀ n, Denotes token n → ¬ Fits n) → Response.statusOf token = 0) := by
  rw [statusOf_eq]
  constructor
  · intro n denotes fits
    obtain ⟨number, rfl⟩ := denotes_iff.mp denotes
    rw [if_pos ⟨number, fits⟩]
  · intro none
    apply if_neg
    rintro ⟨number, fits⟩
    exact none _ (denotes_iff.mpr ⟨number, rfl⟩) fits

/-- The status is what is read in 32 bits, or 0 if reading gives up. -/
theorem statusOf_eq_read? (token : List Char) :
    Response.statusOf token = (read? token).elim 0 Int32.toInt := by
  rw [statusOf_eq, read?_eq]
  cases Line.isNumber (signed token).2 with
  | false => simp
  | true =>
    rw [if_pos rfl]
    cases read : word? ((signed token).1 * Decimal.ofDigits (signed token).2) with
    | none => exact if_neg fun h => word?_eq_none_iff.mp read h.2
    | some w =>
      obtain ⟨fits, value⟩ := toInt_of_word? read
      rw [if_pos ⟨rfl, fits⟩, Option.elim_some, value]

end Numeral

end HurlAssist
