/-!
Digits, for numbers in bases up to sixteen.
-/

namespace HurlAssist.Digits

/-- The value of a digit, which may be a letter of either case. -/
def value? (c : Char) : Option Nat :=
  if '0' ≤ c ∧ c ≤ '9' then some (c.toNat - '0'.toNat)
  else if 'a' ≤ c ∧ c ≤ 'f' then some (c.toNat - 'a'.toNat + 10)
  else if 'A' ≤ c ∧ c ≤ 'F' then some (c.toNat - 'A'.toNat + 10)
  else none

/-- A number with one more digit of a base. -/
def append? (base n : Nat) (c : Char) : Option Nat :=
  (value? c).bind fun d => if d < base then some (base * n + d) else none

/-- The number that digits of a base write. There has to be at least one. -/
def number? (base : Nat) (cs : List Char) : Option Nat :=
  if cs.isEmpty then none else cs.foldlM (append? base) 0

/-- The digit of a value below sixteen, as a small letter from ten on. -/
def lower (n : Nat) : Char := if n < 10 then Char.ofNat (48 + n) else Char.ofNat (87 + n)

/-- The digit of a value below sixteen, as a capital letter from ten on. -/
def upper (n : Nat) : Char := if n < 10 then Char.ofNat (48 + n) else Char.ofNat (55 + n)

end HurlAssist.Digits
