/-!
Decimal numerals and the range of double precision. A double has 53 significant bits; a value from
`2 ^ 1024 - 2 ^ 970` up rounds to infinity, since that is half way between the largest double and
the next power of two.
-/

namespace HurlAssist.Decimal

/-- The natural number with 53 significant bits that is nearest, of two the even one. -/
def roundDouble (n : Nat) : Nat :=
  let bits := n.log2 + 1
  if bits ≤ 53 then n
  else
    let unit := Nat.pow 2 (bits - 53)
    let q := n / unit
    let r := n % unit
    (if unit < 2 * r ∨ (unit = 2 * r ∧ q % 2 = 1) then q + 1 else q) * unit

/-- The least value that no double stands for any more. -/
def tooLarge : Nat := Nat.pow 2 1024 - Nat.pow 2 970

/-- The number that a run of decimal digits writes. -/
def ofDigits (digits : List Char) : Nat :=
  digits.foldl (fun n c => 10 * n + (c.toNat - '0'.toNat)) 0

/-- Whether `n` times `10 ^ e` rounds to a double. Exponents far out are decided by the number of
digits alone, so that no huge power is ever computed. -/
def fitsDouble (n : Nat) (e : Int) : Bool :=
  if n = 0 then true
  else
    let digits : Int := (Nat.toDigits 10 n).length
    if 310 < digits + e then false
    else if digits + e < 300 then true
    else if 0 ≤ e then n * Nat.pow 10 e.toNat < tooLarge
    else n < tooLarge * Nat.pow 10 (-e).toNat

end HurlAssist.Decimal
