import HurlAssist.Digits
import HurlAssist.Text.Parts

/-!
Addresses of machines. One of version 4 has four octets, written as numbers between dots; a name
that ends in a number is such an address, in one of the many ways to write it. One of version 6 has
eight pieces of 16 bits, written in hexadecimal between colons, and two colons stand for zeros.
-/

namespace HurlAssist.Url.Address

open HurlAssist.Text (parts)

/-! ### Version 4 -/

/-- The number that a part of an address writes: in hexadecimal after `0x`, which alone is zero, in
octal after a zero, and else in decimal digits. -/
def number? (part : List Char) : Option Nat :=
  match part with
  | '0' :: x :: rest =>
    if x = 'x' ∨ x = 'X' then if rest.isEmpty then some 0 else Digits.number? 16 rest
    else Digits.number? 8 (x :: rest)
  | _ => Digits.number? 10 part

/-- The labels of a name without an empty one at its end. -/
def labels (name : List Char) : List (List Char) :=
  let ls := parts (· == '.') name
  if ls.getLast? = some [] then ls.dropLast else ls

/-- Whether a name can only be an address. -/
def endsInNumber (name : List Char) : Bool :=
  match (labels name).getLast? with
  | none => false
  | some label => !label.isEmpty && label.all Char.isDigit || (number? label).isSome

/-- The address that numbers write. Each of them is an octet, but the last one stands for all octets
that are left. -/
def ofNumbers? (numbers : List Nat) : Option Nat := do
  let last ← numbers.getLast?
  let octets := numbers.dropLast
  let values := Nat.pow 256 (4 - octets.length)
  if 3 < octets.length ∨ octets.any (255 < ·) ∨ values ≤ last then none
  else return (octets.foldl (fun n o => 256 * n + o) 0) * values + last

/-- The four octets between dots. -/
def dotted (address : Nat) : List Char :=
  ['.'].intercalate ([3, 2, 1, 0].map fun i => Nat.toDigits 10 (address / Nat.pow 256 i % 256))

/-- The address that a name is, in its usual form. -/
def version4? (name : List Char) : Option (List Char) := do
  return dotted (← ofNumbers? (← (labels name).mapM number?))

/-! ### Version 6 -/

/-- The piece that up to four hexadecimal digits write. -/
def piece? (cs : List Char) : Option Nat := if 4 < cs.length then none else Digits.number? 16 cs

/-- An octet in decimal digits without leading zeros. -/
def octet? (cs : List Char) : Option Nat := do
  let n ← Digits.number? 10 cs
  if 255 < n ∨ (cs.head? = some '0' ∧ cs ≠ ['0']) then none else some n

/-- The two pieces that four octets between dots write. -/
def octetPieces? (cs : List Char) : Option (List Nat) := do
  match ← (parts (· == '.') cs).mapM octet? with
  | [a, b, c, d] => return [256 * a + b, 256 * c + d]
  | _ => none

/-- The pieces that words write. The last word of an address may be octets. -/
def pieces? (atEnd : Bool) : List (List Char) → Option (List Nat)
  | [] => some []
  | [w] => if atEnd && w.contains '.' then octetPieces? w else (piece? w).map ([·])
  | w :: ws => do return (← piece? w) :: (← pieces? atEnd ws)

/-- The words between colons, none if there is no text. -/
def words (cs : List Char) : List (List Char) := if cs.isEmpty then [] else parts (· == ':') cs

/-- What stands before two colons, and what stands after them if they are there. -/
def splitZeros : List Char → List Char × Option (List Char)
  | ':' :: ':' :: rest => ([], some rest)
  | c :: rest => (c :: (splitZeros rest).1, (splitZeros rest).2)
  | [] => ([], none)

/-- The eight pieces that a text writes. Two colons stand for at least one zero. -/
def ofText6? (cs : List Char) : Option (List Nat) :=
  match splitZeros cs with
  | (all, none) => do
    let pieces ← pieces? true (words all)
    if pieces.length = 8 then some pieces else none
  | (before, some after) => do
    let first ← pieces? false (words before)
    let last ← pieces? true (words after)
    if first.length + last.length < 8 then
      some (first ++ List.replicate (8 - first.length - last.length) 0 ++ last)
    else none

/-- How many zeros the pieces start with. -/
def zeros (pieces : List Nat) : Nat := (pieces.takeWhile (· == 0)).length

/-- The length of the longest run of zeros. -/
def longestZeros : List Nat → Nat
  | [] => 0
  | p :: ps => max (zeros (p :: ps)) (longestZeros ps)

/-- Pieces between colons. -/
def colons (pieces : List Nat) : List Char := [':'].intercalate (pieces.map (Nat.toDigits 16))

/-- The pieces before the first run of `n` zeros. -/
def beforeZeros (n : Nat) : List Nat → List Nat
  | [] => []
  | p :: ps => if zeros (p :: ps) = n then [] else p :: beforeZeros n ps

/-- The pieces with two colons in the place of the first of the longest runs of zeros. A single zero
is written. -/
def compressed (pieces : List Nat) : List Char :=
  let n := longestZeros pieces
  if n < 2 then colons pieces
  else
    let before := beforeZeros n pieces
    colons before ++ [':', ':'] ++ colons (pieces.drop (before.length + n))

/-- The address that a text writes, in its usual form. -/
def version6? (cs : List Char) : Option (List Char) := (ofText6? cs).map compressed

end HurlAssist.Url.Address
