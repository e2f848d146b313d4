/-!
Punycode: characters of any kind written with ASCII letters, digits and hyphens. The ASCII
characters come first. Then follow numbers, each of which says how far it is to the next character
to put in, counting through all places of all code points in order. A number is written with its
lowest digit first, and ends at a digit below a threshold that depends on its place and on the
numbers before.
-/

namespace HurlAssist.Url.Punycode

def isAscii (c : Char) : Bool := c.toNat < 0x80

/-- The number of different digits. -/
def base : Nat := 36

/-- The digit of a value: letters, and from 26 on decimal digits. -/
def digit (n : Nat) : Char := if n < 26 then .ofNat (0x61 + n) else .ofNat (0x30 + n - 26)

def digitValue? (c : Char) : Option Nat :=
  if 'a' ≤ c ∧ c ≤ 'z' then some (c.toNat - 0x61)
  else if '0' ≤ c ∧ c ≤ '9' then some (c.toNat - 0x30 + 26)
  else none

/-- What a digit at a place, counted from one, has to stay below to be the last of its number. -/
def threshold (bias place : Nat) : Nat := max 1 (min 26 (base * place - bias))

theorem one_le_threshold (bias place : Nat) : 1 ≤ threshold bias place := Nat.le_max_left ..

/-- The bias for a number like `n`. -/
def biasOf (n : Nat) : Nat :=
  if 455 < n then base + biasOf (n / 35) else 36 * n / (n + 38)
termination_by n
decreasing_by omega

/-- The bias after a number, when there are `count` characters. -/
def nextBias (isFirst : Bool) (number count : Nat) : Nat :=
  let n := number / if isFirst then 700 else 2
  biasOf (n + n / count)

/-- The digits of a number from a place on. -/
def digits (bias place n : Nat) : List Char :=
  let t := threshold bias place
  if n < t then [digit n]
  else digit (t + (n - t) % (base - t)) :: digits bias (place + 1) ((n - t) / (base - t))
termination_by n
decreasing_by
  have h := one_le_threshold bias place
  have := Nat.div_le_self (n - threshold bias place) (base - threshold bias place)
  omega

/-! ### Writing -/

/-- How far a text has been written. -/
structure Writer where
  written : List Char
  /-- How many places have been passed since the last number. -/
  passed : Nat := 0
  bias : Nat := 72
  /-- How many characters have been written. -/
  count : Nat

/-- Passes a character of the text while the code point `n` is put in. -/
def Writer.pass (ascii n : Nat) (w : Writer) (c : Char) : Writer :=
  if c.toNat < n then { w with passed := w.passed + 1 }
  else if c.toNat = n then
    { written := w.written ++ digits w.bias 1 w.passed
      passed := 0
      bias := nextBias (w.count == ascii) w.passed (w.count + 1)
      count := w.count + 1 }
  else w

/-- Puts in the code points that are left, in ascending order. `next` is the first code point that
has not been passed. -/
def Writer.run (text : List Char) (ascii : Nat) : Nat → List Nat → Writer → Writer
  | _, [], w => w
  | next, n :: ns, w =>
    let w := { w with passed := w.passed + (n - next) * (w.count + 1) }
    let w := text.foldl (Writer.pass ascii n) w
    Writer.run text ascii (n + 1) ns { w with passed := w.passed + 1 }

def encode (text : List Char) : List Char :=
  let ascii := text.filter isAscii
  let others := ((text.filter (!isAscii ·)).map Char.toNat).mergeSort.eraseDups
  let start := if ascii.isEmpty then [] else ascii ++ ['-']
  (Writer.run text ascii.length 0x80 others { written := start, count := ascii.length }).written

/-! ### Reading -/

/-- How far a text has been read. -/
structure Reader where
  text : List Char
  /-- The code point that was put in last. -/
  codePoint : Nat := 0x80
  /-- The place after it, and how many more the digits of the current number add. -/
  place : Nat := 0
  number : Nat := 0
  weight : Nat := 1
  /-- How many digits of the current number have been read. -/
  digits : Nat := 0
  bias : Nat := 72

/-- Reads a digit, and puts a character in if it is the last of a number. -/
def Reader.read? (r : Reader) (c : Char) : Option Reader := do
  let d ← digitValue? c
  let number := r.number + d * r.weight
  let t := threshold r.bias (r.digits + 1)
  if t ≤ d then
    return { r with number, weight := r.weight * (base - t), digits := r.digits + 1 }
  else
    let count := r.text.length + 1
    let codePoint := r.codePoint + (r.place + number) / count
    let place := (r.place + number) % count
    if codePoint.isValidChar then
      return {
        text := r.text.insertIdx place (.ofNat codePoint)
        codePoint
        place := place + 1
        bias := nextBias (r.place == 0) number count }
    else none

/-- The text that was written. -/
def decode? (written : List Char) : Option (List Char) := do
  let numbers := (written.reverse.takeWhile (· ≠ '-')).reverse
  let ascii := (written.take (written.length - numbers.length)).dropLast
  let numbers := if ascii.isEmpty then written else numbers
  if !ascii.all isAscii then none
  let r ← numbers.foldlM Reader.read? { text := ascii }
  if r.digits = 0 then some r.text else none

end HurlAssist.Url.Punycode
