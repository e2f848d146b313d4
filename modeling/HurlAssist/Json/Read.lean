import HurlAssist.Decimal
import HurlAssist.Json.Basic
import HurlAssist.Json.Syntax
import HurlAssist.Keyed

/-!
From JSON as written to a value. A value cannot be made of a surrogate that stands alone, of a
number beyond double precision, or of containers nested too deep. In an object the last value of a
key counts, in the place of the first.
-/

namespace HurlAssist.Json

/-- The characters of a string, two surrogates that belong together as one. -/
def characters? : List Element → Option (List Char)
  | [] => some []
  | .char c :: es => (characters? es).map (c :: ·)
  | .unit n :: es =>
    if 0xD800 ≤ n ∧ n < 0xDC00 then
      match es with
      | .unit m :: rest =>
        if 0xDC00 ≤ m ∧ m < 0xE000 then
          (characters? rest).map
            (Char.ofNat (0x10000 + (n - 0xD800) * 0x400 + (m - 0xDC00)) :: ·)
        else none
      | _ => none
    else if 0xDC00 ≤ n ∧ n < 0xE000 then none
    else (characters? es).map (Char.ofNat n :: ·)

def text? (s : List Element) : Option String := (characters? s).map String.ofList

/-- The greatest significand that is read digit by digit. -/
def maxSignificand : Nat := 0xFFFFFFFFFFFFFFFF

/-- Appends digits to a significand until the next would make it too great. Gives the significand
and the number of digits that were left out. -/
def appendDigits (significand : Nat) : List Char → Nat × Nat
  | [] => (significand, 0)
  | c :: cs =>
    let next := 10 * significand + (c.toNat - '0'.toNat)
    if next ≤ maxSignificand then appendDigits next cs else (significand, (c :: cs).length)

/-- The value of a number, as significand and exponent, if double precision can hold it. The digits
that the significand has no room for count as zeros; significand and power of ten are rounded
before they are multiplied. -/
def numeralValue? (n : Numeral) : Option (Nat × Int) :=
  let (whole, left) := appendDigits 0 n.whole
  let (significand, unread) := appendDigits whole n.fraction
  let shift : Int := left - (n.fraction.length - unread : Nat)
  let written : Nat := Decimal.ofDigits n.exponent
  let exponent : Int := shift + if n.exponentNegative then -(written : Int) else written
  if significand = 0 then some (0, 0)
  else if exponent ≤ 0 then some (significand, exponent)
  else if 308 < exponent then none
  else if Decimal.roundDouble significand * Decimal.roundDouble (Nat.pow 10 exponent.toNat) <
      Decimal.tooLarge then
    some (significand, exponent)
  else none

mutual

/-- The value of what is written, if it holds fewer than `room` containers one in the other. -/
def ofSyntax? (room : Nat) : Syntax → Option Json
  | .null => some .null
  | .bool b => some (.bool b)
  | .number n =>
    (numeralValue? n).map fun v => .number (if n.negative then -(v.1 : Int) else v.1) v.2
  | .string s => (text? s).map .string
  | .array items =>
    if room ≤ 1 then none else (itemsOfSyntax? (room - 1) items).map .array
  | .object members =>
    if room ≤ 1 then none
    else (membersOfSyntax? (room - 1) members).map fun ms => .object (Keyed.ofList ms)

def itemsOfSyntax? (room : Nat) : List Syntax → Option (List Json)
  | [] => some []
  | s :: rest =>
    match ofSyntax? room s, itemsOfSyntax? room rest with
    | some j, some js => some (j :: js)
    | _, _ => none

def membersOfSyntax? (room : Nat) : List (List Element × Syntax) → Option (List (String × Json))
  | [] => some []
  | (key, s) :: rest =>
    match text? key, ofSyntax? room s, membersOfSyntax? room rest with
    | some k, some j, some js => some ((k, j) :: js)
    | _, _, _ => none

end

/-- How many containers text may have open at once, one more than are allowed. -/
def depthLimit : Nat := 128

/-- The value that a text writes. -/
def ofText? (text : String) : Option Json :=
  (Syntax.ofText? text).bind (ofSyntax? depthLimit)

end HurlAssist.Json
