/-!
Octets and text. UTF-8 is read one character at a time; octets that belong to no character count for
the replacement character when text is shown, one for each run of them that starts a character.
-/

namespace HurlAssist

abbrev Octets := List UInt8

namespace Octets

/-- The octet of an ASCII character. -/
def ofChar (c : Char) : UInt8 := c.toNat.toUInt8

/-- The octets of a text. -/
def ofText (s : String) : Octets := s.toUTF8.data.toList

/-- How the octet after the first octet of a character of several octets is limited, and how many
octets follow the first. -/
def continuation? (first : Nat) : Option (Nat × Nat × Nat) :=
  if 0xC2 ≤ first ∧ first ≤ 0xDF then some (0x80, 0xBF, 1)
  else if first = 0xE0 then some (0xA0, 0xBF, 2)
  else if first = 0xED then some (0x80, 0x9F, 2)
  else if 0xE1 ≤ first ∧ first ≤ 0xEF then some (0x80, 0xBF, 2)
  else if first = 0xF0 then some (0x90, 0xBF, 3)
  else if 0xF1 ≤ first ∧ first ≤ 0xF3 then some (0x80, 0xBF, 3)
  else if first = 0xF4 then some (0x80, 0x8F, 3)
  else none

/-- The bits that the first octet of a character gives, if `n` octets follow it. -/
def leadBits (first n : Nat) : Nat := first % (if n = 1 then 0x20 else if n = 2 then 0x10 else 0x08)

/-- The character that is made of `value` and of `n` more octets, the next of them between `low` and
`high`; and what is left. If an octet is not what it has to be, there is no character, and that
octet is left. -/
def finish : Nat → Nat → Nat → Nat → Octets → Option Char × Octets
  | 0, _, _, value, rest => (some (Char.ofNat value), rest)
  | _ + 1, _, _, _, [] => (none, [])
  | n + 1, low, high, value, b :: rest =>
    if low ≤ b.toNat ∧ b.toNat ≤ high then finish n 0x80 0xBF (value * 64 + b.toNat % 64) rest
    else (none, b :: rest)

/-- The character that the octets start with, if they start with one, and what is left. -/
def next (b : UInt8) (rest : Octets) : Option Char × Octets :=
  if b.toNat < 0x80 then (some (Char.ofNat b.toNat), rest)
  else
    match continuation? b.toNat with
    | none => (none, rest)
    | some (low, high, n) => finish n low high (leadBits b.toNat n) rest

theorem length_finish (n low high value : Nat) (os : Octets) :
    (finish n low high value os).2.length ≤ os.length := by
  fun_induction finish n low high value os with
  | case1 => simp
  | case2 => simp
  | case3 _ _ _ _ _ _ _ ih => simp only [List.length_cons]; omega
  | case4 => simp

theorem length_next (b : UInt8) (rest : Octets) : (next b rest).2.length ≤ rest.length := by
  unfold next
  split
  · simp
  · split
    · simp
    · exact length_finish ..

/-- The characters, with nothing for each run of octets that is no character. -/
def characters : Octets → List (Option Char)
  | [] => []
  | b :: rest =>
    have : (next b rest).2.length < rest.length + 1 := Nat.lt_succ_of_le (length_next b rest)
    (next b rest).1 :: characters (next b rest).2
termination_by os => os.length

/-- The text, if the octets are UTF-8. -/
def text? (os : Octets) : Option String := ((characters os).mapM id).map String.ofList

/-- The text that is shown for the octets. -/
def shown (os : Octets) : String :=
  String.ofList ((characters os).map fun c => c.getD (Char.ofNat 0xFFFD))

end Octets

end HurlAssist
