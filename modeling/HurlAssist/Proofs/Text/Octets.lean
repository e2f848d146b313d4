import Mathlib.Tactic.SplitIfs
import HurlAssist.Text.Octets

/-!
Reading octets one character at a time gives back the text that was written as octets
(`Octets.text?_ofText`).
-/

namespace HurlAssist.Octets

theorem ofText_eq (s : String) : ofText s = s.toList.flatMap String.utf8EncodeChar := by
  rw [ofText, String.toUTF8_eq_toByteArray, ← String.utf8Encode_toList]
  simp [List.utf8Encode]

/-- An octet that adds six bits to a character. -/
theorem finish_bits {n low high value v : Nat} {rest : Octets} (least : low ≤ v % 64 + 0x80)
    (most : v % 64 + 0x80 ≤ high) :
    finish (n + 1) low high value (.ofNat (v % 64 + 0x80) :: rest) =
      finish n 0x80 0xBF (value * 64 + v % 64) rest := by
  have octet : (UInt8.ofNat (v % 64 + 0x80)).toNat = v % 64 + 0x80 :=
    UInt8.toNat_ofNat_of_lt' (show _ < 256 by omega)
  have bits : (v % 64 + 0x80) % 64 = v % 64 := by omega
  rw [finish, octet, if_pos ⟨least, most⟩, bits]

/-- An octet that starts a character of several octets. -/
theorem next_first {first low high n : Nat} {rest : Octets} (long : 0x80 ≤ first)
    (octet : first < 256) (follow : continuation? first = some (low, high, n)) :
    next (.ofNat first) rest = finish n low high (leadBits first n) rest := by
  have first' : (UInt8.ofNat first).toNat = first := UInt8.toNat_ofNat_of_lt' octet
  rw [next, first', if_neg (by omega), follow]

section

variable {v : Nat}

theorem next_two (long : 0x80 ≤ v) (short : v < 0x800) (rest : Octets) :
    next (.ofNat (v / 64 % 0x20 + 0xC0)) (.ofNat (v % 64 + 0x80) :: rest) =
      (some (Char.ofNat v), rest) := by
  have follow : continuation? (v / 64 % 0x20 + 0xC0) = some (0x80, 0xBF, 1) := if_pos (by omega)
  have value : leadBits (v / 64 % 0x20 + 0xC0) 1 * 64 + v % 64 = v := by
    change (v / 64 % 0x20 + 0xC0) % 0x20 * 64 + v % 64 = v
    omega
  rw [next_first (by omega) (by omega) follow, finish_bits (by omega) (by omega), value, finish]

/-- A character of three octets is none of those that two are enough for, and no surrogate. -/
theorem continuation?_three (long : 0x800 ≤ v) (short : v < 0x10000)
    (scalar : v < 0xD800 ∨ 0xDFFF < v) :
    ∃ low high, continuation? (v / 4096 % 0x10 + 0xE0) = some (low, high, 2) ∧
      low ≤ v / 64 % 64 + 0x80 ∧ v / 64 % 64 + 0x80 ≤ high := by
  unfold continuation?
  split_ifs
  all_goals first | omega | exact ⟨_, _, rfl, by omega, by omega⟩

theorem next_three (long : 0x800 ≤ v) (short : v < 0x10000) (scalar : v < 0xD800 ∨ 0xDFFF < v)
    (rest : Octets) :
    next (.ofNat (v / 4096 % 0x10 + 0xE0))
        (.ofNat (v / 64 % 64 + 0x80) :: .ofNat (v % 64 + 0x80) :: rest) =
      (some (Char.ofNat v), rest) := by
  obtain ⟨low, high, follow, least, most⟩ := continuation?_three long short scalar
  have value : (leadBits (v / 4096 % 0x10 + 0xE0) 2 * 64 + v / 64 % 64) * 64 + v % 64 = v := by
    change ((v / 4096 % 0x10 + 0xE0) % 0x10 * 64 + v / 64 % 64) * 64 + v % 64 = v
    omega
  rw [next_first (by omega) (by omega) follow, finish_bits least most,
    finish_bits (by omega) (by omega), value, finish]

theorem continuation?_four (long : 0x10000 ≤ v) (short : v < 0x110000) :
    ∃ low high, continuation? (v / 262144 % 0x8 + 0xF0) = some (low, high, 3) ∧
      low ≤ v / 4096 % 64 + 0x80 ∧ v / 4096 % 64 + 0x80 ≤ high := by
  unfold continuation?
  split_ifs
  all_goals first | omega | exact ⟨_, _, rfl, by omega, by omega⟩

theorem next_four (long : 0x10000 ≤ v) (short : v < 0x110000) (rest : Octets) :
    next (.ofNat (v / 262144 % 0x8 + 0xF0))
        (.ofNat (v / 4096 % 64 + 0x80) :: .ofNat (v / 64 % 64 + 0x80) ::
          .ofNat (v % 64 + 0x80) :: rest) =
      (some (Char.ofNat v), rest) := by
  obtain ⟨low, high, follow, least, most⟩ := continuation?_four long short
  have value : ((leadBits (v / 262144 % 0x8 + 0xF0) 3 * 64 + v / 4096 % 64) * 64 +
      v / 64 % 64) * 64 + v % 64 = v := by
    change (((v / 262144 % 0x8 + 0xF0) % 0x8 * 64 + v / 4096 % 64) * 64 +
      v / 64 % 64) * 64 + v % 64 = v
    omega
  rw [next_first (by omega) (by omega) follow, finish_bits least most,
    finish_bits (by omega) (by omega), finish_bits (by omega) (by omega), value, finish]

end

/-- The octets of a character are read as that character, whatever follows. -/
theorem next_utf8EncodeChar (c : Char) : ∃ b bs, String.utf8EncodeChar c = b :: bs ∧
    ∀ rest, next b (bs ++ rest) = (some c, rest) := by
  have scalar : c.val.toNat < 0xD800 ∨ 0xDFFF < c.val.toNat ∧ c.val.toNat < 0x110000 := c.valid
  have same : Char.ofNat c.val.toNat = c := Char.ofNat_toNat c
  unfold String.utf8EncodeChar
  generalize c.val.toNat = v at scalar same
  dsimp only
  rw [← same]
  split_ifs
  · have octet : (UInt8.ofNat v).toNat = v := UInt8.toNat_ofNat_of_lt' (show _ < 256 by omega)
    refine ⟨_, _, rfl, fun rest => ?_⟩
    rw [next, octet, if_pos (by omega)]
    rfl
  · exact ⟨_, _, rfl, next_two (by omega) (by omega)⟩
  · exact ⟨_, _, rfl, next_three (by omega) (by omega) (by omega)⟩
  · exact ⟨_, _, rfl, next_four (by omega) (by omega)⟩

theorem characters_flatMap (cs : List Char) :
    characters (cs.flatMap String.utf8EncodeChar) = cs.map some := by
  induction cs with
  | nil => rw [List.flatMap_nil, characters, List.map_nil]
  | cons c cs ih =>
    obtain ⟨b, bs, octets, read⟩ := next_utf8EncodeChar c
    rw [List.flatMap_cons, octets, List.cons_append, characters, read, ih, List.map_cons]

/-- A text is read back from its octets. -/
theorem text?_ofText (s : String) : (ofText s).text? = some s := by
  have all (cs : List Char) : (cs.map some).mapM id = some cs := by
    induction cs with
    | nil => rfl
    | cons c cs ih => simp [ih]
  rw [text?, ofText_eq, characters_flatMap, all, Option.map_some, String.ofList_toList]

end HurlAssist.Octets
