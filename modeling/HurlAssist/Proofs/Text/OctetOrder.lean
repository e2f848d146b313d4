import Mathlib.Tactic.SplitIfs
import HurlAssist.Proofs.Text.Octets

/-!
The order of texts is that of their octets (`Octets.ofText_lt_iff`): which of two texts comes first
is decided by the first character in which they differ, and already by the first octet of it in
which the two characters do.
-/

namespace HurlAssist.Octets

theorem cons_lt_cons_iff {a b : Nat} (ha : a < 256) (hb : b < 256) {os os' : Octets} :
    UInt8.ofNat a :: os < UInt8.ofNat b :: os' ↔ a < b ∨ a = b ∧ os < os' := by
  have value (n : Nat) (h : n < 256) : (UInt8.ofNat n).toNat = n := UInt8.toNat_ofNat_of_lt' h
  rw [List.cons_lt_cons_iff, UInt8.lt_iff_toNat_lt, ← UInt8.toNat_inj, value a ha, value b hb]

/-- The octets of a character come before those of a greater one, whatever follows them. -/
theorem utf8EncodeChar_append_lt {c d : Char} (h : c < d) (os os' : Octets) :
    String.utf8EncodeChar c ++ os < String.utf8EncodeChar d ++ os' := by
  have lt : c.val.toNat < d.val.toNat := h
  have most : d.val.toNat < 0x110000 := by
    have valid : d.val.toNat < 0xD800 ∨ 0xDFFF < d.val.toNat ∧ d.val.toNat < 0x110000 := d.valid
    omega
  -- the places of a number to the base 64, each from the one behind it
  have places (n : Nat) : n / 4096 = n / 64 / 64 ∧ n / 262144 = n / 64 / 64 / 64 := by omega
  unfold String.utf8EncodeChar
  generalize c.val.toNat = v at lt
  generalize d.val.toNat = w at lt most
  dsimp only
  split_ifs
  -- characters of as many octets are compared place by place, others by their first octets
  all_goals
    simp (disch := omega) only [List.cons_append, List.nil_append, cons_lt_cons_iff, places]
    omega

theorem flatMap_lt_flatMap {cs ds : List Char} (h : cs < ds) :
    cs.flatMap String.utf8EncodeChar < ds.flatMap String.utf8EncodeChar := by
  induction h with
  | @nil d ds =>
    obtain ⟨first, rest, octets, _⟩ := next_utf8EncodeChar d
    rw [List.flatMap_nil, List.flatMap_cons, octets, List.cons_append]
    exact List.nil_lt_cons _ _
  | rel lt =>
    rw [List.flatMap_cons, List.flatMap_cons]
    exact utf8EncodeChar_append_lt lt _ _
  | cons _ ih =>
    rw [List.flatMap_cons, List.flatMap_cons]
    exact List.append_left_lt ih

theorem ofText_lt_of_lt {s t : String} (h : s < t) : ofText s < ofText t := by
  rw [ofText_eq, ofText_eq]
  exact flatMap_lt_flatMap h

/-- Texts are in the order of their octets. -/
theorem ofText_lt_iff (s t : String) : ofText s < ofText t ↔ s < t := by
  constructor
  · intro lt
    apply Decidable.byContradiction
    intro not_lt
    by_cases gt : t < s
    · exact List.lt_asymm lt (ofText_lt_of_lt gt)
    · obtain rfl := String.le_antisymm (String.not_lt.mp gt) (String.not_lt.mp not_lt)
      exact List.lt_irrefl _ lt
  · exact ofText_lt_of_lt

end HurlAssist.Octets
