import Mathlib.Data.List.Forall2
import HurlAssist.Api.Source
import HurlAssist.Proofs.Path

/-!
The format that the name of a file stands for. A name that ends in `.json`, in small letters or in
capitals, stands for JSON, and every other name for YAML, also one without an ending
(`Format.ofPath_eq_iff`).
-/

namespace HurlAssist.Api

/-- The name of the file ends in `.json`. Each letter can be a small one or a capital. -/
def NamedJson (p : Path) : Prop :=
  ∃ ending, p.HasEnding ending ∧
    List.Forall₂ (fun b c => b = Octets.ofChar c ∨ b = Octets.ofChar c.toUpper)
      ending ['j', 's', 'o', 'n']

inductive Format.OfName (p : Path) : Format → Prop
  | json (named : NamedJson p) : OfName p .json
  | yaml (other : ¬ NamedJson p) : OfName p .yaml

theorem toLower_eq_iff {c : Char} (letter : c ∈ ['j', 's', 'o', 'n']) (b : UInt8) :
    (Char.ofNat b.toNat).toLower = c ↔ b = Octets.ofChar c ∨ b = Octets.ofChar c.toUpper := by
  have values : (List.range 256).all (fun n => ['j', 's', 'o', 'n'].all fun c =>
      ((Char.ofNat n).toLower == c) ==
        (n.toUInt8 == Octets.ofChar c || n.toUInt8 == Octets.ofChar c.toUpper)) = true := by
    decide +kernel
  have here := List.all_eq_true.mp
    (List.all_eq_true.mp values b.toNat (List.mem_range.mpr b.toNat_lt)) c letter
  have value : b.toNat.toUInt8 = b := UInt8.ofNat_toNat
  rwa [value, beq_iff_eq, Bool.eq_iff_iff, beq_iff_eq, Bool.or_eq_true, beq_iff_eq,
    beq_iff_eq] at here

theorem map_toLower_eq_iff {cs : List Char} (letters : ∀ c ∈ cs, c ∈ ['j', 's', 'o', 'n'])
    {os : Octets} : os.map (fun b => (Char.ofNat b.toNat).toLower) = cs ↔
      List.Forall₂ (fun b c => b = Octets.ofChar c ∨ b = Octets.ofChar c.toUpper) os cs := by
  induction cs generalizing os with
  | nil => rw [List.map_eq_nil_iff, List.forall₂_nil_right_iff]
  | cons c cs ih =>
    have more (d : Char) (hd : d ∈ cs) := letters d (List.mem_cons_of_mem c hd)
    cases os with
    | nil => simp
    | cons b os =>
      rw [List.map_cons, List.cons.injEq, List.forall₂_cons, ih more,
        toLower_eq_iff (letters c List.mem_cons_self)]

namespace Format

theorem ofPath_eq_json_iff {p : Path} : ofPath p = json ↔ NamedJson p := by
  have letters (os : Octets) := @map_toLower_eq_iff ['j', 's', 'o', 'n'] (fun _ hc => hc) os
  constructor
  · intro format
    unfold ofPath at format
    split at format
    · rename_i ending found
      split at format
      · rename_i small
        have spelled := (letters ending).mp small
        refine ⟨ending, (Path.extension?_eq_some ?_).mp found, spelled⟩
        rintro rfl
        cases spelled
      · cases format
    · cases format
  · rintro ⟨ending, ends, spelled⟩
    have found : p.extension? = some ending := by
      refine (Path.extension?_eq_some ?_).mpr ends
      rintro rfl
      cases spelled
    rw [ofPath, found]
    exact if_pos ((letters ending).mpr spelled)

theorem ofPath_eq_iff {p : Path} {format : Format} : ofPath p = format ↔ OfName p format := by
  constructor
  · rintro rfl
    cases format : ofPath p with
    | json => exact .json (ofPath_eq_json_iff.mp format)
    | yaml =>
      refine .yaml fun named => ?_
      rw [ofPath_eq_json_iff.mpr named] at format
      cases format
  · rintro (named | other)
    · exact ofPath_eq_json_iff.mpr named
    · cases format : ofPath p with
      | yaml => rfl
      | json => exact absurd (ofPath_eq_json_iff.mp format) other

end Format

end HurlAssist.Api
