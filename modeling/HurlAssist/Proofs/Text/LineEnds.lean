import Mathlib.Data.List.Forall2
import HurlAssist.Proofs.Text.TrailingBlanks
import HurlAssist.Text.Lines

/-!
Line ends. A text in which line feeds are turned into a carriage return and a line feed has the
same lines, but for blanks at their ends where a carriage return stood there before
(`Returned.lines`).
-/

namespace HurlAssist.Text

/-- The second text is the first with a carriage return put in front of some of its line feeds. -/
inductive Returned : List Char → List Char → Prop where
  | nil : Returned [] []
  | keep (c : Char) {cs cs' : List Char} (rest : Returned cs cs') : Returned (c :: cs) (c :: cs')
  | turn {cs cs' : List Char} (rest : Returned cs cs') : Returned ('\n' :: cs) ('\r' :: '\n' :: cs')

theorem dropReturn_concat (p : List Char) : dropReturn (p ++ ['\r']) = p := by
  induction p with
  | nil => rfl
  | cons c p ih =>
    cases p with
    | nil => rfl
    | cons d p => exact congrArg (c :: ·) ih

theorem trails_dropReturn (p : List Char) : Trails (dropReturn p) p := by
  fun_induction dropReturn p with
  | case1 => exact .refl []
  | case2 => exact trails_append [] (by decide)
  | case3 c => exact .refl [c]
  | case4 c d cs ih => exact ih.cons c

theorem pieces_cons_of_ne {c : Char} (h : c ≠ '\n') (cs : List Char) :
    ∃ p ps, pieces cs = p :: ps ∧ pieces (c :: cs) = (c :: p) :: ps := by
  cases rest : pieces cs with
  | nil => exact absurd rest (pieces_ne_nil cs)
  | cons p ps => exact ⟨p, ps, rfl, by rw [pieces, if_neg h, rest]⟩

/-- Each piece stays as it is or has a carriage return behind it. -/
theorem Returned.pieces {cs cs' : List Char} (h : Returned cs cs') :
    List.Forall₂ (fun p p' => p' = p ∨ p' = p ++ ['\r']) (pieces cs) (pieces cs') := by
  induction h with
  | nil => exact .cons (.inl rfl) .nil
  | keep c rest ih =>
    by_cases feed : c = '\n'
    · rw [Text.pieces, Text.pieces, if_pos feed, if_pos feed]
      exact .cons (.inl rfl) ih
    · obtain ⟨p, ps, before, first⟩ := pieces_cons_of_ne feed _
      obtain ⟨p', ps', before', first'⟩ := pieces_cons_of_ne feed _
      rw [before, before'] at ih
      rw [first, first']
      cases ih with
      | cons same others =>
        refine .cons ?_ others
        rcases same with rfl | rfl
        · exact .inl rfl
        · exact .inr rfl
  | turn rest ih => exact .cons (.inr rfl) ih

/-- Each line stays as it is or has blanks behind it. -/
theorem Returned.lines {source source' : String} (h : Returned source.toList source'.toList) :
    List.Forall₂ (fun l l' => Trails l.toList l'.toList) (lines source) (lines source') := by
  rw [Text.lines, Text.lines, List.forall₂_map_left_iff, List.forall₂_map_right_iff]
  apply h.pieces.imp
  intro p p' same
  rw [String.toList_ofList, String.toList_ofList]
  rcases same with rfl | rfl
  · exact .refl _
  · rw [dropReturn_concat]
    exact trails_dropReturn p

end HurlAssist.Text
