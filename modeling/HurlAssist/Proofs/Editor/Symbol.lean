import HurlAssist.Editor.Symbol

/-!
The word at a point. The pieces that a line is cut into at its blanks stand one behind the other
(`CutUp`), so that no two of them cover a column, and one that covers a column is the longest run of
characters without a blank around it. So it is the text alone that says which word is found
(`symbolAt_longest_run`).
-/

namespace HurlAssist.Editor

open Text

/-- Each column from `a` up to before `b` has a character that is not blank. -/
def Unbroken (cs : List Char) (a b : Nat) : Prop :=
  ∀ i, a ≤ i → i < b → ∃ c, cs[i]? = some c ∧ isBlank c = false

/-- The columns from `a` up to before `b` are the longest run without a blank around a column: all
other such runs around it lie in this one. -/
structure LongestRun (cs : List Char) (col a b : Nat) : Prop where
  around : a ≤ col ∧ col < b
  unbroken : Unbroken cs a b
  longest : ∀ a' b', a' ≤ col → col < b' → Unbroken cs a' b' → a ≤ a' ∧ b' ≤ b

/-- A text, the first column of which is `n`, cut at each of its blanks into pieces with the columns
that they start in. -/
inductive CutUp : Nat → List Char → List (Nat × List Char) → Prop
  | last {n w} (whole : ∀ c ∈ w, isBlank c = false) : CutUp n w [(n, w)]
  | more {n w c cs ps} (whole : ∀ c ∈ w, isBlank c = false) (blank : isBlank c = true)
      (rest : CutUp (n + w.length + 1) cs ps) : CutUp n (w ++ c :: cs) ((n, w) :: ps)

theorem cutUp_pieces (n : Nat) (cs : List Char) : CutUp n cs (piecesBetweenBlanks n cs) := by
  induction cs generalizing n with
  | nil => exact .last (by simp)
  | cons c cs ih =>
    have rest := ih (n + 1)
    rw [piecesBetweenBlanks]
    cases blank : isBlank c with
    | true => exact .more (w := []) (by simp) blank rest
    | false =>
      have longer {w : List Char} (whole : ∀ c ∈ w, isBlank c = false) :
          ∀ d ∈ c :: w, isBlank d = false := by
        intro d hd
        rcases List.mem_cons.mp hd with rfl | hd
        · exact blank
        · exact whole d hd
      -- The character goes in front of the first of the pieces behind it.
      generalize piecesBetweenBlanks (n + 1) cs = ps at rest
      cases rest with
      | last whole => exact .last (longer whole)
      | more whole blank' rest =>
        rw [Nat.add_right_comm n 1, Nat.add_assoc n] at rest
        exact .more (longer whole) blank' rest

namespace CutUp

variable {n : Nat} {cs : List Char} {ps : List (Nat × List Char)}

/-- Each blank is a separator of its own. -/
theorem map_snd (cut : CutUp n cs ps) : ps.map Prod.snd = cs.splitOnP isBlank := by
  induction cut with
  | last whole => rw [List.splitOnP_eq_singleton whole, List.map_cons, List.map_nil]
  | more whole blank _ ih =>
    rw [List.splitOnP_append_cons_of_forall_mem whole _ blank, List.map_cons, ih]

theorem le_fst (cut : CutUp n cs ps) {x : Nat × List Char} (hx : x ∈ ps) : n ≤ x.1 := by
  induction cut with
  | last _ =>
    obtain rfl := List.mem_singleton.mp hx
    exact Nat.le_refl _
  | more _ _ _ ih =>
    rcases List.mem_cons.mp hx with rfl | hx
    · exact Nat.le_refl _
    · have := ih hx
      omega

/-- The pieces stand one behind the other, each two with a column between them. -/
theorem pairwise (cut : CutUp n cs ps) : ps.Pairwise fun x y => x.1 + x.2.length < y.1 := by
  induction cut with
  | last _ => exact List.pairwise_singleton _ _
  | more _ _ rest ih =>
    refine List.pairwise_cons.mpr ⟨?_, ih⟩
    intro y hy
    exact rest.le_fst hy

/-- No two pieces cover a column. -/
theorem pairwise_covers (cut : CutUp n cs ps) (col : Nat) :
    ps.Pairwise fun x y => ¬ (covers col x = true ∧ covers col y = true) := by
  apply cut.pairwise.imp
  intro x y behind
  simp only [covers, Bool.and_eq_true, decide_eq_true_eq]
  omega

/-- A piece stands in the text where its column says, between blanks or the ends of the text. -/
theorem stands (cut : CutUp n cs ps) {x : Nat × List Char} (hx : x ∈ ps) :
    ∃ before after, cs = before ++ (x.2 ++ after) ∧ x.1 = n + before.length ∧
      (∀ c ∈ x.2, isBlank c = false) ∧ (∀ c, before.getLast? = some c → isBlank c = true) ∧
      ∀ c, after.head? = some c → isBlank c = true := by
  induction cut with
  | @last n w whole =>
    obtain rfl := List.mem_singleton.mp hx
    exact ⟨[], [], by simp, rfl, whole, by simp, by simp⟩
  | @more n w c cs ps whole blank rest ih =>
    rcases List.mem_cons.mp hx with rfl | hx
    · exact ⟨[], c :: cs, rfl, rfl, whole, by simp, by simpa using blank⟩
    · obtain ⟨before, after, rfl, column, free, front, behind⟩ := ih hx
      refine ⟨w ++ c :: before, after, by simp, ?_, free, ?_, behind⟩
      · rw [column, List.length_append, List.length_cons]
        omega
      · intro d hd
        rw [List.getLast?_append, List.getLast?_cons] at hd
        cases last : before.getLast? with
        | none =>
          simp only [last, Option.getD_none, Option.some_or, Option.some.injEq] at hd
          exact hd ▸ blank
        | some e =>
          simp only [last, Option.getD_some, Option.some_or, Option.some.injEq] at hd
          exact front d (hd ▸ last)

/-- A column with a character that is not blank is covered. -/
theorem exists_covers (cut : CutUp n cs ps) {k : Nat} {c : Char} (here : cs[k]? = some c)
    (solid : isBlank c = false) : ∃ x ∈ ps, covers (n + k) x = true := by
  induction cut generalizing k with
  | @last n w _ =>
    obtain ⟨lt, _⟩ := List.getElem?_eq_some_iff.mp here
    exact ⟨_, List.mem_singleton_self _, by simp [covers, lt]⟩
  | @more n w d cs ps _ blank _ ih =>
    rcases Nat.lt_trichotomy k w.length with lt | rfl | gt
    · exact ⟨_, List.mem_cons_self, by simp [covers, lt]⟩
    · rw [List.getElem?_append_right (Nat.le_refl _), Nat.sub_self, List.getElem?_cons_zero] at here
      rw [← Option.some.inj here, blank] at solid
      cases solid
    · obtain ⟨j, rfl⟩ := Nat.exists_eq_add_of_lt gt
      rw [List.getElem?_append_right (by omega), show w.length + j + 1 - w.length = j + 1 by omega,
        List.getElem?_cons_succ] at here
      obtain ⟨x, hx, covered⟩ := ih here
      refine ⟨x, List.mem_cons_of_mem _ hx, ?_⟩
      rw [← covered]
      congr 1
      omega

end CutUp

/-- What stands between blanks or the ends of a text is the longest run around each of its
columns. -/
theorem longestRun_of_append {before w after : List Char} (free : ∀ c ∈ w, isBlank c = false)
    (front : ∀ c, before.getLast? = some c → isBlank c = true)
    (behind : ∀ c, after.head? = some c → isBlank c = true) {col : Nat}
    (first : before.length ≤ col) (last : col < before.length + w.length) :
    LongestRun (before ++ (w ++ after)) col before.length (before.length + w.length) := by
  constructor
  · exact ⟨first, last⟩
  · intro i le lt
    have inside : i - before.length < w.length := by omega
    refine ⟨w[i - before.length], ?_, free _ (List.getElem_mem inside)⟩
    rw [List.getElem?_append_right le, List.getElem?_append_left inside,
      List.getElem?_eq_getElem inside]
  · intro a b le lt unbroken
    constructor
    · -- a run from further left would hold the blank in front
      apply Nat.le_of_not_lt
      intro further
      obtain ⟨c, here, solid⟩ := unbroken (before.length - 1) (by omega) (by omega)
      rw [List.getElem?_append_left (by omega), ← List.getLast?_eq_getElem?] at here
      rw [front c here] at solid
      cases solid
    · apply Nat.le_of_not_lt
      intro further
      obtain ⟨c, here, solid⟩ := unbroken (before.length + w.length) (by omega) (by omega)
      rw [List.getElem?_append_right (by omega), Nat.add_sub_cancel_left,
        List.getElem?_append_right (Nat.le_refl _), Nat.sub_self, ← List.head?_eq_getElem?] at here
      rw [behind c here] at solid
      cases solid

/-- A piece that covers a column is the longest run around it. -/
theorem longestRun_of_covers {cs : List Char} {x : Nat × List Char} {col : Nat}
    (hx : x ∈ piecesBetweenBlanks 0 cs) (covered : covers col x = true) :
    LongestRun cs col x.1 (x.1 + x.2.length) ∧ cs.extract x.1 (x.1 + x.2.length) = x.2 := by
  obtain ⟨before, after, rfl, column, free, front, behind⟩ := (cutUp_pieces 0 cs).stands hx
  rw [Nat.zero_add] at column
  simp only [covers, column, Bool.and_eq_true, decide_eq_true_eq] at covered
  rw [column]
  refine ⟨longestRun_of_append free front behind covered.1 covered.2, ?_⟩
  simp [List.extract]

/-- No piece covers a column that is blank or behind the text, and no other column is left out. -/
theorem find?_covers_eq_none_iff {cs : List Char} {col : Nat} :
    (piecesBetweenBlanks 0 cs).find? (covers col) = none ↔
      ∀ c, cs[col]? = some c → isBlank c = true := by
  constructor
  · intro none c here
    apply Decidable.byContradiction
    intro solid
    obtain ⟨x, hx, covered⟩ :=
      (cutUp_pieces 0 cs).exists_covers here (Bool.eq_false_iff.mpr solid)
    rw [Nat.zero_add] at covered
    exact List.find?_eq_none.mp none x hx covered
  · intro blank
    apply List.find?_eq_none.mpr
    intro x hx covered
    obtain ⟨run, _⟩ := longestRun_of_covers hx covered
    obtain ⟨c, here, solid⟩ := run.unbroken col run.around.1 run.around.2
    rw [blank c here] at solid
    cases solid

/-- If the column right of the point has a character that is not blank, the word there is the
longest run of such characters around the column. In every other case the word is empty. Among the
pieces that the line is cut into at each of its blanks, no two have the column. -/
theorem symbolAt_longest_run (lines : List String) (p : Point) :
    (∀ text c, lines[p.line]? = some text → text.toList[p.col + 1]? = some c → isBlank c = false →
      ∃ a b, LongestRun text.toList (p.col + 1) a b ∧
        symbolAt lines p = String.ofList (text.toList.extract a b)) ∧
    ((∀ text c, lines[p.line]? = some text → text.toList[p.col + 1]? = some c → isBlank c = true) →
      symbolAt lines p = "") ∧
    ∀ text, lines[p.line]? = some text →
      (piecesBetweenBlanks 0 text.toList).map Prod.snd = text.toList.splitOnP isBlank ∧
      (piecesBetweenBlanks 0 text.toList).Pairwise fun x y =>
        ¬ (covers (p.col + 1) x = true ∧ covers (p.col + 1) y = true) := by
  refine ⟨?_, ?_, ?_⟩
  · intro text c line here solid
    cases found : (piecesBetweenBlanks 0 text.toList).find? (covers (p.col + 1)) with
    | none =>
      rw [find?_covers_eq_none_iff.mp found c here] at solid
      cases solid
    | some x =>
      obtain ⟨run, same⟩ :=
        longestRun_of_covers (List.mem_of_find?_eq_some found) (List.find?_some found)
      refine ⟨_, _, run, ?_⟩
      simp only [symbolAt, line, found, same]
  · intro other
    cases line : lines[p.line]? with
    | none => simp only [symbolAt, line]
    | some text =>
      have none := find?_covers_eq_none_iff.mpr fun c => other text c line
      simp only [symbolAt, line, none]
  · intro text _
    have cut := cutUp_pieces 0 text.toList
    exact ⟨cut.map_snd, cut.pairwise_covers (p.col + 1)⟩

/-- Behind a wide character and three blanks: in the word behind them, and between two of them. -/
theorem symbolAt_longest_run_blanks :
    (∃ a b, LongestRun "é\t  count nth".toList 6 a b ∧
      symbolAt ["é\t  count nth"] ⟨0, 5⟩ =
        String.ofList ("é\t  count nth".toList.extract a b)) ∧
    symbolAt ["é\t  count nth"] ⟨0, 1⟩ = "" := by
  refine ⟨(symbolAt_longest_run _ ⟨0, 5⟩).1 _ 'u' rfl (by decide) (by decide),
    (symbolAt_longest_run _ ⟨0, 1⟩).2.1 ?_⟩
  intro text c line here
  obtain rfl : "é\t  count nth" = text := Option.some.inj line
  obtain rfl : ' ' = c := Option.some.inj here
  decide

example : symbolAt ["é\t  count nth"] ⟨0, 5⟩ = "count" := by decide +kernel

end HurlAssist.Editor
