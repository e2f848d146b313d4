import HurlAssist.Proofs.Document.LineRange
import HurlAssist.Span

/-!
Blocks of lines. A block is a head line with the lines that follow it up to the next head. `cut`
splits a run of lines into blocks; entries are the blocks of a file at its method lines, sections
the blocks of a message at its section headers.

Main statements: there is a block for each head, in order (`map_line_cut`), each one ends right
before the next (`stop_cut`), and its lines stand in the file where its number says
(`stands_of_mem_cut`).
-/

namespace HurlAssist

/-- A head line, its number, and the lines below it. -/
structure Block where
  line : Nat
  head : String
  rest : List String
  deriving DecidableEq, Repr

namespace Block

variable {isHead : String → Bool} {n : Nat} {ls : List String}

/-- All lines of the block. -/
def lines (b : Block) : List String := b.head :: b.rest

/-- The number of the line behind the block. -/
def stop (b : Block) : Nat := b.line + 1 + b.rest.length

def lastText (b : Block) : String := b.rest.getLastD b.head

/-- From a column of the head line to the end of the last line. -/
def span (b : Block) (startCol : Nat) : Span :=
  (Span.onLine b.line startCol b.head.length).close (b.stop - 1) b.lastText.length

/-- The lines before the first head, and a block for each head. `line` numbers the first line. -/
def cut (isHead : String → Bool) : Nat → List String → List String × List Block
  | _, [] => ([], [])
  | line, l :: ls =>
    let (before, blocks) := cut isHead (line + 1) ls
    if isHead l then ([], ⟨line, l, before⟩ :: blocks) else (l :: before, blocks)

theorem cut_fst (isHead : String → Bool) (n : Nat) (ls : List String) :
    (cut isHead n ls).1 = ls.takeWhile (!isHead ·) := by
  induction ls generalizing n with
  | nil => rfl
  | cons l ls ih =>
    simp only [cut]
    cases h : isHead l with
    | true => simp [h]
    | false => simp [h, ih]

theorem cut_cons_head {l : String} (h : isHead l = true) :
    cut isHead n (l :: ls) =
      ([], ⟨n, l, ls.takeWhile (!isHead ·)⟩ :: (cut isHead (n + 1) ls).2) := by
  rw [← cut_fst isHead (n + 1)]
  simp only [cut, h, if_true]

theorem cut_cons_other {l : String} (h : isHead l = false) :
    (cut isHead n (l :: ls)).2 = (cut isHead (n + 1) ls).2 := by
  simp [cut, h]

/-- Lines in front of the first head make no block. -/
theorem cut_append (n : Nat) {xs : List String} (h : ∀ l ∈ xs, isHead l = false)
    (ls : List String) : (cut isHead n (xs ++ ls)).2 = (cut isHead (n + xs.length) ls).2 := by
  induction xs generalizing n with
  | nil => rfl
  | cons x xs ih =>
    rw [List.cons_append, cut_cons_other (h x List.mem_cons_self),
      ih (n + 1) fun l hl => h l (List.mem_cons_of_mem x hl)]
    simp [Nat.add_assoc, Nat.add_comm 1]

/-- Lines that start with a head make their own blocks, whatever stands before them. -/
theorem cut_append_head {l : String} (h : isHead l = true) (n : Nat) (xs ls : List String) :
    (cut isHead n (xs ++ l :: ls)).2 =
      (cut isHead n xs).2 ++ (cut isHead (n + xs.length) (l :: ls)).2 := by
  induction xs generalizing n with
  | nil => rfl
  | cons x xs ih =>
    have next := ih (n + 1)
    rw [Nat.add_right_comm, Nat.add_assoc n] at next
    rw [List.cons_append, List.length_cons]
    cases hx : isHead x with
    | true =>
      have first : (xs ++ l :: ls).takeWhile (!isHead ·) = xs.takeWhile (!isHead ·) := by
        rw [List.takeWhile_append, List.takeWhile_cons_of_neg (by simp [h])]
        split
        · rename_i all
          rw [List.append_nil, (List.takeWhile_prefix _).eq_of_length all]
        · rfl
      rw [cut_cons_head hx, cut_cons_head hx, next, first]
      rfl
    | false => rw [cut_cons_other hx, cut_cons_other hx, next]

/-- There is a block for each head, with its number. -/
theorem map_line_cut (isHead : String → Bool) (n : Nat) (ls : List String) :
    (cut isHead n ls).2.map line = ls.findIdxs isHead n := by
  induction ls generalizing n with
  | nil => rfl
  | cons l ls ih =>
    cases h : isHead l with
    | true => simp [cut_cons_head h, h, ih]
    | false => simp [cut_cons_other h, h, ih]

/-- A block is cut out where its head stands, and goes on over lines that are no heads. -/
theorem exists_append_of_mem_cut {b : Block} (h : b ∈ (cut isHead n ls).2) :
    ∃ before after, ls = before ++ (b.lines ++ after) ∧ b.line = n + before.length ∧
      isHead b.head = true ∧ ∀ l ∈ b.rest, isHead l = false := by
  induction ls generalizing n with
  | nil => simp [cut] at h
  | cons l ls ih =>
    have later (h : b ∈ (cut isHead (n + 1) ls).2) :
        ∃ before after, l :: ls = before ++ (b.lines ++ after) ∧ b.line = n + before.length ∧
          isHead b.head = true ∧ ∀ l ∈ b.rest, isHead l = false := by
      obtain ⟨before, after, rfl, line, head, rest⟩ := ih h
      exact ⟨l :: before, after, rfl, by simp [line, Nat.add_assoc, Nat.add_comm 1], head, rest⟩
    cases hl : isHead l with
    | true =>
      rw [cut_cons_head hl] at h
      rcases List.mem_cons.mp h with rfl | h
      · refine ⟨[], ls.dropWhile (!isHead ·), ?_, rfl, hl, ?_⟩
        · simp [lines]
        · intro x hx
          simpa using List.mem_takeWhile_imp hx
      · exact later h
    | false =>
      rw [cut_cons_other hl] at h
      exact later h

theorem rest_of_mem_cut {b : Block} (h : b ∈ (cut isHead n ls).2) :
    ∀ l ∈ b.rest, isHead l = false := by
  obtain ⟨_, _, _, _, _, rest⟩ := exists_append_of_mem_cut h
  exact rest

/-- The lines of a block stand in the file from its number on. -/
theorem stands_of_mem_cut {file : List String} (hs : LineRange.Stands file n ls) {b : Block}
    (h : b ∈ (cut isHead n ls).2) : LineRange.Stands file b.line b.lines := by
  obtain ⟨before, after, rfl, line, _, _⟩ := exists_append_of_mem_cut h
  rw [line]
  exact hs.right.left

/-- The first block starts where the lines that are no heads end. -/
theorem head?_line_cut (isHead : String → Bool) (n : Nat) (ls : List String) :
    (((cut isHead n ls).2.head?).map line).getD (n + ls.length) =
      n + (ls.takeWhile (!isHead ·)).length := by
  induction ls generalizing n with
  | nil => rfl
  | cons l ls ih =>
    cases h : isHead l with
    | true => simp [cut_cons_head h, h]
    | false =>
      rw [cut_cons_other h, List.length_cons, ← Nat.add_assoc, Nat.add_right_comm, ih (n + 1)]
      simp [h, Nat.add_assoc, Nat.add_comm 1]

/-- Each block ends right before the next one, and the last one at the end of the lines. -/
theorem stop_cut {i : Nat} {b : Block} (h : (cut isHead n ls).2[i]? = some b) :
    b.stop = (((cut isHead n ls).2[i + 1]?).map line).getD (n + ls.length) := by
  induction ls generalizing n i with
  | nil => simp [cut] at h
  | cons l ls ih =>
    have len : n + (l :: ls).length = n + 1 + ls.length := by
      rw [List.length_cons]
      omega
    rw [len]
    cases hl : isHead l with
    | true =>
      rw [cut_cons_head hl] at h ⊢
      cases i with
      | zero =>
        cases h
        rw [List.getElem?_cons_succ, ← List.head?_eq_getElem?, head?_line_cut]
        rfl
      | succ i => exact ih h
    | false =>
      rw [cut_cons_other hl] at h ⊢
      exact ih h

theorem ascending_cut (isHead : String → Bool) (n : Nat) (ls : List String) :
    ((cut isHead n ls).2.map line).Pairwise (· < ·) := by
  rw [map_line_cut]
  exact List.pairwise_findIdxs

/-- Earlier blocks end before later ones start. -/
theorem stop_le_line {i j : Nat} {a b : Block} (h : i < j) (ha : (cut isHead n ls).2[i]? = some a)
    (hb : (cut isHead n ls).2[j]? = some b) : a.stop ≤ b.line := by
  obtain ⟨hj, rfl⟩ := List.getElem?_eq_some_iff.mp hb
  have ascending := List.pairwise_iff_getElem.mp (ascending_cut isHead n ls)
  have next : (cut isHead n ls).2[i + 1]? = some (cut isHead n ls).2[i + 1] :=
    List.getElem?_eq_getElem (by omega)
  rw [stop_cut ha, next]
  rcases Nat.lt_or_eq_of_le (show i + 1 ≤ j from h) with lt | rfl
  · have := ascending (i + 1) j (by simpa using (by omega)) (by simpa using hj) lt
    simp only [List.getElem_map] at this
    exact Nat.le_of_lt this
  · exact Nat.le_refl _

/-- All blocks end before later ones start. -/
theorem pairwise_cut (isHead : String → Bool) (n : Nat) (ls : List String) :
    (cut isHead n ls).2.Pairwise fun a b => a.stop ≤ b.line :=
  List.pairwise_iff_getElem.mpr fun _ _ hi hj lt =>
    stop_le_line lt (List.getElem?_eq_getElem hi) (List.getElem?_eq_getElem hj)

end Block

end HurlAssist
