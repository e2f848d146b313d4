import Mathlib.Data.List.Basic
import Mathlib.Data.List.TakeWhile
import HurlAssist.Document.LineKind

/-!
Ranges of lines of a file, and the numbers of the lines in them that are of some kind. A range goes
from a line up to before another one.
-/

namespace HurlAssist.LineRange

variable {ls xs ys : List String} {a b n : Nat}

/-- The lines from number `a` up to before number `b`. -/
def between (ls : List String) (a b : Nat) : List String := (ls.take b).drop a

/-- The numbers of the lines from `a` up to before `b` whose kind satisfies `p`. -/
def numbers (p : LineKind → Bool) (ls : List String) (a b : Nat) : List Nat :=
  (between ls a b).findIdxs (fun l => p (Line.kind l)) a

/-- The number of the first line from `a` up to before `b` whose kind satisfies `p`. -/
def first? (p : LineKind → Bool) (ls : List String) (a b : Nat) : Option Nat :=
  (numbers p ls a b).head?

/-- The numbers of all method lines. -/
def methodLines (ls : List String) : List Nat := numbers (· == .method) ls 0 ls.length

/-- The kind of a line, if there is such a line. -/
def kindAt? (ls : List String) (i : Nat) : Option LineKind := ls[i]?.map Line.kind

theorem between_self (ls : List String) (a : Nat) : between ls a a = [] := by
  simp [between]

/-- One line more. -/
theorem between_succ {l : String} (h : a ≤ b) (hl : ls[b]? = some l) :
    between ls a (b + 1) = between ls a b ++ [l] := by
  obtain ⟨hb, rfl⟩ := List.getElem?_eq_some_iff.mp hl
  rw [between, List.take_succ_eq_append_getElem hb, List.drop_append_of_le_length]
  · rfl
  · rw [List.length_take]
    omega

theorem numbers_self (p : LineKind → Bool) (ls : List String) (a : Nat) : numbers p ls a a = [] := by
  rw [numbers, between_self]
  rfl

theorem numbers_succ (p : LineKind → Bool) {l : String} (h : a ≤ b) (hl : ls[b]? = some l) :
    numbers p ls a (b + 1) = numbers p ls a b ++ if p (Line.kind l) then [b] else [] := by
  have length : a + (between ls a b).length = b := by
    have := (List.getElem?_eq_some_iff.mp hl).1
    rw [between, List.length_drop, List.length_take]
    omega
  rw [numbers, numbers, between_succ h hl, List.findIdxs_append, length, List.findIdxs_singleton]

theorem mem_numbers {p : LineKind → Bool} {i : Nat} :
    i ∈ numbers p ls a b ↔ a ≤ i ∧ i < b ∧ ∃ k, kindAt? ls i = some k ∧ p k = true := by
  rw [numbers, List.mem_findIdxs_iff_getElem_sub_pos]
  constructor
  · rintro ⟨start, hi, here⟩
    have hi' := hi
    rw [between, List.length_drop, List.length_take] at hi'
    simp only [between, List.getElem_drop, List.getElem_take, Nat.add_sub_cancel' start] at here
    exact ⟨start, by omega, _, by rw [kindAt?, List.getElem?_eq_getElem (by omega)]; rfl, here⟩
  · rintro ⟨start, stop, k, kind, here⟩
    obtain ⟨l, hl, rfl⟩ := Option.map_eq_some_iff.mp kind
    obtain ⟨hi, rfl⟩ := List.getElem?_eq_some_iff.mp hl
    refine ⟨start, ?_, ?_⟩
    · rw [between, List.length_drop, List.length_take]
      omega
    · simpa [between, Nat.add_sub_cancel' start] using here

theorem numbers_ascending (p : LineKind → Bool) (ls : List String) (a b : Nat) :
    (numbers p ls a b).Pairwise (· < ·) :=
  List.pairwise_findIdxs

theorem mem_methodLines {i : Nat} : i ∈ methodLines ls ↔ kindAt? ls i = some .method := by
  rw [methodLines, mem_numbers]
  constructor
  · rintro ⟨-, -, k, kind, method⟩
    rw [kind, eq_of_beq method]
  · intro kind
    obtain ⟨l, hl, -⟩ := Option.map_eq_some_iff.mp kind
    exact ⟨Nat.zero_le i, (List.getElem?_eq_some_iff.mp hl).1, .method, kind, rfl⟩

/-- These lines stand in the file from number `n` on. -/
def Stands (ls : List String) (n : Nat) (xs : List String) : Prop := xs <+: ls.drop n

theorem Stands.all (ls : List String) : Stands ls 0 ls := List.prefix_rfl

theorem Stands.left (h : Stands ls n (xs ++ ys)) : Stands ls n xs :=
  (List.prefix_append xs ys).trans h

theorem Stands.right (h : Stands ls n (xs ++ ys)) : Stands ls (n + xs.length) ys := by
  obtain ⟨more, hm⟩ := h
  exact ⟨more, by simp [← List.drop_drop, ← hm]⟩

theorem Stands.tail {x : String} (h : Stands ls n (x :: xs)) : Stands ls (n + 1) xs := by
  have h : Stands ls n ([x] ++ xs) := h
  exact h.right

theorem Stands.head {x : String} (h : Stands ls n (x :: xs)) : ls[n]? = some x := by
  obtain ⟨more, hm⟩ := h
  have := congrArg List.head? hm
  simpa using this.symm

theorem Stands.getElem? (h : Stands ls n xs) {k : Nat} (hk : k < xs.length) :
    ls[n + k]? = xs[k]? := by
  obtain ⟨more, hm⟩ := h
  rw [← List.getElem?_drop, ← hm, List.getElem?_append_left hk]

/-- A line number in the range of these lines is the number of one of them. -/
theorem Stands.exists_mem (h : Stands ls n xs) {i : Nat} (start : n ≤ i) (stop : i < n + xs.length) :
    ∃ l ∈ xs, ls[i]? = some l := by
  obtain ⟨k, rfl⟩ := Nat.exists_eq_add_of_le start
  have hk : k < xs.length := by omega
  exact ⟨xs[k], List.getElem_mem hk, by rw [h.getElem? hk, List.getElem?_eq_getElem hk]⟩

/-- Lines that stand in the file do not go on behind its end. -/
theorem Stands.stop_le (h : Stands ls n xs) (ne : xs ≠ []) : n + xs.length ≤ ls.length := by
  have length := h.length_le
  have positive := List.length_pos_iff.mpr ne
  rw [List.length_drop] at length
  omega

/-- The file is the lines in front, these lines, and those behind. -/
theorem Stands.file_eq (h : Stands ls n xs) :
    ls = ls.take n ++ (xs ++ ls.drop (n + xs.length)) := by
  obtain ⟨more, hm⟩ := h
  have behind : ls.drop (n + xs.length) = more := by
    rw [← List.drop_drop, ← hm, List.drop_left]
  rw [behind, hm, List.take_append_drop]

theorem Stands.takeWhile (h : Stands ls n xs) (p : String → Bool) : Stands ls n (xs.takeWhile p) :=
  (List.takeWhile_prefix p).trans h

theorem Stands.between (h : Stands ls n xs) : between ls n (n + xs.length) = xs := by
  rw [LineRange.between, List.drop_take, Nat.add_sub_cancel_left]
  exact (List.prefix_iff_eq_take.mp h).symm

theorem Stands.between_eq (h : Stands ls n xs) (hb : n + xs.length = b) :
    LineRange.between ls n b = xs := hb ▸ h.between

theorem Stands.numbers_eq (h : Stands ls n xs) (hb : n + xs.length = b) (p : LineKind → Bool) :
    numbers p ls n b = xs.findIdxs (fun l => p (Line.kind l)) n := by
  rw [numbers, h.between_eq hb]

theorem head?_findIdxs (p : String → Bool) (n : Nat) (xs : List String) :
    (xs.findIdxs p n).head? =
      if xs.dropWhile (!p ·) = [] then none else some (n + (xs.takeWhile (!p ·)).length) := by
  induction xs generalizing n with
  | nil => rfl
  | cons x xs ih =>
    cases h : p x with
    | true => simp [h]
    | false => simp [h, ih, Nat.add_assoc, Nat.add_comm 1]

/-- Either none of the lines is of a kind, or the first that is stands behind the others. -/
theorem Stands.first?_cases (h : Stands ls n xs) (hb : n + xs.length = b) (p : LineKind → Bool) :
    xs.dropWhile (fun l => !p (Line.kind l)) = [] ∧ first? p ls n b = none ∧
      xs.takeWhile (fun l => !p (Line.kind l)) = xs ∨
    ∃ before x rest, xs.dropWhile (fun l => !p (Line.kind l)) = x :: rest ∧
      xs.takeWhile (fun l => !p (Line.kind l)) = before ∧
      first? p ls n b = some (n + before.length) ∧ Stands ls n before ∧
      Stands ls (n + before.length) (x :: rest) ∧
      n + before.length + (x :: rest).length = b := by
  have parts := List.takeWhile_append_dropWhile (p := fun l => !p (Line.kind l)) (l := xs)
  rw [first?, h.numbers_eq hb, head?_findIdxs]
  cases behind : xs.dropWhile fun l => !p (Line.kind l) with
  | nil =>
    rw [behind, List.append_nil] at parts
    exact .inl ⟨rfl, if_pos rfl, parts⟩
  | cons x rest =>
    rw [behind] at parts
    rw [← parts] at h
    refine .inr ⟨_, x, rest, rfl, rfl, if_neg (List.cons_ne_nil x rest), h.left, h.right, ?_⟩
    rw [← hb, ← congrArg List.length parts, List.length_append, Nat.add_assoc]

theorem first?_eq_some {p : LineKind → Bool} {k : Nat} :
    first? p ls a b = some k ↔ k ∈ numbers p ls a b ∧ ∀ i ∈ numbers p ls a b, k ≤ i := by
  have ascending := numbers_ascending p ls a b
  rw [first?]
  cases found : numbers p ls a b with
  | nil => simp
  | cons n ns =>
    rw [found] at ascending
    have later := (List.pairwise_cons.mp ascending).1
    constructor
    · rintro ⟨⟩
      refine ⟨List.mem_cons_self, ?_⟩
      intro i hi
      rcases List.mem_cons.mp hi with rfl | hi
      · exact Nat.le_refl i
      · exact Nat.le_of_lt (later i hi)
    · rintro ⟨hk, least⟩
      rcases List.mem_cons.mp hk with rfl | hk
      · rfl
      · have := later k hk
        have := least n List.mem_cons_self
        omega

section

variable {p : LineKind → Bool} {k : Nat} (found : first? p ls a b = some k)

include found

/-- The first line of some kinds stands among the lines, and is of one of these kinds. -/
theorem of_first? : a ≤ k ∧ k < b ∧ ∃ kind, kindAt? ls k = some kind ∧ p kind = true :=
  mem_numbers.mp (first?_eq_some.mp found).1

/-- No line in front of it is of such a kind. -/
theorem not_of_lt_first? {i : Nat} {kind : LineKind} (start : a ≤ i) (before : i < k)
    (here : kindAt? ls i = some kind) : p kind = false := by
  rw [Bool.eq_false_iff]
  intro yes
  have stop := (of_first? found).2.1
  have least := (first?_eq_some.mp found).2 i (mem_numbers.mpr ⟨start, by omega, kind, here, yes⟩)
  omega

end

theorem not_of_first?_eq_none {p : LineKind → Bool} (none : first? p ls a b = none) {i : Nat}
    {kind : LineKind} (start : a ≤ i) (stop : i < b) (here : kindAt? ls i = some kind) :
    p kind = false := by
  rw [Bool.eq_false_iff]
  intro yes
  have mem := mem_numbers.mpr ⟨start, stop, kind, here, yes⟩
  rw [List.head?_eq_none_iff.mp none] at mem
  cases mem

end HurlAssist.LineRange
