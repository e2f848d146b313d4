import HurlAssist.Proofs.Document.ContentLayout
import HurlAssist.Proofs.Text.TrailingBlanks

/-!
Regions that take up whole lines but for blanks in front: they start somewhere on their first line
and go on to the end of their last. All parts of a file but single words have such regions, and so
it is decided by line numbers alone which of two regions holds or precedes the other.
-/

namespace HurlAssist

open LineRange

theorem Point.le_refl (p : Point) : p ≤ p := Point.le_iff.mpr (.inr ⟨rfl, Nat.le_refl _⟩)

/-- The other region does not stop before it starts, and lies in this one. -/
structure Span.Holds (s t : Span) : Prop where
  ordered : t.start ≤ t.stop
  encloses : s.encloses t = true

/-- The region stops on a line in front of the one on which the other starts, so that they have no
line in common. -/
structure Span.Above (s t : Span) : Prop where
  lt : s.stop.line < t.start.line
  apart : s.sharesLine t = false

/-- The length of a line; 0 behind the last one. -/
def LineRange.width (ls : List String) (i : Nat) : Nat := (ls.getD i "").length

theorem LineRange.width_of_getElem? {ls : List String} {i : Nat} {l : String}
    (h : ls[i]? = some l) : width ls i = l.length := by
  rw [width, List.getD_eq_getElem?_getD, h, Option.getD_some]

/-- The region takes up the lines from `a` up to before `b`. -/
structure Span.Covers (ls : List String) (a b : Nat) (s : Span) : Prop where
  lt : a < b
  start : s.start.line = a
  col : s.start.col ≤ width ls a
  stop : s.stop = ⟨b - 1, width ls (b - 1)⟩

namespace Span.Covers

variable {ls : List String} {a b c d : Nat} {s t : Span}

theorem stop_line (h : s.Covers ls a b) : s.stop.line + 1 = b := by
  have := h.lt
  rw [h.stop]
  simp only
  omega

/-- It does not stop before it starts. -/
theorem ordered (h : s.Covers ls a b) : s.start ≤ s.stop := by
  have lt := h.lt
  have stop := h.stop_line
  rw [Point.le_iff, h.start]
  rcases Nat.lt_or_eq_of_le (show a ≤ s.stop.line by omega) with less | same
  · exact .inl less
  · refine .inr ⟨same, ?_⟩
    have single : b - 1 = a := by omega
    rw [h.stop, single]
    exact h.col

/-- Of two such regions one holds the other if it starts no later and goes on as far. -/
theorem holds (hs : s.Covers ls a b) (ht : t.Covers ls c d) (first : s.start ≤ t.start)
    (last : d ≤ b) : s.Holds t := by
  have lt := ht.lt
  have stop : t.stop ≤ s.stop := by
    rw [Point.le_iff, hs.stop, ht.stop]
    rcases Nat.lt_or_eq_of_le last with less | rfl
    · exact .inl (by simp only; omega)
    · exact .inr ⟨rfl, Nat.le_refl _⟩
  exact ⟨ht.ordered, Bool.and_eq_true_iff.mpr ⟨first, stop⟩⟩

/-- A region that starts further down starts later. -/
theorem start_le (hs : s.Covers ls a b) (ht : t.Covers ls c d) (h : a < c) : s.start ≤ t.start := by
  rw [Point.le_iff, hs.start, ht.start]
  exact .inl h

theorem above (hs : s.Covers ls a b) (ht : t.Covers ls c d) (h : b ≤ c) : s.Above t := by
  have stop := hs.stop_line
  have start := ht.start
  constructor
  · omega
  · simp only [sharesLine, Bool.and_eq_false_iff, decide_eq_false_iff_not]
    omega

/-- A word of its first line, if the region starts no later. -/
theorem holds_onLine (h : s.Covers ls a b) {start stop : Nat} (first : s.start.col ≤ start)
    (inside : start ≤ width ls a) (last : stop ≤ width ls a) : s.Holds (.onLine a start stop) := by
  have lt := h.lt
  constructor
  · exact Point.le_iff.mpr (.inr ⟨rfl, Nat.le_max_right _ _⟩)
  · apply Bool.and_eq_true_iff.mpr
    constructor
    · exact Point.le_iff.mpr (.inr ⟨h.start, first⟩)
    · apply Point.le_iff.mpr
      rw [h.stop]
      rcases Nat.lt_or_eq_of_le (show a ≤ b - 1 by omega) with less | same
      · exact .inl less
      · refine .inr ⟨same, ?_⟩
        rw [← same]
        exact Nat.max_le.mpr ⟨last, inside⟩

theorem join_eq (hs : s.Covers ls a b) (ht : t.Covers ls b c) : s.join t = ⟨s.start, t.stop⟩ := by
  have first := hs.lt
  have second := ht.lt
  have start := hs.start
  have start' := ht.start
  have stop := hs.stop_line
  have stop' := ht.stop_line
  exact join_of_lt (by omega) (by omega)

/-- Two regions one behind the other join to the region of all their lines. -/
theorem join (hs : s.Covers ls a b) (ht : t.Covers ls b c) : (s.join t).Covers ls a c := by
  rw [hs.join_eq ht]
  exact ⟨hs.lt.trans ht.lt, hs.start, hs.col, ht.stop⟩

end Span.Covers

namespace Block

variable {ls : List String} {b : Block}

/-- A block's region covers its lines. -/
theorem covers (stands : Stands ls b.line b.lines) {col : Nat} (h : col ≤ b.head.length) :
    (b.span col).Covers ls b.line b.stop := by
  rw [span_eq b h]
  refine ⟨b.line_lt_stop, rfl, ?_, ?_⟩
  · rw [width_of_getElem? stands.head]
    exact h
  · rw [width_of_getElem? (getElem?_last stands)]

theorem indent_le_length (b : Block) : Text.indent b.head.toList ≤ b.head.length := by
  have := Text.indent_add_length_trim_le b.head.toList
  rw [String.length_toList] at this
  omega

/-- The lines of the request's part stand where the block does. -/
theorem stands_upToStatus (stands : Stands ls b.line b.lines) :
    Stands ls b.upToStatus.line b.upToStatus.lines :=
  ((List.prefix_cons_inj b.head).mpr (List.takeWhile_prefix _)).trans stands

/-- No block goes on behind the lines that it is cut from. -/
theorem stop_le_of_mem_cut {isHead : String → Bool} {n : Nat} {xs : List String}
    (h : b ∈ (cut isHead n xs).2) : n ≤ b.line ∧ b.stop ≤ n + xs.length := by
  obtain ⟨before, after, rfl, line, _⟩ := exists_append_of_mem_cut h
  simp only [stop, lines, List.length_append, List.length_cons]
  omega

/-- Where blocks are cut at lines of one kind, their heads are of this kind. -/
theorem kind_of_mem_cut {k : LineKind} {n : Nat} {xs : List String}
    (h : b ∈ (cut (fun l => Line.kind l == k) n xs).2) : Line.kind b.head = k := by
  obtain ⟨_, _, _, _, head, _⟩ := exists_append_of_mem_cut h
  exact eq_of_beq head

end Block

/-- The region of headers covers the lines from the first header line to the last. -/
theorem HeadersOf.covers {ls : List String} {a b : Nat} {h : Headers} (of : HeadersOf ls a b h)
    {s : Span} (hs : h.span = some s) : ∃ m n, a ≤ m ∧ n ≤ b ∧ s.Covers ls m n := by
  have ascending := numbers_ascending (· == .keyValue) ls a b
  have bounds (i : Nat) (hi : i ∈ numbers (· == .keyValue) ls a b) : a ≤ i ∧ i < b :=
    ⟨(mem_numbers.mp hi).1, (mem_numbers.mp hi).2.1⟩
  rw [of.span] at hs
  cases lines : numbers (· == .keyValue) ls a b with
  | nil =>
    rw [lines] at hs
    cases hs
  | cons m ms =>
    rw [lines] at hs ascending bounds
    cases hs
    have last := bounds _ (List.getLastD_mem_cons (a := m) (l := ms))
    have le : m ≤ ms.getLastD m := by
      rcases List.mem_cons.mp (List.getLastD_mem_cons (a := m) (l := ms)) with same | later
      · exact Nat.le_of_eq same.symm
      · exact Nat.le_of_lt ((List.pairwise_cons.mp ascending).1 _ later)
    exact ⟨m, ms.getLastD m + 1, (bounds m List.mem_cons_self).1, last.2,
      Nat.lt_succ_of_le le, rfl, Nat.zero_le _, rfl⟩

end HurlAssist
