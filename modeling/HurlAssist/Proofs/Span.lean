import Mathlib.Data.Prod.Lex
import Mathlib.Order.Interval.Set.Basic
import Mathlib.Order.MinMax
import HurlAssist.Span

/-!
Regions as sets of points. Points are in the order of their lines, and on one line in that of their
columns. A region is the interval from its start to its stop (`Span.contains_iff`), so that one
region encloses another if it has all of its points (`Span.encloses_iff_contains`), and two regions
join to the least one around both (`Span.encloses_join_iff`).
-/

namespace HurlAssist

namespace Point

/-- A point by its line and then by its column. -/
def key (p : Point) : ℕ ×ₗ ℕ := toLex (p.line, p.col)

theorem key_injective : Function.Injective key := by
  rintro ⟨line, col⟩ ⟨line', col'⟩ same
  cases same
  rfl

theorem le_iff_key {p q : Point} : p ≤ q ↔ p.key ≤ q.key := by
  rw [le_iff, key, key, Prod.Lex.toLex_le_toLex]

end Point

/-- Points as a linear order, whose least and greatest of two are the earlier and the later one. -/
local instance : LinearOrder Point where
  le_refl _ := Point.le_iff_key.mpr le_rfl
  le_trans _ _ _ first second :=
    Point.le_iff_key.mpr ((Point.le_iff_key.mp first).trans (Point.le_iff_key.mp second))
  le_antisymm _ _ first second :=
    Point.key_injective ((Point.le_iff_key.mp first).antisymm (Point.le_iff_key.mp second))
  le_total p q := (le_total p.key q.key).imp Point.le_iff_key.mpr Point.le_iff_key.mpr
  toDecidableLE := inferInstance
  min := Point.earlier
  max := Point.later

namespace Span

variable {a b c : Span}

/-- The region does not stop before it starts. -/
def Ordered (a : Span) : Prop := a.start.key ≤ a.stop.key

theorem ordered_iff : a.Ordered ↔ a.start ≤ a.stop := Point.le_iff_key.symm

/-- A region has the points from its start to its stop. -/
theorem contains_iff {p : Point} : a.contains p = true ↔ p ∈ Set.Icc a.start a.stop := by
  rw [Set.mem_Icc, Point.le_iff, Point.le_iff]
  simp only [contains, spansLine, Bool.and_eq_true, Bool.not_eq_true', Bool.and_eq_false_iff,
    decide_eq_true_eq, decide_eq_false_iff_not, beq_eq_false_iff_ne]
  omega

theorem contains_iff_key {line col : Nat} : a.contains ⟨line, col⟩ = true ↔
    a.start.key ≤ toLex (line, col) ∧ toLex (line, col) ≤ a.stop.key := by
  rw [contains_iff, Set.mem_Icc, Point.le_iff_key, Point.le_iff_key]
  rfl

theorem encloses_iff : a.encloses b = true ↔ a.start ≤ b.start ∧ b.stop ≤ a.stop :=
  Bool.and_eq_true_iff

/-- A region encloses another if it has all of its points. -/
theorem encloses_iff_contains (ordered : b.Ordered) :
    a.encloses b = true ↔ ∀ p, b.contains p = true → a.contains p = true := by
  rw [encloses_iff, ← Set.Icc_subset_Icc_iff (ordered_iff.mp ordered)]
  simp only [contains_iff]
  rfl

/-- A line belongs to a region if one of its points does. -/
theorem spansLine_iff_contains (ordered : a.Ordered) {line : Nat} :
    a.spansLine line = true ↔ ∃ col, a.contains ⟨line, col⟩ = true := by
  simp only [contains_iff, Set.mem_Icc, Point.le_iff, spansLine, Bool.and_eq_true,
    decide_eq_true_eq]
  have le := Point.le_iff.mp (ordered_iff.mp ordered)
  constructor
  · rintro ⟨first, last⟩
    -- the first column will do on every line but the first, where the region starts further on
    by_cases start : line = a.start.line
    · exact ⟨a.start.col, by omega, by omega⟩
    · exact ⟨0, by omega, by omega⟩
  · rintro ⟨col, first, last⟩
    omega

theorem sharesLine_iff (ha : a.Ordered) (hb : b.Ordered) : a.sharesLine b = true ↔
    ∃ line, a.spansLine line = true ∧ b.spansLine line = true := by
  have first := Point.le_iff.mp (ordered_iff.mp ha)
  have second := Point.le_iff.mp (ordered_iff.mp hb)
  simp only [sharesLine, spansLine, Bool.and_eq_true, decide_eq_true_eq]
  constructor
  · rintro ⟨below, above⟩
    exact ⟨max a.start.line b.start.line, by omega, by omega⟩
  · rintro ⟨line, below, above⟩
    omega

theorem join_eq (a b : Span) : a.join b = ⟨min a.start b.start, max a.stop b.stop⟩ := rfl

theorem join_comm (a b : Span) : a.join b = b.join a := by
  rw [join_eq, join_eq, min_comm, max_comm]

theorem join_assoc (a b c : Span) : (a.join b).join c = a.join (b.join c) := by
  simp only [join_eq, min_assoc, max_assoc]

theorem join_self (a : Span) : a.join a = a := by
  rw [join_eq, min_self, max_self]

theorem Ordered.join (ha : a.Ordered) : (a.join b).Ordered := by
  rw [ordered_iff] at ha ⊢
  calc
    min a.start b.start ≤ a.start := min_le_left _ _
    _ ≤ a.stop := ha
    _ ≤ max a.stop b.stop := le_max_left _ _

theorem encloses_refl (a : Span) : a.encloses a = true := encloses_iff.mpr ⟨le_rfl, le_rfl⟩

/-- What encloses two regions encloses the region that they join to, and no other region does. -/
theorem encloses_join_iff :
    c.encloses (a.join b) = true ↔ c.encloses a = true ∧ c.encloses b = true := by
  simp only [encloses_iff, join_eq, le_min_iff, max_le_iff]
  exact and_and_and_comm

/-- On no line above its start, a region is closed at the point that is asked for, or at its start
if that comes later. -/
theorem close_eq {line : Nat} (h : a.start.line ≤ line) (col : Nat) :
    a.close line col = ⟨a.start, max a.start ⟨line, col⟩⟩ := by
  rw [Span.close, Nat.max_eq_left h]
  congr 1
  rcases Nat.lt_or_eq_of_le h with below | rfl
  · have later : a.start ≤ ⟨line, col⟩ := Point.le_iff.mpr (.inl below)
    rw [if_neg (Nat.ne_of_gt below), max_eq_right later]
  · rw [if_pos rfl]
    rcases Nat.le_total a.start.col col with inside | before
    · have later : a.start ≤ ⟨a.start.line, col⟩ := Point.le_iff.mpr (.inr ⟨rfl, inside⟩)
      rw [Nat.max_eq_left inside, max_eq_right later]
    · have earlier : ⟨a.start.line, col⟩ ≤ a.start := Point.le_iff.mpr (.inr ⟨rfl, before⟩)
      rw [Nat.max_eq_right before, max_eq_left earlier]

theorem Ordered.close {line : Nat} (h : a.start.line ≤ line) (col : Nat) :
    (a.close line col).Ordered := by
  rw [ordered_iff, close_eq h]
  exact le_max_left _ _

/-- Regions that do not stop before they start are sets of points. A region has the points from its
start to its stop, by line and then by column, and it encloses another if it has all of its points.
Joining takes its operands in any order and any grouping, and leaves a region that is joined to
itself as it is; two regions join to the least one that encloses both. They share a line if there is
one that has points of both, and a region that is closed on no line above its start does not stop
before it starts either. -/
theorem regions_as_sets (ha : a.Ordered) (hb : b.Ordered) (c : Span) :
    (∀ line col, a.contains ⟨line, col⟩ = true ↔
      a.start.key ≤ toLex (line, col) ∧ toLex (line, col) ≤ a.stop.key) ∧
    (a.encloses b = true ↔ ∀ p, b.contains p = true → a.contains p = true) ∧
    (a.join b = b.join a ∧ (a.join b).join c = a.join (b.join c) ∧ a.join a = a) ∧
    ((a.join b).Ordered ∧ (a.join b).encloses a = true ∧ (a.join b).encloses b = true ∧
      (c.encloses a = true → c.encloses b = true → c.encloses (a.join b) = true)) ∧
    (∀ line, a.spansLine line = true ↔ ∃ col, a.contains ⟨line, col⟩ = true) ∧
    (a.sharesLine b = true ↔ ∃ line, a.spansLine line = true ∧ b.spansLine line = true) ∧
    ∀ line col, a.start.line ≤ line → (a.close line col).Ordered := by
  have around := encloses_join_iff.mp (encloses_refl (a.join b))
  refine ⟨fun _ _ => contains_iff_key, encloses_iff_contains hb,
    ⟨join_comm a b, join_assoc a b c, join_self a⟩, ⟨ha.join, around.1, around.2, ?_⟩,
    fun _ => spansLine_iff_contains ha, sharesLine_iff ha hb, fun _ col below => .close below col⟩
  intro first second
  exact encloses_join_iff.mpr ⟨first, second⟩

/-- Two regions that meet on a line but in no point. -/
theorem regions_as_sets_apart :
    let a : Span := ⟨⟨1, 4⟩, ⟨3, 0⟩⟩
    let b : Span := ⟨⟨3, 2⟩, ⟨3, 9⟩⟩
    let c : Span := ⟨⟨1, 0⟩, ⟨3, 9⟩⟩
    a.Ordered ∧ b.Ordered ∧ a.contains ⟨2, 100⟩ = true ∧ a.contains ⟨3, 1⟩ = false ∧
      (∃ p, b.contains p = true ∧ a.contains p = false) ∧ c.encloses (a.join b) = true ∧
      (∃ line, a.spansLine line = true ∧ b.spansLine line = true) ∧ (a.close 1 0).Ordered := by
  intro a b c
  have ha : a.Ordered := ordered_iff.mpr (by decide)
  have hb : b.Ordered := ordered_iff.mpr (by decide)
  obtain ⟨points, subset, -, ⟨-, -, -, least⟩, -, lines, closed⟩ := regions_as_sets ha hb c
  have outside : ∃ p, b.contains p = true ∧ a.contains p = false := by
    have apart : ¬ a.encloses b = true := by decide
    simpa [subset] using apart
  refine ⟨ha, hb, (points 2 100).mpr (by decide), ?_, outside, least (by decide) (by decide),
    lines.mp (by decide), closed 1 0 (by decide)⟩
  rw [Bool.eq_false_iff, Ne, points]
  decide

end Span

end HurlAssist
