/-!
Places in a document. A `Point` is a line and a column, both from zero, columns counted in
characters of the raw line. A `Span` runs from its start to its stop; the stop column counts as
inside, so that a cursor right after a word is still on the word.
-/

namespace HurlAssist

/-- A line and a column, both counted from zero. -/
structure Point where
  line : Nat
  col : Nat
  deriving DecidableEq, Repr, Inhabited

namespace Point

/-- The order of a document: by line, and by column on one line. -/
def le (p q : Point) : Bool := p.line < q.line || (p.line == q.line && p.col ≤ q.col)

instance : LE Point := ⟨fun p q => p.le q = true⟩

instance (p q : Point) : Decidable (p ≤ q) := inferInstanceAs (Decidable (p.le q = true))

theorem le_iff {p q : Point} : p ≤ q ↔ p.line < q.line ∨ (p.line = q.line ∧ p.col ≤ q.col) := by
  show p.le q = true ↔ _
  simp [le]

/-- The earlier of two points. -/
def earlier (p q : Point) : Point := if p ≤ q then p else q

/-- The later of two points. -/
def later (p q : Point) : Point := if p ≤ q then q else p

end Point

/-- A region of a document. -/
structure Span where
  start : Point
  stop : Point
  deriving DecidableEq, Repr, Inhabited

namespace Span

/-- The region before any text: from the first column of the first line to itself. -/
def zero : Span := ⟨⟨0, 0⟩, ⟨0, 0⟩⟩

/-- A region of one line. It never stops before it starts. -/
def onLine (line startCol stopCol : Nat) : Span :=
  ⟨⟨line, startCol⟩, ⟨line, max stopCol startCol⟩⟩

/-- The region with its stop moved. The stop is kept from falling before the start. -/
def close (s : Span) (line col : Nat) : Span :=
  let last := max line s.start.line
  ⟨s.start, ⟨last, if last = s.start.line then max col s.start.col else col⟩⟩

/-- Whether the line lies between the first and the last line of the region. -/
def spansLine (s : Span) (line : Nat) : Bool := s.start.line ≤ line && line ≤ s.stop.line

/-- Whether the point lies in the region. Columns matter on the first and on the last line only. -/
def contains (s : Span) (p : Point) : Bool :=
  s.spansLine p.line &&
  !(p.line == s.start.line && p.col < s.start.col) &&
  !(p.line == s.stop.line && s.stop.col < p.col)

/-- Whether the other region starts and stops inside this one. -/
def encloses (s t : Span) : Bool := s.start.le t.start && t.stop.le s.stop

/-- Whether the two regions have a line in common. -/
def sharesLine (s t : Span) : Bool := s.start.line ≤ t.stop.line && t.start.line ≤ s.stop.line

/-- The least region that holds both. -/
def join (s t : Span) : Span := ⟨s.start.earlier t.start, s.stop.later t.stop⟩

end Span

end HurlAssist
