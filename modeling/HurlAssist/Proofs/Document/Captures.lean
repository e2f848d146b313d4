import HurlAssist.Document.Captures
import HurlAssist.Proofs.Document.Nesting
import HurlAssist.Proofs.FirstPlaces

/-!
Which sections decide what is known on a line: those of the responses that end above it. In a file
that is read the sections of all responses stand one below the other, so these are the first of
them.
-/

namespace HurlAssist

/-- The keys of the `[Captures]` sections among these. -/
def Section.captured (ss : List Section) : List String :=
  (ss.filter isCaptures).flatMap (·.keyValues.keys)

namespace Entry

/-- The sections of the response, if there is one. -/
def responseSections (e : Entry) : List Section :=
  match e.response with
  | none => []
  | some p => p.content.sections

/-- The names that the response captures. -/
def captured (e : Entry) : List String := Section.captured e.responseSections

end Entry

theorem Point.line_le {p q : Point} (h : p ≤ q) : p.line ≤ q.line := by
  rcases Point.le_iff.mp h with less | ⟨same, _⟩
  · exact Nat.le_of_lt less
  · exact Nat.le_of_eq same

theorem Span.Holds.lines {s t : Span} (h : s.Holds t) :
    s.start.line ≤ t.start.line ∧ t.start.line ≤ t.stop.line ∧ t.stop.line ≤ s.stop.line := by
  obtain ⟨first, last⟩ := Bool.and_eq_true_iff.mp h.encloses
  exact ⟨Point.line_le first, Point.line_le h.ordered, Point.line_le last⟩

/-- A response section stands below the request of its entry, and not below the entry. -/
theorem Entry.Nested.section_lines {e : Entry} (nested : e.Nested) {s : Section}
    (hs : s ∈ e.responseSections) :
    e.request.span.stop.line < s.span.start.line ∧ s.span.start.line ≤ s.span.stop.line ∧
      s.span.stop.line ≤ e.span.stop.line := by
  unfold responseSections at hs
  split at hs
  · cases hs
  · rename_i p found
    obtain ⟨holds, content⟩ := nested.response p found
    obtain ⟨_, _, last⟩ := holds.lines
    obtain ⟨first, ordered, inside⟩ := (content.sections s hs).1.lines
    have below := (nested.inOrder p found).lt
    omega

theorem Entry.Nested.request_lines {e : Entry} (nested : e.Nested) :
    e.span.start.line ≤ e.request.method.span.start.line ∧
      e.request.method.span.start.line ≤ e.request.span.stop.line ∧
      e.request.span.stop.line ≤ e.span.stop.line := by
  obtain ⟨first, _, last⟩ := nested.request.1.lines
  obtain ⟨start, ordered, stop⟩ := nested.request.2.method.lines
  omega

theorem Entry.Nested.pairwise_responseSections {e : Entry} (nested : e.Nested) :
    e.responseSections.Pairwise fun s t => s.span.stop.line < t.span.start.line := by
  unfold responseSections
  split
  · exact List.Pairwise.nil
  · rename_i p found
    exact (nested.response p found).2.inOrder.imp fun above => above.lt

namespace Document

variable {ls : List String} {d : Document}

theorem responseSections_eq (d : Document) :
    d.responseSections = d.entries.flatMap Entry.responseSections := by
  unfold responseSections responses
  induction d.entries with
  | nil => rfl
  | cons e es ih =>
    rw [List.flatMap_cons, ← ih, Entry.responseSections]
    cases response : e.response with
    | none => rw [List.filterMap_cons_none response, List.nil_append]
    | some p => rw [List.filterMap_cons_some response, List.flatMap_cons]

/-- The entries of a file that is read are nested, and stand one below the other. -/
theorem entries_inOrder (h : ofLines ls = .ok d) :
    (∀ e ∈ d.entries, e.Nested) ∧
      d.entries.Pairwise fun e f => e.span.stop.line < f.span.start.line := by
  constructor
  · intro e he
    obtain ⟨i, hi⟩ := List.mem_iff_getElem?.mp he
    obtain ⟨_, _, _, _, nested⟩ := exists_covered_block h hi
    exact nested
  · apply List.pairwise_iff_getElem.mpr
    intro i j hi hj lt
    obtain ⟨b, here, _, covers, _⟩ := exists_covered_block h (List.getElem?_eq_getElem hi)
    obtain ⟨c, there, _, covers', _⟩ := exists_covered_block h (List.getElem?_eq_getElem hj)
    exact (covers.above covers' (Block.stop_le_line lt here there)).lt

/-- The sections of all responses stand one below the other. -/
theorem sections_inOrder (h : ofLines ls = .ok d) :
    (∀ s ∈ d.responseSections, s.span.start.line ≤ s.span.stop.line) ∧
      d.responseSections.Pairwise fun s t => s.span.stop.line < t.span.start.line := by
  obtain ⟨nested, inOrder⟩ := entries_inOrder h
  rw [responseSections_eq, List.pairwise_flatMap]
  refine ⟨?_, ?_, ?_⟩
  · intro s hs
    obtain ⟨e, he, hs⟩ := List.mem_flatMap.mp hs
    exact ((nested e he).section_lines hs).2.1
  · intro e he
    exact (nested e he).pairwise_responseSections
  · apply inOrder.imp_of_mem
    intro e f he hf lt s hs t ht
    have := (nested e he).section_lines hs
    have := (nested f hf).section_lines ht
    have := (nested f hf).request_lines
    omega

end Document

/-- If whatever stands in front of a kept member is kept, a filter only cuts off the end. -/
theorem filter_prefix_of_pairwise {α : Type} {p : α → Bool} {xs : List α}
    (h : xs.Pairwise fun x y => p y = true → p x = true) : xs.filter p <+: xs := by
  induction xs with
  | nil => exact List.prefix_rfl
  | cons x xs ih =>
    obtain ⟨front, h⟩ := List.pairwise_cons.mp h
    cases hx : p x with
    | true =>
      rw [List.filter_cons_of_pos hx]
      exact (List.prefix_cons_inj x).mpr (ih h)
    | false =>
      have none : xs.filter p = [] := by
        apply List.filter_eq_nil_iff.mpr
        intro y hy here
        rw [front y hy here] at hx
        cases hx
      rw [List.filter_cons_of_neg (by simp [hx]), none]
      exact List.nil_prefix

namespace Capture

/-- The fold keeps each name where it first stands. -/
theorem distinct_eq (names : List String) : distinct names = names.eraseDups := by
  induction names using List.reverseRecOn with
  | nil => rfl
  | append_singleton names name ih =>
    rw [eraseDups_concat, ← ih, distinct, List.foldl_append, ← distinct]
    simp only [List.foldl_cons, List.foldl_nil, List.contains_iff_mem, ih, List.mem_eraseDups]

theorem names_prefix {cs cs' : List Capture} (h : cs <+: cs') : names cs <+: names cs' := by
  obtain ⟨more, rfl⟩ := h
  rw [names, names, distinct_eq, distinct_eq, List.flatMap_append]
  exact eraseDups_prefix (List.prefix_append _ _)

theorem before_before {line line' : Nat} (h : line ≤ line') (cs : List Capture) :
    before line (before line' cs) = before line cs := by
  rw [before, before, before, List.filter_filter]
  apply List.filter_congr
  intro c _
  rw [Bool.eq_iff_iff, Bool.and_eq_true, decide_eq_true_eq, decide_eq_true_eq]
  omega

variable {cs : List Capture} (ascending : cs.Pairwise fun c c' => c.useAfter < c'.useAfter)

include ascending

theorem before_prefix (line : Nat) : before line cs <+: cs := by
  apply filter_prefix_of_pairwise
  apply ascending.imp
  intro c c' lt
  rw [decide_eq_true_eq, decide_eq_true_eq]
  omega

theorem before_prefix_before {line line' : Nat} (h : line ≤ line') :
    before line cs <+: before line' cs := by
  rw [← before_before h]
  exact before_prefix (ascending.filter _) line

end Capture

theorem Section.captured_append (ss ts : List Section) :
    captured (ss ++ ts) = captured ss ++ captured ts := by
  simp [captured]

theorem Section.mem_captured {ss : List Section} {name : String} :
    name ∈ captured ss ↔ ∃ s ∈ ss, s.isCaptures = true ∧ name ∈ s.keyValues.keys := by
  simp [captured, and_assoc]

theorem Entry.flatMap_captured (es : List Entry) :
    es.flatMap captured = Section.captured (es.flatMap responseSections) := by
  simp only [Section.captured, List.filter_flatMap, List.flatMap_assoc]
  rfl

namespace Document

variable {d : Document}

/-- The names known on a line are the keys of the sections that end above it. -/
theorem variablesAt_eq (d : Document) (line : Nat) : d.variablesAt line =
    (Section.captured (d.responseSections.filter (·.span.stop.line < line))).eraseDups := by
  rw [variablesAt, Capture.names, Capture.distinct_eq, captures, Capture.before, List.filter_map,
    List.filter_filter, List.flatMap_map, Section.captured, List.filter_filter]
  simp only [Function.comp_def, Capture.ofSection, Bool.and_comm]
  rfl

theorem mem_variablesAt {line : Nat} {name : String} :
    name ∈ d.variablesAt line ↔ ∃ s ∈ d.responseSections,
      s.isCaptures = true ∧ s.span.stop.line < line ∧ name ∈ s.keyValues.keys := by
  rw [variablesAt_eq, List.mem_eraseDups, Section.mem_captured]
  simp only [List.mem_filter, decide_eq_true_eq, and_assoc, and_left_comm]

/-- Where the sections are parted by a line, the first part decides what is known on it. -/
theorem variablesAt_of_append {line : Nat} {front back : List Section}
    (parts : d.responseSections = front ++ back) (above : ∀ s ∈ front, s.span.stop.line < line)
    (below : ∀ s ∈ back, line ≤ s.span.stop.line) :
    d.variablesAt line = (Section.captured front).eraseDups := by
  have keeps : front.filter (·.span.stop.line < line) = front := by
    simpa only [List.filter_eq_self, decide_eq_true_eq] using above
  have drops : back.filter (·.span.stop.line < line) = [] := by
    simpa only [List.filter_eq_nil_iff, decide_eq_true_eq, Nat.not_lt] using below
  rw [variablesAt_eq, parts, List.filter_append, keeps, drops, List.append_nil]

end Document

end HurlAssist
