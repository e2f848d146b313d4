import HurlAssist.Document.Query
import HurlAssist.Proofs.Document.Captures

/-!
The lines of sections. A section keeps the lines below its header as they stand in the file, and
none of them is a method line, a status line or the header of another section. A line belongs to at
most one response section of a file, and that is the one that is found for it
(`Document.sectionAt?_eq_some`). Requests, headers and bodies stand on other lines
(`Document.request_apart`, `Document.headers_apart`, `Document.body_apart`).
-/

namespace HurlAssist

open LineRange

theorem LineRange.getElem?_between {ls : List String} {a b i : Nat} (start : a ≤ i) (stop : i < b) :
    (between ls a b)[i - a]? = ls[i]? := by
  rw [between, List.getElem?_drop, Nat.add_sub_cancel' start, List.getElem?_take_of_lt stop]

theorem LineRange.Stands.kindAt?_head {ls xs : List String} {n : Nat} {x : String}
    (h : Stands ls n (x :: xs)) : kindAt? ls n = some (Line.kind x) := by
  rw [kindAt?, h.head]
  rfl

theorem Span.spansLine_iff {s : Span} {line : Nat} :
    s.spansLine line = true ↔ s.start.line ≤ line ∧ line ≤ s.stop.line := by
  rw [spansLine, Bool.and_eq_true, decide_eq_true_eq, decide_eq_true_eq]

theorem Span.spansLine_of_contains {s : Span} {p : Point} (h : s.contains p = true) :
    s.spansLine p.line = true := by
  simp only [contains, Bool.and_eq_true] at h
  exact h.1.1

/-- A region has the lines of the regions that it holds. -/
theorem Span.Holds.spansLine {s t : Span} (h : s.Holds t) {line : Nat}
    (here : t.spansLine line = true) : s.spansLine line = true := by
  have lines := h.lines
  rw [spansLine_iff] at here ⊢
  omega

/-- If no two members of a list are marked, there is one place at most for a marked one. -/
theorem index_unique_of_pairwise {α : Type} {Marked : α → Prop} {xs : List α}
    (h : xs.Pairwise fun x y => ¬ (Marked x ∧ Marked y)) {i j : Nat} {x y : α}
    (hx : xs[i]? = some x) (hy : xs[j]? = some y) (mx : Marked x) (my : Marked y) : i = j := by
  obtain ⟨hi, rfl⟩ := List.getElem?_eq_some_iff.mp hx
  obtain ⟨hj, rfl⟩ := List.getElem?_eq_some_iff.mp hy
  have apart := List.pairwise_iff_getElem.mp h
  rcases Nat.lt_trichotomy i j with lt | same | gt
  · exact absurd ⟨mx, my⟩ (apart i j hi hj lt)
  · exact same
  · exact absurd ⟨my, mx⟩ (apart j i hj hi gt)

theorem mem_unique_of_pairwise {α : Type} {Marked : α → Prop} {xs : List α}
    (h : xs.Pairwise fun x y => ¬ (Marked x ∧ Marked y)) {x y : α} (hx : x ∈ xs) (hy : y ∈ xs)
    (mx : Marked x) (my : Marked y) : x = y := by
  obtain ⟨i, hi⟩ := List.mem_iff_getElem?.mp hx
  obtain ⟨j, hj⟩ := List.mem_iff_getElem?.mp hy
  obtain rfl := index_unique_of_pairwise h hi hj mx my
  exact Option.some.inj (hi.symm.trans hj)

/-- If no two members of a list pass a test, a search finds the one that does. -/
theorem find?_eq_some_iff_of_pairwise {α : Type} {p : α → Bool} {xs : List α}
    (h : xs.Pairwise fun x y => ¬ (p x = true ∧ p y = true)) {x : α} :
    xs.find? p = some x ↔ x ∈ xs ∧ p x = true := by
  constructor
  · intro found
    exact ⟨List.mem_of_find?_eq_some found, List.find?_some found⟩
  · rintro ⟨hx, px⟩
    cases found : xs.find? p with
    | none => exact absurd px (List.find?_eq_none.mp found x hx)
    | some y =>
      rw [mem_unique_of_pairwise h
        (List.mem_of_find?_eq_some found) hx (List.find?_some found) px]

namespace Section

/-- The line is one of the section's lines below its header. -/
def Has (s : Section) (line : Nat) : Prop := s.span.start.line < line ∧ line ≤ s.span.stop.line

/-- How a section takes up lines of a file: its header with the name, and below it lines that end no
section, all of which it keeps. -/
structure LaidOut (ls : List String) (s : Section) : Prop where
  header : kindAt? ls s.span.start.line = some .sectionHeader
  name : s.name.span.start.line = s.span.start.line ∧ s.name.span.stop.line = s.span.start.line
  lines : s.lines = between ls (s.span.start.line + 1) (s.span.stop.line + 1)
  plain : ∀ i, s.Has i → ∃ k, kindAt? ls i = some k ∧ k.endsSection = false

variable {ls : List String} {s : Section}

theorem laidOut_ofBlock {c : Block} (stands : Stands ls c.line c.lines)
    (header : Line.kind c.head = .sectionHeader)
    (plain : ∀ l ∈ c.rest, (Line.kind l).endsSection = false) : (ofBlock c).LaidOut ls := by
  have stop := Block.stop_span c (Text.indent c.head.toList)
  constructor
  · exact header ▸ stands.kindAt?_head
  · exact ⟨rfl, rfl⟩
  · have lines := Block.rest_eq_between stands
    rw [← stop] at lines
    exact lines
  · rintro i ⟨after, before⟩
    have inside : i < c.line + 1 + c.rest.length := by
      rw [← Block.stop, ← stop]
      exact Nat.lt_succ_of_le before
    obtain ⟨l, mem, hl⟩ := stands.tail.exists_mem after inside
    exact ⟨Line.kind l, by rw [kindAt?, hl]; rfl, plain l mem⟩

/-- A line of the section is the file's own line with that number. -/
theorem LaidOut.line?_eq (laid : s.LaidOut ls) {i : Nat} (has : s.Has i) : s.line? i = ls[i]? := by
  rw [Section.line?, if_pos has.1, laid.lines]
  exact getElem?_between has.1 (Nat.lt_succ_of_le has.2)

theorem LaidOut.exists_text (laid : s.LaidOut ls) {i : Nat} (has : s.Has i) :
    ∃ text, ls[i]? = some text := by
  obtain ⟨k, kind, _⟩ := laid.plain i has
  obtain ⟨text, here, _⟩ := Option.map_eq_some_iff.mp kind
  exact ⟨text, here⟩

/-- A line that ends sections is no section's. -/
theorem LaidOut.not_has_of_ends (laid : s.LaidOut ls) {i : Nat} {k : LineKind}
    (kind : kindAt? ls i = some k) (ends : k.endsSection = true) : ¬ s.Has i := by
  intro has
  obtain ⟨k', kind', plain⟩ := laid.plain i has
  rw [kind] at kind'
  cases kind'
  rw [ends] at plain
  cases plain

end Section

/-- No status line stands among the lines of sections. -/
theorem Content.status_not_mem_sectionLines {ls : List String} {l : String}
    (h : l ∈ sectionLines ls) : Line.kind l ≠ .status := by
  unfold sectionLines at h
  split at h
  · cases h
  · split at h
    · simpa using List.mem_takeWhile_imp h
    · cases h

/-- Each section of a content is made by a block that stands among the lines of the content. -/
theorem Content.exists_block {ls xs : List String} {n : Nat} (stands : Stands ls n xs) {s : Section}
    (hs : s ∈ (Content.empty.addLines n xs).sections) :
    ∃ c, s = Section.ofBlock c ∧ Stands ls c.line c.lines ∧ Line.kind c.head = .sectionHeader ∧
      (∀ l ∈ c.lines, l ∈ sectionLines xs) ∧ ∀ l ∈ c.rest, Line.kind l ≠ .sectionHeader := by
  rw [← runs_append xs] at stands
  rw [addLines_empty] at hs
  obtain ⟨c, hc, rfl⟩ := List.mem_map.mp hs
  obtain ⟨before, after, cut, _, head, rest⟩ := Block.exists_append_of_mem_cut hc
  refine ⟨c, rfl, Block.stands_of_mem_cut stands.right.left hc, eq_of_beq head, ?_, ?_⟩
  · intro l hl
    rw [cut]
    simp [hl]
  · intro l hl
    simpa using rest l hl

/-- Without a method line among the lines, none of the lines of such a block ends a section. -/
theorem Content.exists_sectionBlock {ls xs : List String} {n : Nat} (stands : Stands ls n xs)
    (inside : ∀ l ∈ xs, Line.kind l ≠ .method) {s : Section}
    (hs : s ∈ (Content.empty.addLines n xs).sections) :
    ∃ c, s = Section.ofBlock c ∧ Stands ls c.line c.lines ∧ Line.kind c.head = .sectionHeader ∧
      ∀ l ∈ c.rest, (Line.kind l).endsSection = false := by
  obtain ⟨c, rfl, here, header, among, other⟩ := exists_block stands hs
  refine ⟨c, rfl, here, header, ?_⟩
  intro l hl
  have mem := among l (List.mem_cons_of_mem _ hl)
  have method : Line.kind l ≠ .method := by
    apply inside
    rw [← runs_append xs]
    simp [mem]
  exact LineKind.endsSection_eq_false.mpr
    ⟨other l hl, method, status_not_mem_sectionLines mem⟩

/-- The sections that lines below a method or status line make are laid out among these lines. -/
theorem Content.sections_laidOut {ls xs : List String} {n : Nat} (stands : Stands ls n xs)
    (inside : ∀ l ∈ xs, Line.kind l ≠ .method) :
    ∀ s ∈ (Content.empty.addLines n xs).sections, s.LaidOut ls := by
  intro s hs
  obtain ⟨c, rfl, here, header, plain⟩ := exists_sectionBlock stands inside hs
  exact Section.laidOut_ofBlock here header plain

/-- A response starts on a status line, and its sections are laid out. -/
theorem Entry.response_of_ofBlock {ls : List String} {b : Block} {e : Entry} {p : Response}
    (hb : b ∈ Block.entries 0 ls) (made : ofBlock b = .ok e) (hp : e.response = some p) :
    kindAt? ls p.span.start.line = some .status ∧ ∀ s ∈ p.content.sections, s.LaidOut ls := by
  obtain ⟨r, found, responseMade⟩ := exists_responseBlock made hp
  obtain ⟨_, _, _, status⟩ := Block.fromStatus?_spec found
  obtain ⟨span, content⟩ := Response.ofBlock_eq_ok responseMade
  have stands := Block.stands_fromStatus? (Block.stands_of_mem_cut (Stands.all ls) hb) found
  constructor
  · rw [span, ← status]
    exact stands.kindAt?_head
  · rw [content]
    apply Content.sections_laidOut stands.tail
    intro l hl
    exact Block.not_method_of_mem_fromStatus? hb found hl

namespace Document

variable {ls : List String} {d : Document}

theorem mem_responses {p : Response} : p ∈ d.responses ↔ ∃ e ∈ d.entries, e.response = some p :=
  List.mem_filterMap

theorem mem_responseSections {s : Section} :
    s ∈ d.responseSections ↔ ∃ p ∈ d.responses, s ∈ p.content.sections :=
  List.mem_flatMap

theorem response_spec (h : ofLines ls = .ok d) {p : Response} (hp : p ∈ d.responses) :
    kindAt? ls p.span.start.line = some .status ∧ ∀ s ∈ p.content.sections, s.LaidOut ls := by
  obtain ⟨e, he, hp⟩ := mem_responses.mp hp
  obtain ⟨b, hb, made⟩ := exists_block_of_entry h he
  exact Entry.response_of_ofBlock hb made hp

theorem response_nested (h : ofLines ls = .ok d) {p : Response} (hp : p ∈ d.responses) :
    p.content.Nested p.span := by
  obtain ⟨e, he, response⟩ := mem_responses.mp hp
  exact (((entries_inOrder h).1 e he).response p response).2

theorem section_laidOut (h : ofLines ls = .ok d) {s : Section} (hs : s ∈ d.responseSections) :
    s.LaidOut ls := by
  obtain ⟨p, hp, hs⟩ := mem_responseSections.mp hs
  exact (response_spec h hp).2 s hs

theorem sections_apart (h : ofLines ls = .ok d) (line : Nat) :
    d.responseSections.Pairwise fun s t => ¬ (s.Has line ∧ t.Has line) := by
  apply (sections_inOrder h).2.imp
  rintro s t above ⟨has, has'⟩
  have := has.2
  have := has'.1
  omega

theorem entries_apart (h : ofLines ls = .ok d) (line : Nat) : d.entries.Pairwise fun e f =>
    ¬ (e.span.spansLine line = true ∧ f.span.spansLine line = true) := by
  apply (entries_inOrder h).2.imp
  intro e f above
  rw [Span.spansLine_iff, Span.spansLine_iff]
  omega

/-- The section that is found for a line is the one response section that has it. -/
theorem sectionAt?_eq_some (h : ofLines ls = .ok d) {line : Nat} {s : Section} :
    d.sectionAt? line = some s ↔ s ∈ d.responseSections ∧ s.Has line := by
  have sound (t : Section) (found : d.sectionAt? line = some t) :
      t ∈ d.responseSections ∧ t.Has line := by
    obtain ⟨p, hp, ht⟩ := List.mem_flatMap.mp (List.mem_of_find?_eq_some found)
    have has := List.find?_some found
    rw [Bool.and_eq_true, decide_eq_true_eq, decide_eq_true_eq] at has
    exact ⟨mem_responseSections.mpr ⟨p, (List.mem_filter.mp hp).1, ht⟩, has⟩
  constructor
  · exact sound s
  · rintro ⟨hs, has⟩
    obtain ⟨p, hp, hs'⟩ := mem_responseSections.mp hs
    have first := ((response_nested h hp).sections s hs').1.lines.1
    have started : p.span.start.line < line := Nat.lt_of_le_of_lt first has.1
    cases found : d.sectionAt? line with
    | none =>
      have mem : s ∈ (d.responses.filter fun r => r.span.start.line < line).flatMap
          (·.content.sections) :=
        List.mem_flatMap.mpr ⟨p, List.mem_filter.mpr ⟨hp, decide_eq_true started⟩, hs'⟩
      have skipped := List.find?_eq_none.mp found s mem
      simp only [Bool.and_eq_true, decide_eq_true_eq] at skipped
      exact absurd has skipped
    | some t =>
      obtain ⟨ht, has'⟩ := sound t found
      rw [mem_unique_of_pairwise (sections_apart h line) ht hs has' has]

/-- A line of a response section stands in the entry of the response, below the request. -/
theorem exists_entry_of_has (h : ofLines ls = .ok d) {line : Nat} {s : Section}
    (hs : s ∈ d.responseSections) (has : s.Has line) : ∃ e ∈ d.entries, e.Nested ∧
      s ∈ e.responseSections ∧ e.span.spansLine line = true ∧ e.request.span.stop.line < line := by
  rw [responseSections_eq] at hs
  obtain ⟨e, he, hs⟩ := List.mem_flatMap.mp hs
  have nested := (entries_inOrder h).1 e he
  obtain ⟨below, _, inside⟩ := nested.section_lines hs
  obtain ⟨first, request, _⟩ := nested.request_lines
  obtain ⟨after, before⟩ := has
  exact ⟨e, he, nested, hs, Span.spansLine_iff.mpr (by omega), by omega⟩

/-- A request has no line of a response section. -/
theorem request_apart (h : ofLines ls = .ok d) {line : Nat} {s : Section}
    (hs : s ∈ d.responseSections) (has : s.Has line) {e : Entry} (he : e ∈ d.entries) :
    e.request.span.spansLine line = false := by
  obtain ⟨f, hf, _, _, spans, below⟩ := exists_entry_of_has h hs has
  rw [Bool.eq_false_iff]
  intro here
  have spans' := ((entries_inOrder h).1 e he).request.1.spansLine here
  obtain rfl := mem_unique_of_pairwise (entries_apart h line) he hf spans' spans
  exact absurd (Span.spansLine_iff.mp here).2 (Nat.not_le_of_lt below)

/-- A response that has a line of a section has the section. -/
theorem section_mem_of_has (h : ofLines ls = .ok d) {line : Nat} {s : Section}
    (hs : s ∈ d.responseSections) (has : s.Has line) {p : Response} (hp : p ∈ d.responses)
    (here : p.span.spansLine line = true) : s ∈ p.content.sections := by
  obtain ⟨f, hf, _, hs, spans, _⟩ := exists_entry_of_has h hs has
  obtain ⟨e, he, response⟩ := mem_responses.mp hp
  have spans' := (((entries_inOrder h).1 e he).response p response).1.spansLine here
  obtain rfl := mem_unique_of_pairwise (entries_apart h line) he hf spans' spans
  rw [Entry.responseSections, response] at hs
  exact hs

/-- The headers of a response stand above the lines of its sections. -/
theorem headers_apart (h : ofLines ls = .ok d) {line : Nat} {s : Section}
    (hs : s ∈ d.responseSections) (has : s.Has line) {p : Response} (hp : p ∈ d.responses)
    {region : Span} (found : p.content.headers.span = some region) :
    region.spansLine line = false := by
  have nested := response_nested h hp
  rw [Bool.eq_false_iff]
  intro here
  have mem := section_mem_of_has h hs has hp ((nested.headers region found).spansLine here)
  have above := ((nested.headersFirst region found).1 s mem).lt
  have last := (Span.spansLine_iff.mp here).2
  have first := has.1
  omega

/-- The body of a response stands below the lines of its sections. -/
theorem body_apart (h : ofLines ls = .ok d) {line : Nat} {s : Section}
    (hs : s ∈ d.responseSections) (has : s.Has line) {p : Response} (hp : p ∈ d.responses)
    {region : Span} (found : p.content.body.span = some region) :
    region.spansLine line = false := by
  have nested := response_nested h hp
  rw [Bool.eq_false_iff]
  intro here
  have mem := section_mem_of_has h hs has hp ((nested.body region found).1.spansLine here)
  have above := (nested.bodyLast region found s mem).lt
  have first := (Span.spansLine_iff.mp here).1
  have last := has.2
  omega

end Document

end HurlAssist
