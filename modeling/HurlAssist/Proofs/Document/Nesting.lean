import HurlAssist.Proofs.Document.ContentRuns
import HurlAssist.Proofs.Document.Regions
import HurlAssist.Proofs.Document.Tiling

/-!
The regions of a tree are nested as the tree is, down to the columns: each part lies in the part
that it belongs to, and parts side by side stand on lines of their own, in the order of the file.
-/

namespace HurlAssist

open LineRange Text

/-- The regions of a content lie in `outer`: headers in front, then sections, then the body. -/
structure Content.Nested (outer : Span) (c : Content) : Prop where
  headers : ∀ h, c.headers.span = some h → outer.Holds h
  sections : ∀ s ∈ c.sections, outer.Holds s.span ∧ s.span.Holds s.name.span
  body : ∀ b, c.body.span = some b →
    outer.Holds b ∧ c.body.lines.length = b.stop.line - b.start.line + 1
  noBody : c.body.span = none → c.body.lines = []
  headersFirst : ∀ h, c.headers.span = some h →
    (∀ s ∈ c.sections, h.Above s.span) ∧ ∀ b, c.body.span = some b → h.Above b
  inOrder : c.sections.Pairwise fun s t => s.span.Above t.span
  bodyLast : ∀ b, c.body.span = some b → ∀ s ∈ c.sections, s.span.Above b

structure Request.Nested (q : Request) : Prop where
  method : q.span.Holds q.method.span
  target : q.span.Holds q.target.span
  content : q.content.Nested q.span

structure Entry.Nested (e : Entry) : Prop where
  request : e.span.Holds e.request.span ∧ e.request.Nested
  response : ∀ p, e.response = some p → e.span.Holds p.span ∧ p.content.Nested p.span
  inOrder : ∀ p, e.response = some p → e.request.span.Above p.span

structure Document.Nested (d : Document) : Prop where
  ordered : d.span.start ≤ d.span.stop
  entries : ∀ e ∈ d.entries, d.span.Holds e.span ∧ e.Nested
  inOrder : d.entries.Pairwise fun e f => e.span.Above f.span

/-- A section header is its name in brackets, behind blanks. -/
theorem Line.exists_brackets {l name : String} (h : sectionName? l = some name) : ∃ after,
    l.toList = l.toList.takeWhile isBlank ++ ['['] ++ name.toList ++ after := by
  obtain ⟨ws, _, parts⟩ := exists_blanks_around_trim l.toList
  unfold sectionName? at h
  split at h
  · rename_i rest brackets
    split at h
    · rename_i closes
      simp only at h
      split at h
      · cases h
        obtain ⟨name, rfl⟩ := List.getLast?_eq_some_iff.mp closes
        rw [brackets] at parts
        refine ⟨']' :: ws, ?_⟩
        nth_rewrite 1 [parts]
        simp
      · cases h
    · cases h
  · cases h

theorem Line.length_sectionName?_le {l name : String} (h : sectionName? l = some name) :
    indent l.toList + 1 + name.length ≤ l.length := by
  obtain ⟨after, parts⟩ := exists_brackets h
  have length := congrArg List.length parts
  simp only [List.length_append, List.length_singleton, String.length_toList] at length
  rw [indent]
  omega

theorem Line.isSome_sectionName? {l : String} (h : Line.kind l = .sectionHeader) :
    (sectionName? l).isSome = true := by
  unfold Line.kind at h
  split at h
  · cases h
  · split at h
    · cases h
    · split at h
      · assumption
      · split at h
        · cases h
        · split at h <;> cases h

theorem Section.nested_ofBlock {ls : List String} {c : Block} (stands : Stands ls c.line c.lines)
    (header : Line.kind c.head = .sectionHeader) :
    (ofBlock c).span.Covers ls c.line c.stop ∧
      (ofBlock c).span.Holds (ofBlock c).name.span := by
  have covers := Block.covers stands c.indent_le_length
  obtain ⟨name, found⟩ := Option.isSome_iff_exists.mp (Line.isSome_sectionName? header)
  have inside := Line.length_sectionName?_le found
  refine ⟨covers, ?_⟩
  simp only [ofBlock, found, Option.getD_some]
  apply covers.holds_onLine
  · exact Nat.le_succ _
  · rw [width_of_getElem? stands.head]
    omega
  · rw [width_of_getElem? stands.head]
    exact inside

theorem Body.covers_ofLines {ls xs : List String} {n : Nat} (stands : Stands ls n xs) {s : Span}
    (h : (ofLines n xs).span = some s) : s.Covers ls n (n + xs.length) := by
  cases xs with
  | nil => cases h
  | cons x xs =>
    cases h
    have covers := Block.covers (b := ⟨n, x, xs⟩) stands (Nat.zero_le _)
    have stop : n + 1 + xs.length = n + (x :: xs).length := by
      rw [List.length_cons]
      omega
    rw [← stop]
    exact covers

theorem Body.length_lines_ofLines (n : Nat) (xs : List String) :
    (ofLines n xs).lines.length = xs.length := by
  cases xs <;> rfl

/-- The sections of some lines cover lines among these, one behind the other. -/
theorem Section.covers_of_mem {ls xs : List String} {n : Nat} (stands : Stands ls n xs) {c : Block}
    (h : c ∈ (Block.cut (fun l => Line.kind l == .sectionHeader) n xs).2) :
    n ≤ c.line ∧ c.stop ≤ n + xs.length ∧ (ofBlock c).span.Covers ls c.line c.stop ∧
      (ofBlock c).span.Holds (ofBlock c).name.span := by
  have header : Line.kind c.head = .sectionHeader := Block.kind_of_mem_cut h
  obtain ⟨start, stop⟩ := Block.stop_le_of_mem_cut h
  exact ⟨start, stop, nested_ofBlock (Block.stands_of_mem_cut stands h) header⟩

/-- The regions of a content lie in any region that starts above its lines and goes on to their
end. -/
theorem Content.nested_addLines {ls xs : List String} {a n : Nat} {outer : Span}
    (stands : Stands ls n xs) (covers : outer.Covers ls a (n + xs.length)) (below : a < n) :
    (Content.empty.addLines n xs).Nested outer := by
  have length := congrArg List.length (runs_append xs)
  rw [← runs_append xs] at stands
  have standsSections := stands.right.left
  have standsBody := stands.right.right
  have headersOf := (HeadersOf.empty ls n).addAll (Nat.le_refl n) stands.left
  simp only [List.length_append] at length
  rw [addLines_empty]
  -- From here on only the lengths of the three runs count.
  generalize xs.takeWhile isTop = top at *
  generalize sectionLines xs = sec at *
  generalize bodyLines xs = body at *
  have inside {m k : Nat} {s : Span} (hs : s.Covers ls m k) (first : n ≤ m)
      (last : k ≤ n + xs.length) : outer.Holds s :=
    covers.holds hs (covers.start_le hs (by omega)) last
  constructor
  · intro h hh
    obtain ⟨m, k, first, last, here⟩ := headersOf.covers hh
    exact inside here first (by omega)
  · intro s hs
    obtain ⟨c, hc, rfl⟩ := List.mem_map.mp hs
    obtain ⟨first, last, here, name⟩ := Section.covers_of_mem standsSections hc
    exact ⟨inside here (by omega) (by omega), name⟩
  · intro b hb
    have here := Body.covers_ofLines standsBody hb
    refine ⟨inside here (by omega) (by omega), ?_⟩
    have := here.stop_line
    have := here.start
    have := here.lt
    rw [Body.length_lines_ofLines]
    omega
  · intro none
    cases body with
    | nil => rfl
    | cons l more => cases none
  · intro h hh
    obtain ⟨m, k, _, last, here⟩ := headersOf.covers hh
    constructor
    · intro s hs
      obtain ⟨c, hc, rfl⟩ := List.mem_map.mp hs
      obtain ⟨first, _, there, _⟩ := Section.covers_of_mem standsSections hc
      exact here.above there (by omega)
    · intro b hb
      exact here.above (Body.covers_ofLines standsBody hb) (by omega)
  · apply List.pairwise_map.mpr
    apply (Block.pairwise_cut _ _ sec).imp_of_mem
    intro c c' hc hc' le
    obtain ⟨_, _, here, _⟩ := Section.covers_of_mem standsSections hc
    obtain ⟨_, _, there, _⟩ := Section.covers_of_mem standsSections hc'
    exact here.above there le
  · intro b hb s hs
    obtain ⟨c, hc, rfl⟩ := List.mem_map.mp hs
    obtain ⟨_, last, here, _⟩ := Section.covers_of_mem standsSections hc
    exact here.above (Body.covers_ofLines standsBody hb) last

theorem Request.covers_ofBlock {ls : List String} {b : Block} (stands : Stands ls b.line b.lines) :
    (ofBlock b).span.Covers ls b.line b.stop :=
  Block.covers stands b.indent_le_length

theorem Request.nested_ofBlock {ls : List String} {b : Block} (stands : Stands ls b.line b.lines) :
    (ofBlock b).Nested := by
  have covers := covers_ofBlock stands
  have width := width_of_getElem? stands.head
  have word := indent_add_length_firstWord_le b.head.toList
  rw [String.length_toList] at word
  constructor
  · apply covers.holds_onLine
    · exact Nat.le_refl _
    · rw [width]
      exact b.indent_le_length
    · rw [width]
      exact word
  · apply covers.holds_onLine
    · apply Nat.le_min.mpr
      exact ⟨by simp only [ofBlock, Block.span, Span.close, Span.onLine]; omega, b.indent_le_length⟩
    · rw [width]
      exact Nat.min_le_right _ _
    · rw [width]
  · exact Content.nested_addLines stands.tail covers (Nat.lt_succ_self _)

theorem Response.nested_ofBlock {ls : List String} {b : Block} {p : Response}
    (stands : Stands ls b.line b.lines) (made : ofBlock b = .ok p) :
    p.span.Covers ls b.line b.stop ∧ p.content.Nested p.span := by
  obtain ⟨span, content⟩ := ofBlock_eq_ok made
  have covers := Block.covers stands b.indent_le_length
  rw [← span] at covers
  refine ⟨covers, ?_⟩
  rw [content]
  exact Content.nested_addLines stands.tail covers (Nat.lt_succ_self _)

/-- An entry covers its block, and its parts are nested in it. -/
theorem Entry.nested_ofBlock {ls : List String} {b : Block} {e : Entry}
    (stands : Stands ls b.line b.lines) (made : ofBlock b = .ok e) :
    e.span.Covers ls b.line b.stop ∧ e.Nested := by
  have standsRequest := Block.stands_upToStatus stands
  have covers := Request.covers_ofBlock standsRequest
  have nested := Request.nested_ofBlock standsRequest
  have own : b.upToStatus.line = b.line := rfl
  obtain ⟨request, ⟨absent, response, span⟩ | ⟨r, p, found, responseMade, response, span⟩⟩ :=
    ofBlock_eq_ok made
  · rw [← request, own] at covers
    rw [← request] at nested
    rw [Block.upToStatus_of_none absent] at covers
    have whole : e.span.Covers ls b.line b.stop := span ▸ covers
    have first : e.span.start ≤ e.request.span.start := span ▸ Point.le_refl _
    refine ⟨whole, ⟨whole.holds covers first (Nat.le_refl _), nested⟩, ?_, ?_⟩
    · intro p hp
      rw [response] at hp
      cases hp
    · intro p hp
      rw [response] at hp
      cases hp
  · obtain ⟨behind, stop, _⟩ := Block.fromStatus?_spec found
    obtain ⟨there, content⟩ := Response.nested_ofBlock (Block.stands_fromStatus? stands found)
      responseMade
    rw [← request, own, ← behind] at covers
    rw [← request] at nested
    rw [stop] at there
    have whole : e.span.Covers ls b.line b.stop := span ▸ covers.join there
    have first : e.span.start ≤ e.request.span.start := by
      rw [span, covers.join_eq there]
      exact Point.le_refl _
    refine ⟨whole, ⟨whole.holds covers first there.lt.le, nested⟩, ?_, ?_⟩
    · intro p' hp
      rw [response] at hp
      cases hp
      exact ⟨whole.holds there (whole.start_le there covers.lt) (Nat.le_refl _), content⟩
    · intro p' hp
      rw [response] at hp
      cases hp
      exact covers.above there (Nat.le_refl _)

namespace Document

/-- The region of a file with lines covers all of them. -/
theorem covers_spanOf {ls : List String} (h : 0 < ls.length) :
    (spanOf ls).Covers ls 0 ls.length := by
  have last := List.getLast?_eq_some_getLast (List.ne_nil_of_length_pos h)
  have here := last
  rw [List.getLast?_eq_getElem?] at here
  rw [spanOf, last]
  refine ⟨h, rfl, Nat.zero_le _, ?_⟩
  rw [width_of_getElem? here]

/-- The entries of a file that is read cover its blocks. -/
theorem exists_covered_block {ls : List String} {d : Document} (h : ofLines ls = .ok d) {i : Nat}
    {e : Entry} (he : d.entries[i]? = some e) :
    ∃ b, (Block.entries 0 ls)[i]? = some b ∧ b.stop ≤ ls.length ∧
      e.span.Covers ls b.line b.stop ∧ e.Nested := by
  obtain ⟨b, hi, made, _⟩ := exists_block h he
  have hb := List.mem_of_getElem? hi
  have stop := (Block.stop_le_of_mem_cut hb).2
  rw [Nat.zero_add] at stop
  exact ⟨b, hi, stop, Entry.nested_ofBlock (Block.stands_of_mem_cut (Stands.all ls) hb) made⟩

/-- In a file that is read, no region stops before it starts, and the regions are nested: the file
holds its entries, an entry its request and its response, these their words, headers, sections and
body, and a section its name. Entries, the request and the response of an entry, headers, sections
and body follow one another without a line in common, and a body has as many lines as its region. -/
theorem regions_nested {ls : List String} {d : Document} (h : ofLines ls = .ok d) : d.Nested := by
  have span := span_of_ofLines h
  constructor
  · rw [span]
    cases ls with
    | nil => exact Point.le_refl _
    | cons l ls => exact (covers_spanOf (List.length_pos_of_mem List.mem_cons_self)).ordered
  · intro e he
    obtain ⟨i, hi⟩ := List.mem_iff_getElem?.mp he
    obtain ⟨b, _, stop, covers, nested⟩ := exists_covered_block h hi
    have first : (spanOf ls).start ≤ e.span.start := by
      rw [start_spanOf, Point.le_iff]
      rcases Nat.eq_zero_or_pos e.span.start.line with zero | pos
      · exact .inr ⟨zero.symm, Nat.zero_le _⟩
      · exact .inl pos
    rw [span]
    have lt := covers.lt
    exact ⟨(covers_spanOf (by omega)).holds covers first stop, nested⟩
  · apply List.pairwise_iff_getElem.mpr
    intro i j hi hj lt
    obtain ⟨b, here, _, covers, _⟩ := exists_covered_block h (List.getElem?_eq_getElem hi)
    obtain ⟨c, there, _, covers', _⟩ := exists_covered_block h (List.getElem?_eq_getElem hj)
    exact covers.above covers' (Block.stop_le_line lt here there)

/-- Indented lines, a header line, sections and a body behind them, blank lines at the ends. -/
theorem regions_nested_indented : ∃ d,
    ofLines ["  GET /a", "x: 1", "", " [Query]", "q: 1", "   ", "  HTTP/1.1 200", "y: 2",
      "[Asserts]", "status == 200", "HTTP/1.1 500", "", "\tPOST"] = .ok d ∧ d.Nested := by
  have read : (ofLines ["  GET /a", "x: 1", "", " [Query]", "q: 1", "   ", "  HTTP/1.1 200",
      "y: 2", "[Asserts]", "status == 200", "HTTP/1.1 500", "", "\tPOST"]).isOk = true := by
    decide +kernel
  obtain ⟨d, h⟩ := exists_of_isOk read
  exact ⟨d, h, regions_nested h⟩

end Document

end HurlAssist
