import HurlAssist.Proofs.Document.Captures

/-!
The scope of captured variables, entry by entry and line by line.
-/

namespace HurlAssist.Document

variable {ls : List String} {d : Document}

/-- On the lines of a request it is decided by the entries above what is known. -/
theorem variablesAt_request (h : ofLines ls = .ok d) {before after : List Entry} {e : Entry}
    (split : d.entries = before ++ e :: after) {line : Nat}
    (start : e.request.method.span.start.line ≤ line) (stop : line ≤ e.request.span.stop.line) :
    d.variablesAt line = (before.flatMap Entry.captured).eraseDups := by
  obtain ⟨nested, inOrder⟩ := entries_inOrder h
  rw [split] at nested inOrder
  obtain ⟨_, behind, front⟩ := List.pairwise_append.mp inOrder
  have request := (nested e (by simp)).request_lines
  have parts : d.responseSections = before.flatMap Entry.responseSections ++
      (e :: after).flatMap Entry.responseSections := by
    rw [responseSections_eq, split, List.flatMap_append]
  rw [Entry.flatMap_captured]
  apply variablesAt_of_append parts
  · intro s hs
    obtain ⟨f, hf, hs⟩ := List.mem_flatMap.mp hs
    have := (nested f (by simp [hf])).section_lines hs
    have := front f hf e List.mem_cons_self
    omega
  · intro s hs
    obtain ⟨f, hf, hs⟩ := List.mem_flatMap.mp hs
    have below := (nested f (List.mem_append_right before hf)).section_lines hs
    -- The sections of the entry itself end below its request, all others below the entry.
    rcases List.mem_cons.mp hf with rfl | later
    · omega
    · have := (List.pairwise_cons.mp behind).1 f later
      have := (nested f (List.mem_append_right before hf)).request_lines
      omega

/-- On the lines of a response section it is decided by the sections above what is known. -/
theorem variablesAt_section (h : ofLines ls = .ok d) {front back : List Section} {s : Section}
    (parts : d.responseSections = front ++ s :: back) {line : Nat}
    (spans : s.span.spansLine line = true) :
    d.variablesAt line = (Section.captured front).eraseDups := by
  obtain ⟨ordered, inOrder⟩ := sections_inOrder h
  rw [parts] at ordered inOrder
  obtain ⟨_, later, earlier⟩ := List.pairwise_append.mp inOrder
  simp only [Span.spansLine, Bool.and_eq_true, decide_eq_true_eq] at spans
  apply variablesAt_of_append parts
  · intro t ht
    have := earlier t ht s List.mem_cons_self
    omega
  · intro t ht
    have := ordered t (List.mem_append_right front ht)
    rcases List.mem_cons.mp ht with rfl | ht
    · exact spans.2
    · have := (List.pairwise_cons.mp later).1 t ht
      omega

/-- On the lines of a request the names that the responses above capture are known, each once, in
the order in which they first come, and no others. Below a `[Captures]` section its keys are
known; on its own lines it brings none, and what is known there are the names captured above. -/
theorem variables_scoped (h : ofLines ls = .ok d) {before after : List Entry} {e : Entry}
    (split : d.entries = before ++ e :: after) :
    (∀ line, e.request.method.span.start.line ≤ line → line ≤ e.request.span.stop.line →
      d.variablesAt line = (before.flatMap Entry.captured).eraseDups ∧
      ∀ name ∉ before.flatMap Entry.captured, name ∉ d.variablesAt line) ∧
    ∀ (above below : List Section) (s : Section), e.responseSections = above ++ s :: below →
      s.isCaptures = true →
      (∀ line, s.span.stop.line < line → ∀ key ∈ s.keyValues.keys, key ∈ d.variablesAt line) ∧
      ∀ line, s.span.spansLine line = true → d.variablesAt line =
        (before.flatMap Entry.captured ++ Section.captured above).eraseDups := by
  constructor
  · intro line start stop
    have known := variablesAt_request h split start stop
    refine ⟨known, ?_⟩
    intro name new
    rw [known, List.mem_eraseDups]
    exact new
  · intro above below s sections isCaptures
    have parts : d.responseSections = (before.flatMap Entry.responseSections ++ above) ++
        s :: (below ++ after.flatMap Entry.responseSections) := by
      simp [responseSections_eq, split, sections]
    constructor
    · intro line behind key hkey
      exact mem_variablesAt.mpr ⟨s, by simp [parts], isCaptures, behind, hkey⟩
    · intro line spans
      rw [variablesAt_section h parts spans, Section.captured_append, Entry.flatMap_captured]

/-- Two responses that capture the same name, a request section called as theirs are, and a section
behind the captures. -/
theorem variables_scoped_two : ∃ d a e s below,
    ofLines ["GET /a", "[Captures]", "x: 1", "HTTP/1.1 200", "[Captures]", "id: 1", "", "GET /b",
      "", "HTTP/1.1 200", "[Captures]", "key: 1", "id: 2", "[Asserts]", "status == 200"] = .ok d ∧
    d.entries = [a, e] ∧ e.responseSections = s :: below ∧
    d.variablesAt 8 = ([a].flatMap Entry.captured).eraseDups ∧
    (∀ key ∈ s.keyValues.keys, key ∈ d.variablesAt 14) ∧
    d.variablesAt 12 = ([a].flatMap Entry.captured ++ Section.captured []).eraseDups := by
  have read : (ofLines ["GET /a", "[Captures]", "x: 1", "HTTP/1.1 200", "[Captures]", "id: 1", "",
      "GET /b", "", "HTTP/1.1 200", "[Captures]", "key: 1", "id: 2", "[Asserts]",
      "status == 200"]).toOption.any (fun d =>
        d.entries.map (fun e => (e.request.method.span.start.line, e.request.span.stop.line)) ==
          [(0, 2), (7, 8)] &&
        d.entries.map (fun e => e.responseSections.map fun s =>
          (s.isCaptures, s.span.start.line, s.span.stop.line)) ==
          [[(true, 4, 6)], [(true, 10, 12), (false, 13, 14)]]) = true := by
    decide +kernel
  obtain ⟨d, h, shape⟩ := exists_of_any read
  obtain ⟨requests, sections⟩ := Bool.and_eq_true_iff.mp shape
  obtain ⟨a, _, split, -, rest⟩ := List.map_eq_cons_iff.mp (eq_of_beq requests)
  obtain ⟨e, _, rfl, lines, none⟩ := List.map_eq_cons_iff.mp rest
  obtain rfl := List.map_eq_nil_iff.mp none
  replace sections := eq_of_beq sections
  simp only [split, List.map_cons, List.map_nil, List.cons.injEq, and_true] at sections
  obtain ⟨s, below, sections, own, -⟩ := List.map_eq_cons_iff.mp sections.2
  simp only [Prod.mk.injEq] at lines own
  obtain ⟨known, captures⟩ := @variables_scoped _ d h [a] [] e split
  obtain ⟨behind, inside⟩ := captures [] below s sections own.1
  refine ⟨d, a, e, s, below, h, split, sections, (known 8 (by omega) (by omega)).1,
    behind 14 (by omega), inside 12 ?_⟩
  rw [Span.spansLine, own.2.1, own.2.2]
  rfl

/-- Captured names only ever grow down a file. The captures end on lines that ascend, so those
known on a line are the first of them; what is known on a line is known below it, in the same
order and in front of all else. Each name is known once, and known are the keys of the response
sections `[Captures]` that end above the line. -/
theorem variables_grow (h : ofLines ls = .ok d) :
    (d.captures.map Capture.useAfter).Pairwise (· < ·) ∧
    (∀ line, Capture.before line d.captures <+: d.captures) ∧
    (∀ line line', line ≤ line' → d.variablesAt line <+: d.variablesAt line') ∧
    (∀ line, (d.variablesAt line).Nodup) ∧
    ∀ line name, name ∈ d.variablesAt line ↔ ∃ s ∈ d.responseSections,
      s.isCaptures = true ∧ s.span.stop.line < line ∧ name ∈ s.keyValues.keys := by
  obtain ⟨ordered, inOrder⟩ := sections_inOrder h
  have ascending : d.captures.Pairwise fun c c' => c.useAfter < c'.useAfter := by
    apply List.pairwise_map.mpr
    apply List.Pairwise.filter
    apply inOrder.imp_of_mem
    intro s t _ ht lt
    exact lt.trans_le (ordered t ht)
  refine ⟨List.pairwise_map.mpr ascending, ?_, ?_, ?_, ?_⟩
  · intro line
    exact Capture.before_prefix ascending line
  · intro line line' le
    exact Capture.names_prefix (Capture.before_prefix_before ascending le)
  · intro line
    rw [variablesAt_eq]
    exact nodup_eraseDups _
  · intro line name
    exact mem_variablesAt

/-- A name that is captured again stays where it first came. -/
theorem variables_grow_same_name : ∃ d,
    ofLines ["GET /a", "HTTP/1.1 200", "[Captures]", "id: 1", "GET /b", "HTTP/1.1 200",
      "[Captures]", "key: 1", "id: 2", "[Captures]", "key: 3"] = .ok d ∧
    (d.captures.map Capture.useAfter).Pairwise (· < ·) ∧
    d.variablesAt 4 <+: d.variablesAt 11 ∧ (d.variablesAt 11).Nodup := by
  have read : (ofLines ["GET /a", "HTTP/1.1 200", "[Captures]", "id: 1", "GET /b", "HTTP/1.1 200",
      "[Captures]", "key: 1", "id: 2", "[Captures]", "key: 3"]).isOk = true := by decide +kernel
  obtain ⟨d, h⟩ := exists_of_isOk read
  obtain ⟨ascending, _, grow, nodup, _⟩ := variables_grow h
  exact ⟨d, h, ascending, grow 4 11 (by decide), nodup 11⟩

end HurlAssist.Document
