import HurlAssist.Proofs.Document.Failure
import HurlAssist.Proofs.Document.RequestLayout
import HurlAssist.Proofs.Document.RequestPlaces
import HurlAssist.Proofs.Document.ResponseLayout

/-!
Where the name of a response section is written, said by the lines of the file alone: at the start
of the line below the answer to a method line, or on the name in a header of such a section
(`Document.section_names_found`). A header stands under the answer, the first line between them that
is neither a header line nor blank is such a header as well, and no other status line stands
between.
-/

namespace HurlAssist

open LineRange Text

/-- The line is a section header, and the content of the lines from `a` on has a section there. -/
structure HeadsSection (ls : List String) (a line : Nat) : Prop where
  header : kindAt? ls line = some .sectionHeader
  top : ∃ k ≤ line, a ≤ k ∧ kindAt? ls k = some .sectionHeader ∧
    ∀ i, a ≤ i → i < k → kindAt? ls i = some .keyValue ∨ kindAt? ls i = some .blank
  plain : ∀ i, a ≤ i → i ≤ line → kindAt? ls i ≠ some .method ∧ kindAt? ls i ≠ some .status

/-- The line is the header of a section behind the answer to a method line. -/
def HeadsResponseSection (ls : List String) (line : Nat) : Prop :=
  ∃ m s, Answers ls m s ∧ HeadsSection ls (s + 1) line

theorem HeadsSection.lt {ls : List String} {s line : Nat} (h : HeadsSection ls (s + 1) line) :
    s < line := by
  obtain ⟨k, le, start, _⟩ := h.top
  omega

/-- The first section header is where header lines and blanks end if only such stand above it. -/
theorem LineRange.topEnd?_eq_some_of_header {ls : List String} {a b k : Nat}
    (header : kindAt? ls k = some .sectionHeader) : topEnd? ls a b = some k ↔
      a ≤ k ∧ k < b ∧
        ∀ i, a ≤ i → i < k → kindAt? ls i = some .keyValue ∨ kindAt? ls i = some .blank := by
  constructor
  · intro top
    obtain ⟨start, stop, _⟩ := of_first? top
    refine ⟨start, stop, ?_⟩
    intro i start' above
    obtain ⟨_, here, _⟩ := Option.map_eq_some_iff.mp header
    have inFile := Nat.lt_trans above (List.getElem?_eq_some_iff.mp here).1
    have kind : kindAt? ls i = some (Line.kind ls[i]) := by
      rw [kindAt?, List.getElem?_eq_getElem inFile]
      rfl
    have isTop := not_of_lt_first? top start' above kind
    simp only [Bool.not_eq_false', Bool.or_eq_true, beq_iff_eq] at isTop
    rw [kind]
    exact isTop.imp (congrArg some) (congrArg some)
  · rintro ⟨start, stop, above⟩
    refine first?_eq_some.mpr ⟨mem_numbers.mpr ⟨start, stop, _, header, rfl⟩, ?_⟩
    intro i hi
    obtain ⟨start', _, kind, here, notTop⟩ := mem_numbers.mp hi
    apply Nat.le_of_not_lt
    intro before
    rcases above i start' before with keyValue | blank
    · rw [here] at keyValue
      cases keyValue
      cases notTop
    · rw [here] at blank
      cases blank
      cases notTop

/-- A section header that heads a section stands at or below the first one. -/
theorem HeadsSection.exists_topEnd? {ls : List String} {a b line : Nat}
    (h : HeadsSection ls a line) (lt : line < b) :
    ∃ k ≤ line, topEnd? ls a b = some k ∧ kindAt? ls k = some .sectionHeader := by
  obtain ⟨k, le, start, header, above⟩ := h.top
  exact ⟨k, le, (topEnd?_eq_some_of_header header).mpr ⟨start, by omega, above⟩, header⟩

/-- A section starts on each of the section headers. -/
theorem SectionsOf.exists_iff {ls : List String} {a b : Nat} {ss : List Section}
    (of : SectionsOf ls a b ss) {line : Nat} : (∃ t ∈ ss, t.span.start.line = line) ↔
      a ≤ line ∧ line < b ∧ kindAt? ls line = some .sectionHeader := by
  rw [← List.mem_map, of.starts, mem_numbers]
  constructor
  · rintro ⟨start, stop, _, kind, header⟩
    rw [eq_of_beq header] at kind
    exact ⟨start, stop, kind⟩
  · rintro ⟨start, stop, kind⟩
    exact ⟨start, stop, _, kind, rfl⟩

section

variable {ls : List String} {a b : Nat}

/-- Sections from the first header `k` up to before `e`, where a status line or the end of the lines
stands, are the ones that the headers head. -/
theorem SectionsOf.heads_iff {k e : Nat} {ss : List Section} (top : topEnd? ls a b = some k)
    (header : kindAt? ls k = some .sectionHeader) (of : SectionsOf ls k e ss)
    (inside : ∀ i, a ≤ i → i < b → kindAt? ls i ≠ some .method) (le : e ≤ b)
    (before : ∀ i, k ≤ i → i < e → kindAt? ls i ≠ some .status)
    (stop : e = b ∨ k ≤ e ∧ kindAt? ls e = some .status) {line : Nat} :
    (∃ t ∈ ss, t.span.start.line = line) ↔ line < b ∧ HeadsSection ls a line := by
  obtain ⟨start, _, above⟩ := (topEnd?_eq_some_of_header header).mp top
  rw [of.exists_iff]
  constructor
  · rintro ⟨behind, lt, here⟩
    refine ⟨by omega, here, ⟨k, behind, start, header, above⟩, ?_⟩
    intro i hi below
    refine ⟨inside i hi (by omega), ?_⟩
    rcases Nat.lt_or_ge i k with top | section'
    · rcases above i hi top with kind | kind
      · simp [kind]
      · simp [kind]
    · exact before i section' (by omega)
  · rintro ⟨lt, heads⟩
    obtain ⟨k', behind, first, _⟩ := heads.exists_topEnd? lt
    obtain rfl := Option.some.inj (top.symm.trans first)
    refine ⟨behind, ?_, heads.header⟩
    rcases stop with rfl | ⟨section', status⟩
    · exact lt
    · apply Nat.lt_of_not_le
      intro beyond
      exact (heads.plain e (Nat.le_trans start section') beyond).2 status

/-- The sections of a content start on the lines that head them. -/
theorem ContentOf.heads_iff {c : Content} (of : ContentOf ls a b c)
    (inside : ∀ i, a ≤ i → i < b → kindAt? ls i ≠ some .method) {line : Nat} :
    (∃ t ∈ c.sections, t.span.start.line = line) ↔ line < b ∧ HeadsSection ls a line := by
  cases of with
  | bare top _ =>
    constructor
    · rintro ⟨_, none, _⟩
      cases none
    · rintro ⟨lt, heads⟩
      obtain ⟨k, _, first, _⟩ := heads.exists_topEnd? lt
      rw [top] at first
      cases first
  | body top kind _ _ =>
    constructor
    · rintro ⟨_, none, _⟩
      cases none
    · rintro ⟨lt, heads⟩
      obtain ⟨k, _, first, header⟩ := heads.exists_topEnd? lt
      obtain rfl := Option.some.inj (top.symm.trans first)
      exact absurd header kind
  | sections top header _ plain sections =>
    apply sections.heads_iff top header inside (Nat.le_refl b) _ (.inl rfl)
    intro i start stop status
    cases not_of_first?_eq_none plain start stop status
  | sectionsBody top header _ behind sections _ =>
    obtain ⟨start, stop, _, here, status⟩ := of_first? behind
    rw [eq_of_beq status] at here
    apply sections.heads_iff top header inside (Nat.le_of_lt stop) _ (.inr ⟨start, here⟩)
    intro i start' before status'
    cases not_of_lt_first? behind start' before status'

/-- What stands in a content starts among its lines. -/
theorem ContentOf.start_le {c : Content} (of : ContentOf ls a b c) :
    (∀ t ∈ c.sections, a ≤ t.span.start.line) ∧
      ∀ region, c.body.span = some region → a ≤ region.start.line := by
  have behind {k e : Nat} {ss : List Section} (top : topEnd? ls a b = some k)
      (sections : SectionsOf ls k e ss) : ∀ t ∈ ss, a ≤ t.span.start.line := by
    intro t ht
    exact Nat.le_trans (of_first? top).1 (sections.exists_iff.mp ⟨t, ht, rfl⟩).1
  cases of with
  | bare _ _ =>
    constructor
    · intro t ht
      cases ht
    · intro region found
      cases found
  | body top _ _ lines =>
    constructor
    · intro t ht
      cases ht
    · intro region found
      obtain rfl := Option.some.inj (lines.span.symm.trans found)
      exact (of_first? top).1
  | sections top _ _ _ sections =>
    refine ⟨behind top sections, ?_⟩
    intro region found
    cases found
  | sectionsBody top _ _ status sections lines =>
    refine ⟨behind top sections, ?_⟩
    intro region found
    obtain rfl := Option.some.inj (lines.span.symm.trans found)
    exact Nat.le_trans (of_first? top).1 (of_first? status).1

end

/-- The section starts on the line, and its name stands between the brackets of the line's text. -/
structure Section.WrittenOn (line : Nat) (text : String) (s : Section) : Prop where
  start : s.span.start.line = line
  name : ∃ name, Line.sectionName? text = some name ∧ s.name = ⟨name, .onLine line
    (indent text.toList + 1) (indent text.toList + 1 + name.length)⟩

theorem Section.writtenOn_ofBlock {b : Block} (header : Line.kind b.head = .sectionHeader) :
    (ofBlock b).WrittenOn b.line b.head := by
  obtain ⟨name, found⟩ := Option.isSome_iff_exists.mp (Line.isSome_sectionName? header)
  refine ⟨rfl, name, found, ?_⟩
  simp only [ofBlock, found, Option.getD_some]

/-- Two answers without a method line between them are one. -/
theorem Answers.eq_of_no_method {ls : List String} {m n s t : Nat} (hs : Answers ls m s)
    (ht : Answers ls n t) (le : s ≤ t)
    (clear : ∀ i, s < i → i < t → kindAt? ls i ≠ some .method) : s = t := by
  have notMethod {i : Nat} (status : kindAt? ls i = some .status) :
      kindAt? ls i ≠ some .method := by
    rw [status]
    simp
  rcases Nat.lt_or_eq_of_le le with lt | same
  · -- the later answer belongs to a method line above the earlier one
    have above : n < s := by
      have behind := ht.behind
      apply Nat.lt_of_not_le
      intro beyond
      rcases Nat.lt_or_eq_of_le beyond with below | rfl
      · exact clear n below behind ht.method
      · exact notMethod hs.status ht.method
    exact absurd hs.status (ht.first s above lt).2
  · exact same

namespace Document

variable {ls : List String} {d : Document}

section

variable (h : ofLines ls = .ok d)

include h

/-- The responses of a file are made by the second parts of its blocks. -/
theorem exists_block_of_response {p : Response} (hp : p ∈ d.responses) :
    ∃ b ∈ Block.entries 0 ls, ∃ r, b.fromStatus? = some r ∧ Response.ofBlock r = .ok p := by
  obtain ⟨e, he, response⟩ := mem_responses.mp hp
  obtain ⟨b, hb, made⟩ := exists_block_of_entry h he
  exact ⟨b, hb, Entry.exists_responseBlock made response⟩

/-- A response starts on an answer. It is laid out over the lines from there on up to before the
next method line, or the end of the file. -/
theorem exists_answers {p : Response} (hp : p ∈ d.responses) : ∃ m stop,
    Answers ls m p.span.start.line ∧ p.LaidOut ls p.span.start.line stop ∧
      p.span.start.line < stop ∧ (stop = ls.length ∨ kindAt? ls stop = some .method) := by
  obtain ⟨b, hb, r, found, made⟩ := exists_block_of_response h hp
  have laid := Response.laidOut_of_ofBlock hb found made
  have answers := (answers_of_fromStatus? hb found).1
  rw [laid.start]
  exact ⟨b.line, b.stop, answers, laid, answers.lt_stop hb, Block.stop_of_mem_entries hb⟩

/-- A response starts on each answer. -/
theorem exists_response_iff {s : Nat} :
    (∃ p ∈ d.responses, p.span.start.line = s) ↔ ∃ m, Answers ls m s := by
  constructor
  · rintro ⟨p, hp, rfl⟩
    obtain ⟨m, _, answers, _⟩ := exists_answers h hp
    exact ⟨m, answers⟩
  · rintro ⟨m, answers⟩
    obtain ⟨b, hb, _, r, found, rfl⟩ := answers_iff.mp answers
    obtain ⟨e, he, made⟩ := exists_entry_of_block h hb
    have start := (Entry.laidOut_of_ofBlock hb made).response
    rw [← Block.map_line_fromStatus? (Block.stands_of_mem_cut (Stands.all ls) hb), found] at start
    obtain ⟨p, response, here⟩ := Option.map_eq_some_iff.mp start
    exact ⟨p, mem_responses.mpr ⟨e, he, response⟩, here⟩

/-- A section of a response starts on each line that heads one. -/
theorem exists_responseSection_iff {line : Nat} :
    (∃ t ∈ d.responseSections, t.span.start.line = line) ↔ HeadsResponseSection ls line := by
  have heads {p : Response} {s stop : Nat} (laid : p.LaidOut ls s stop) :
      (∃ t ∈ p.content.sections, t.span.start.line = line) ↔
        line < stop ∧ HeadsSection ls (s + 1) line :=
    laid.content.heads_iff laid.inside
  constructor
  · rintro ⟨t, ht, here⟩
    obtain ⟨p, hp, ht⟩ := mem_responseSections.mp ht
    obtain ⟨m, stop, answers, laid, _⟩ := exists_answers h hp
    exact ⟨m, _, answers, ((heads laid).mp ⟨t, ht, here⟩).2⟩
  · rintro ⟨m, s, answers, head⟩
    obtain ⟨p, hp, rfl⟩ := (exists_response_iff h).mpr ⟨m, answers⟩
    obtain ⟨_, stop, _, laid, positive, last⟩ := exists_answers h hp
    have lt : line < stop := by
      rcases last with rfl | method
      · obtain ⟨_, here, _⟩ := Option.map_eq_some_iff.mp head.header
        exact (List.getElem?_eq_some_iff.mp here).1
      · apply Nat.lt_of_not_le
        intro beyond
        exact (head.plain stop positive beyond).1 method
    obtain ⟨t, ht, here⟩ := (heads laid).mpr ⟨lt, head⟩
    exact ⟨t, mem_responseSections.mpr ⟨p, hp, ht⟩, here⟩

/-- The section of a response is written on the header line that it starts on. -/
theorem exists_headerLine {t : Section} (ht : t ∈ d.responseSections) :
    ∃ text, ls[t.span.start.line]? = some text ∧ t.WrittenOn t.span.start.line text := by
  obtain ⟨p, hp, ht⟩ := mem_responseSections.mp ht
  obtain ⟨b, hb, r, found, made⟩ := exists_block_of_response h hp
  have stands := Block.stands_fromStatus? (Block.stands_of_mem_cut (Stands.all ls) hb) found
  rw [(Response.ofBlock_eq_ok made).2] at ht
  obtain ⟨c, rfl, here, header, _⟩ := Content.exists_block stands.tail ht
  exact ⟨c.head, here.head, Section.writtenOn_ofBlock header⟩

/-- The start of the line below the one that a response starts on. -/
theorem any_below_start_iff (p : Point) :
    (d.responses.any fun r => p.line == r.span.start.line + 1 && p.col ≤ 1) = true ↔
      1 ≤ p.line ∧ p.col ≤ 1 ∧ ∃ m, Answers ls m (p.line - 1) := by
  simp only [List.any_eq_true, Bool.and_eq_true, beq_iff_eq, decide_eq_true_eq]
  rw [← exists_response_iff h]
  constructor
  · rintro ⟨r, hr, line, col⟩
    exact ⟨by omega, col, r, hr, by omega⟩
  · rintro ⟨positive, col, r, hr, start⟩
    exact ⟨r, hr, by omega, col⟩

/-- The name of a response section, with the column behind it. -/
theorem any_name_contains_iff (p : Point) :
    (d.responseSections.any fun t => t.name.span.contains p) = true ↔
      ∃ text name, ls[p.line]? = some text ∧ Line.sectionName? text = some name ∧
        HeadsResponseSection ls p.line ∧ indent text.toList + 1 ≤ p.col ∧
        p.col ≤ indent text.toList + 1 + name.length := by
  rw [List.any_eq_true, ← exists_responseSection_iff h]
  constructor
  · rintro ⟨t, ht, inside⟩
    obtain ⟨text, here, written⟩ := exists_headerLine h ht
    obtain ⟨name, read, region⟩ := written.name
    rw [region, Span.contains_onLine (Nat.le_add_right _ _)] at inside
    obtain ⟨line, columns⟩ := inside
    rw [line]
    exact ⟨text, name, here, read, ⟨t, ht, rfl⟩, columns⟩
  · rintro ⟨text, name, here, read, ⟨t, ht, line⟩, columns⟩
    obtain ⟨text', here', written⟩ := exists_headerLine h ht
    obtain ⟨name', read', region⟩ := written.name
    rw [line, here] at here'
    obtain rfl := Option.some.inj here'
    obtain rfl := Option.some.inj (read.symm.trans read')
    refine ⟨t, ht, ?_⟩
    rw [region, Span.contains_onLine (Nat.le_add_right _ _), line]
    exact ⟨rfl, columns⟩

theorem onSectionName_iff (p : Point) : d.onSectionName p = true ↔
    (1 ≤ p.line ∧ p.col ≤ 1 ∧ ∃ m, Answers ls m (p.line - 1)) ∨
    ∃ text name, ls[p.line]? = some text ∧ Line.sectionName? text = some name ∧
      HeadsResponseSection ls p.line ∧ indent text.toList + 1 ≤ p.col ∧
      p.col ≤ indent text.toList + 1 + name.length := by
  rw [← any_below_start_iff h, ← any_name_contains_iff h, onSectionName, Bool.or_eq_true]

/-- What makes a point a section name stands above it, and no method line stands between. -/
theorem exists_answers_of_onSectionName {p : Point} (on : d.onSectionName p = true) :
    ∃ m s, Answers ls m s ∧ s < p.line ∧
      ∀ i, s < i → i < p.line → kindAt? ls i ≠ some .method := by
  rcases (onSectionName_iff h p).mp on with
    ⟨positive, _, m, answers⟩ | ⟨_, _, _, _, ⟨m, s, answers, heads⟩, _⟩
  · exact ⟨m, _, answers, by omega, fun i after before => by omega⟩
  · exact ⟨m, s, answers, heads.lt, fun i after before =>
      (heads.plain i after (Nat.le_of_lt before)).1⟩

/-- No section name is found below a method line that is not answered above the point. -/
theorem not_onSectionName_of_unanswered {m : Nat} (method : kindAt? ls m = some .method) {p : Point}
    (below : m < p.line) (unanswered : ∀ i, m < i → i < p.line → kindAt? ls i ≠ some .status) :
    d.onSectionName p = false := by
  rw [Bool.eq_false_iff]
  intro on
  obtain ⟨_, s, answers, above, clear⟩ := exists_answers_of_onSectionName h on
  rcases Nat.lt_trichotomy s m with lt | rfl | gt
  · exact clear m lt below method
  · rw [answers.status] at method
    cases method
  · exact unanswered s gt above answers.status

/-- An answer behind which no method line stands up to the lines of a response is the one that the
response starts on. -/
theorem eq_start_of_answers {r : Response} (hr : r ∈ d.responses) {m s line : Nat}
    (answers : Answers ls m s) (above : s < line)
    (clear : ∀ i, s < i → i < line → kindAt? ls i ≠ some .method)
    (first : r.span.start.line < line) (last : line ≤ r.span.stop.line + 1) :
    s = r.span.start.line := by
  obtain ⟨_, stop, own, laid, _⟩ := exists_answers h hr
  have := laid.last
  rcases Nat.le_total s r.span.start.line with le | le
  · exact answers.eq_of_no_method own le fun i after before => clear i after (by omega)
  · exact (own.eq_of_no_method answers le fun i after before =>
      laid.inside i after (by omega)).symm

/-- No section name is found on the lines of a request below its method line. -/
theorem not_onSectionName_of_request {e : Entry} (he : e ∈ d.entries) {p : Point}
    (below : e.request.span.start.line < p.line) (last : p.line ≤ e.request.span.stop.line) :
    d.onSectionName p = false := by
  obtain ⟨b, hb, made⟩ := exists_block_of_entry h he
  have laid := Entry.laidOut_of_ofBlock hb made
  have stop := laid.last
  rw [← Block.stop_upToStatus (Block.stands_of_mem_cut (Stands.all ls) hb)] at stop
  rw [laid.start] at below
  have method : kindAt? ls b.line = some .method := exists_line_entries_iff.mp ⟨b, hb, rfl⟩
  apply not_onSectionName_of_unanswered h method below
  intro i after before
  exact (Block.upToStatus_plain hb after (by omega)).2

/-- The sections and the body of a request stand below its method line. -/
theorem request_content_below {e : Entry} (he : e ∈ d.entries) :
    (∀ t ∈ e.request.content.sections, e.request.span.start.line < t.span.start.line) ∧
    ∀ region, e.request.content.body.span = some region →
      e.request.span.start.line < region.start.line := by
  obtain ⟨b, hb, made⟩ := exists_block_of_entry h he
  have stands := Block.stands_of_mem_cut (Stands.all ls) hb
  rw [(Entry.ofBlock_eq_ok made).1]
  have content := ContentOf.addLines (stands.tail.takeWhile fun l => Line.kind l != .status) rfl
  exact content.start_le

/-- On the lines of a response and the one behind it, its own status line decides. -/
theorem of_onSectionName_in_response {r : Response} (hr : r ∈ d.responses) {p : Point}
    (below : r.span.start.line < p.line) (last : p.line ≤ r.span.stop.line + 1)
    (on : d.onSectionName p = true) :
    p.line = r.span.start.line + 1 ∧ p.col ≤ 1 ∨
      HeadsSection ls (r.span.start.line + 1) p.line := by
  rcases (onSectionName_iff h p).mp on with
    ⟨positive, col, m, answers⟩ | ⟨_, _, _, _, ⟨m, s, answers, heads⟩, _⟩
  · have same := eq_start_of_answers h hr answers (show p.line - 1 < p.line by omega)
      (fun i after before => by omega) below last
    exact .inl ⟨by omega, col⟩
  · have same := eq_start_of_answers h hr answers heads.lt
      (fun i after before => (heads.plain i after (Nat.le_of_lt before)).1) below last
    exact .inr (same ▸ heads)

/-- On a body of a response, a section name is found only at the start of the line below the status
line. -/
theorem onSectionName_body_iff {r : Response} (hr : r ∈ d.responses) {region : Span}
    (body : r.content.body.span = some region) {p : Point} (here : region.spansLine p.line = true) :
    d.onSectionName p = true ↔ p.line = r.span.start.line + 1 ∧ p.col ≤ 1 := by
  obtain ⟨m, stop, answers, laid, _⟩ := exists_answers h hr
  have nested := response_nested h hr
  have bounds := (nested.body region body).1.lines
  have last := laid.last
  have below := laid.content.start_le.2 region body
  rw [Span.spansLine_iff] at here
  constructor
  · intro on
    rcases of_onSectionName_in_response h hr (by omega) (by omega) on with start | heads
    · exact start
    · -- sections stand above the body
      obtain ⟨t, ht, start⟩ := (laid.content.heads_iff laid.inside).mpr ⟨by omega, heads⟩
      have above := (nested.bodyLast region body t ht).lt
      have ordered := (nested.sections t ht).1.lines
      omega
  · rintro ⟨line, col⟩
    refine (onSectionName_iff h p).mpr (.inl ⟨by omega, col, m, ?_⟩)
    rw [line]
    exact answers

/-- No section name is found below a status line of a response other than the one that it starts
on. -/
theorem not_onSectionName_below_status {r : Response} (hr : r ∈ d.responses) {q : Nat}
    (status : kindAt? ls q = some .status) (below : r.span.start.line < q)
    (last : q ≤ r.span.stop.line) {p : Point} (line : p.line = q + 1) :
    d.onSectionName p = false := by
  rw [Bool.eq_false_iff]
  intro on
  rcases of_onSectionName_in_response h hr (by omega) (by omega) on with ⟨start, _⟩ | heads
  · omega
  · exact (heads.plain q below (by omega)).2 status

end

/-- A point is on the name of a response section exactly if it is at the start of the line below the
answer to a method line, or on the name, or right behind it, in a line that heads such a section.
These lines are the ones on which the response sections of the tree start. So no point of a header
line of a request section is on such a name, nor any of a request's body. On a response's body only
the start of the line below the status line is, and on the line below a second status line of the
response nothing is. -/
theorem section_names_found (h : ofLines ls = .ok d) :
    (∀ p : Point, d.onSectionName p = true ↔
      (1 ≤ p.line ∧ p.col ≤ 1 ∧ ∃ m, Answers ls m (p.line - 1)) ∨
      ∃ text name, ls[p.line]? = some text ∧ Line.sectionName? text = some name ∧
        HeadsResponseSection ls p.line ∧ indent text.toList + 1 ≤ p.col ∧
        p.col ≤ indent text.toList + 1 + name.length) ∧
    (∀ line, (∃ t ∈ d.responseSections, t.span.start.line = line) ↔
      HeadsResponseSection ls line) ∧
    (∀ e ∈ d.entries, ∀ t ∈ e.request.content.sections, ∀ p : Point,
      p.line = t.span.start.line → d.onSectionName p = false) ∧
    (∀ e ∈ d.entries, ∀ region, e.request.content.body.span = some region → ∀ p : Point,
      region.spansLine p.line = true → d.onSectionName p = false) ∧
    (∀ r ∈ d.responses, ∀ region, r.content.body.span = some region → ∀ p : Point,
      region.spansLine p.line = true →
        (d.onSectionName p = true ↔ p.line = r.span.start.line + 1 ∧ p.col ≤ 1)) ∧
    ∀ r ∈ d.responses, ∀ q, kindAt? ls q = some .status → r.span.start.line < q →
      q ≤ r.span.stop.line → ∀ p : Point, p.line = q + 1 → d.onSectionName p = false := by
  refine ⟨onSectionName_iff h, fun line => exists_responseSection_iff h, ?_, ?_,
    fun r hr region body p => onSectionName_body_iff h hr body,
    fun r hr q status below last p => not_onSectionName_below_status h hr status below last⟩
  · intro e he t ht p line
    have nested := ((entries_inOrder h).1 e he).request.2.content
    have bounds := (nested.sections t ht).1.lines
    have below := (request_content_below h he).1 t ht
    exact not_onSectionName_of_request h he (by omega) (by omega)
  · intro e he region body p here
    have nested := ((entries_inOrder h).1 e he).request.2.content
    have bounds := (nested.body region body).1.lines
    have below := (request_content_below h he).2 region body
    rw [Span.spansLine_iff] at here
    exact not_onSectionName_of_request h he (by omega) (by omega)

/-- A section of a request, one of a response, and a header in the body behind a second status
line. -/
theorem section_names_found_second_status : ∃ d,
    ofLines ["GET /", "[Query]", "q: 1", "HTTP/1.1 200", "x: 1", "[Asserts]", "status == 200",
      "HTTP/1.1 500", "[End]"] = .ok d ∧
    d.onSectionName ⟨1, 4⟩ = false ∧ d.onSectionName ⟨4, 1⟩ = true ∧
    d.onSectionName ⟨5, 4⟩ = true ∧ d.onSectionName ⟨8, 0⟩ = false := by
  have read : (ofLines ["GET /", "[Query]", "q: 1", "HTTP/1.1 200", "x: 1", "[Asserts]",
      "status == 200", "HTTP/1.1 500", "[End]"]).toOption.any (fun d =>
        (d.entries.any fun e => e.request.content.sections.any (·.span.start.line == 1)) &&
        (d.responses.any fun r => r.span.start.line == 3 && r.span.stop.line == 8) &&
        d.responseSections.any (·.span.start.line == 5)) = true := by decide +kernel
  obtain ⟨d, h, parts⟩ := exists_of_any read
  simp only [Bool.and_eq_true, List.any_eq_true, beq_iff_eq] at parts
  obtain ⟨⟨⟨e, he, t, ht, query⟩, r, hr, start, stop⟩, asserts⟩ := parts
  obtain ⟨found, headers, request, _, _, second⟩ := section_names_found h
  refine ⟨d, h, request e he t ht ⟨1, 4⟩ query.symm, (found ⟨4, 1⟩).mpr (.inl ?_),
    (found ⟨5, 4⟩).mpr (.inr ?_), second r hr 7 (by decide +kernel) ?_ ?_ ⟨8, 0⟩ rfl⟩
  · exact ⟨by decide, by decide, (exists_response_iff h).mp ⟨r, hr, start⟩⟩
  · exact ⟨"[Asserts]", "Asserts", rfl, by decide +kernel, (headers 5).mp asserts,
      by decide +kernel⟩
  · omega
  · omega

end Document

end HurlAssist
