import HurlAssist.Proofs.Document.SectionNamePlaces

/-!
Exchange of a line for another one of its kind. Which lines make up the sections of a response goes
by the kinds of lines alone. So if a line that ends no section is exchanged, the file can be read as
before, and its response sections take up the same lines under the same names
(`LineRange.Exchanged.exists_section`).
-/

namespace HurlAssist

open LineRange

section

variable {ls : List String} {a b : Nat} {s : Section}

/-- Right behind a section stands a line that ends it, if one stands behind all of them. -/
theorem SectionsOf.ends_behind {ss : List Section} (of : SectionsOf ls a b ss)
    (behind : ∀ k, kindAt? ls b = some k → k.endsSection = true) (hs : s ∈ ss) :
    ∀ k, kindAt? ls (s.span.stop.line + 1) = some k → k.endsSection = true := by
  obtain ⟨i, hi⟩ := List.mem_iff_getElem?.mp hs
  rw [of.stops i s hi]
  cases next : (numbers (· == .sectionHeader) ls a b)[i + 1]? with
  | none => exact behind
  | some n =>
    obtain ⟨_, _, header, here, isHeader⟩ := mem_numbers.mp (List.mem_of_getElem? next)
    obtain rfl := eq_of_beq isHeader
    intro k kind
    obtain rfl := Option.some.inj (here.symm.trans kind)
    rfl

theorem ContentOf.ends_behind {c : Content} (of : ContentOf ls a b c)
    (behind : ∀ k, kindAt? ls b = some k → k.endsSection = true) (hs : s ∈ c.sections) :
    ∀ k, kindAt? ls (s.span.stop.line + 1) = some k → k.endsSection = true := by
  cases of with
  | bare => cases hs
  | body => cases hs
  | sections _ _ _ _ sections => exact sections.ends_behind behind hs
  | sectionsBody _ _ _ found sections _ =>
    obtain ⟨_, _, last, here, isStatus⟩ := of_first? found
    obtain rfl := eq_of_beq isStatus
    refine sections.ends_behind ?_ hs
    intro k kind
    obtain rfl := Option.some.inj (here.symm.trans kind)
    rfl

end

namespace Document

variable {ls : List String} {d : Document} {s : Section}

theorem exists_section_of_any {name : String} {start stop : Nat}
    (h : ((ofLines ls).toOption.any fun d => d.responseSections.any fun s =>
      s.name.text == name && s.span.start.line == start && s.span.stop.line == stop) = true) :
    ∃ d, ofLines ls = .ok d ∧ ∃ s ∈ d.responseSections, s.name.text = name ∧
      ∀ i, start < i → i ≤ stop → s.Has i := by
  obtain ⟨d, read, found⟩ := exists_of_any h
  simp only [List.any_eq_true, Bool.and_eq_true, beq_iff_eq] at found
  obtain ⟨s, hs, ⟨called, first⟩, last⟩ := found
  exact ⟨d, read, s, hs, called, fun i after before => ⟨first ▸ after, last ▸ before⟩⟩

/-- A response section goes on to a line that ends sections, or to the end of the file. -/
theorem section_ends (h : ofLines ls = .ok d) (hs : s ∈ d.responseSections) :
    ∀ k, kindAt? ls (s.span.stop.line + 1) = some k → k.endsSection = true := by
  obtain ⟨p, hp, hs⟩ := mem_responseSections.mp hs
  obtain ⟨_, stop, _, laid, _, last⟩ := exists_answers h hp
  refine laid.content.ends_behind ?_ hs
  intro k kind
  rcases last with rfl | method
  · obtain ⟨_, here, _⟩ := Option.map_eq_some_iff.mp kind
    exact absurd (List.getElem?_eq_some_iff.mp here).1 (Nat.lt_irrefl _)
  · obtain rfl := Option.some.inj (method.symm.trans kind)
    rfl

/-- The lines of a response section are all lines below its header down to the first that ends it.
-/
theorem has_iff (h : ofLines ls = .ok d) (hs : s ∈ d.responseSections) {line : Nat} :
    s.Has line ↔ s.span.start.line < line ∧ ∀ i, s.span.start.line < i → i ≤ line →
      ∃ k, kindAt? ls i = some k ∧ k.endsSection = false := by
  constructor
  · rintro ⟨below, le⟩
    exact ⟨below, fun i after before =>
      (section_laidOut h hs).plain i ⟨after, Nat.le_trans before le⟩⟩
  · rintro ⟨below, plain⟩
    refine ⟨below, Nat.le_of_not_lt fun beyond => ?_⟩
    have ordered := (sections_inOrder h).1 s hs
    obtain ⟨k, kind, goes⟩ := plain (s.span.stop.line + 1) (by omega) beyond
    rw [section_ends h hs k kind] at goes
    cases goes

end Document

/-- Two files differ in one line at most, which is of the same kind in both and ends no section. -/
structure LineRange.Exchanged (ls ls' : List String) (line : Nat) : Prop where
  kinds : kindAt? ls' = kindAt? ls
  others : ∀ i, i ≠ line → ls'[i]? = ls[i]?
  plain : ∀ k, kindAt? ls line = some k → k.endsSection = false

namespace LineRange.Exchanged

variable {ls ls' : List String} {line : Nat}

theorem of_set {t t' : String} (here : ls[line]? = some t) (kind : Line.kind t' = Line.kind t)
    (plain : (Line.kind t).endsSection = false) : Exchanged ls (ls.set line t') line := by
  have old : kindAt? ls line = some (Line.kind t) := by
    rw [kindAt?, here]
    rfl
  have new : kindAt? (ls.set line t') line = some (Line.kind t) := by
    rw [kindAt?, List.getElem?_set_self (List.getElem?_eq_some_iff.mp here).1, Option.map_some,
      kind]
  have others (i : Nat) (other : i ≠ line) : (ls.set line t')[i]? = ls[i]? :=
    List.getElem?_set_ne (Ne.symm other)
  refine ⟨?_, others, ?_⟩
  · funext i
    by_cases same : i = line
    · rw [same, new, old]
    · rw [kindAt?, kindAt?, others i same]
  · intro k known
    obtain rfl := Option.some.inj (old.symm.trans known)
    exact plain

theorem symm (ex : Exchanged ls ls' line) : Exchanged ls' ls line :=
  ⟨ex.kinds.symm, fun i other => (ex.others i other).symm, fun k kind =>
    ex.plain k (ex.kinds ▸ kind)⟩

/-- A line that ends sections is not the one that is exchanged. -/
theorem text_of_ends (ex : Exchanged ls ls' line) {i : Nat} {k : LineKind}
    (kind : kindAt? ls i = some k) (ends : k.endsSection = true) : ls'[i]? = ls[i]? := by
  apply ex.others
  rintro rfl
  rw [ex.plain k kind] at ends
  cases ends

theorem answers (ex : Exchanged ls ls' line) {m s : Nat} (h : Answers ls m s) :
    Answers ls' m s := by
  obtain ⟨method, behind, status, first⟩ := h
  rw [← ex.kinds] at method status first
  exact ⟨method, behind, status, first⟩

theorem bareStatus (ex : Exchanged ls ls' line) {s : Nat} (h : BareStatus ls s) :
    BareStatus ls' s := by
  obtain ⟨⟨m, answers⟩, text, here, one⟩ := h
  rw [← ex.text_of_ends answers.status rfl] at here
  exact ⟨⟨m, ex.answers answers⟩, text, here, one⟩

theorem headsResponseSection (ex : Exchanged ls ls' line) {i : Nat}
    (h : HeadsResponseSection ls i) : HeadsResponseSection ls' i := by
  obtain ⟨m, s, answers, header, top, plain⟩ := h
  rw [← ex.kinds] at header top plain
  exact ⟨m, s, ex.answers answers, header, top, plain⟩

/-- The file can still be read. -/
theorem exists_ok (ex : Exchanged ls ls' line) {d : Document} (h : Document.ofLines ls = .ok d) :
    ∃ d', Document.ofLines ls' = .ok d' := by
  cases read : Document.ofLines ls' with
  | ok d' => exact ⟨d', rfl⟩
  | error e =>
    obtain ⟨s, _, bare, _⟩ := Document.first_of_ofLines_eq_error read
    obtain ⟨e', failed⟩ := Document.exists_error_of_bareStatus (ex.symm.bareStatus bare)
    rw [h] at failed
    cases failed

/-- Each response section is found again, on the same lines and under the same name. -/
theorem exists_section (ex : Exchanged ls ls' line) {d d' : Document}
    (h : Document.ofLines ls = .ok d) (h' : Document.ofLines ls' = .ok d') {s : Section}
    (hs : s ∈ d.responseSections) : ∃ s' ∈ d'.responseSections,
      (∀ i, s'.Has i ↔ s.Has i) ∧ s'.name.text = s.name.text := by
  have heads := (Document.exists_responseSection_iff h).mp ⟨s, hs, rfl⟩
  obtain ⟨s', hs', start⟩ :=
    (Document.exists_responseSection_iff h').mpr (ex.headsResponseSection heads)
  refine ⟨s', hs', ?_, ?_⟩
  · intro i
    rw [Document.has_iff h hs, Document.has_iff h' hs', start, ex.kinds]
  · obtain ⟨text, here, written⟩ := Document.exists_headerLine h hs
    obtain ⟨text', here', written'⟩ := Document.exists_headerLine h' hs'
    obtain ⟨name, read, word⟩ := written.name
    obtain ⟨name', read', word'⟩ := written'.name
    rw [start, ex.text_of_ends (Document.section_laidOut h hs).header rfl, here] at here'
    obtain rfl := Option.some.inj here'
    obtain rfl := Option.some.inj (read.symm.trans read')
    rw [word, word']

end LineRange.Exchanged

end HurlAssist
