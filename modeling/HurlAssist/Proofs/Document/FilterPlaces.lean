import Mathlib.Logic.ExistsUnique
import HurlAssist.Proofs.Document.SectionLines

/-!
Where a filter can be written. The text of the file decides it, line by line: the line belongs to a
response section, the column is outside of double quotes, and in `[Captures]` it is right of the
first colon (`Document.takesFilter_iff`). A line of a response section is on no other part of the
file that is asked about (`Document.not_offLimits_of_has`).
-/

namespace HurlAssist

open LineRange

theorem insideQuotes_eq_false {text : String} {col : Nat} :
    insideQuotes text col = false ↔ (text.toList.take (col + 1)).count '"' % 2 = 0 := by
  rw [insideQuotes, beq_eq_false_iff_ne]
  omega

theorem rightOfColon_iff {text : String} {col : Nat} :
    rightOfColon text col = true ↔ ∃ colon < col, text.toList[colon]? = some ':' ∧
      ∀ i < colon, text.toList[i]? ≠ some ':' := by
  unfold rightOfColon
  cases found : text.toList.findIdx? (· == ':') with
  | none =>
    have absent := List.findIdx?_eq_none_iff.mp found
    constructor
    · intro h
      cases h
    · rintro ⟨colon, _, here, _⟩
      have := absent ':' (List.mem_of_getElem? here)
      simp at this
  | some first =>
    obtain ⟨bound, here, before⟩ := List.findIdx?_eq_some_iff_getElem.mp found
    have colonAt : text.toList[first]? = some ':' := by
      rw [List.getElem?_eq_getElem bound, eq_of_beq here]
    have noneBefore (i : Nat) (lt : i < first) : text.toList[i]? ≠ some ':' := by
      rw [List.getElem?_eq_getElem (by omega)]
      simpa using before i lt
    constructor
    · intro lt
      exact ⟨first, of_decide_eq_true lt, colonAt, noneBefore⟩
    · rintro ⟨colon, lt, here, least⟩
      have le : first ≤ colon := by
        by_contra gt
        exact noneBefore colon (by omega) here
      exact decide_eq_true (by omega)

theorem Section.isCaptures_iff {s : Section} : s.isCaptures = true ↔ s.name.text = "Captures" :=
  beq_iff_eq

namespace Document

/-- The lines that no response section has: those of requests, those that are method lines, status
lines or section headers, those of the headers and the body of a response, and those behind the
end of the file. -/
inductive OffLimits (ls : List String) (d : Document) : Nat → Prop
  | request {e line} (he : e ∈ d.entries) (here : e.request.span.spansLine line = true) :
      OffLimits ls d line
  | ends {line k} (kind : kindAt? ls line = some k) (ends : k.endsSection = true) :
      OffLimits ls d line
  | status {p} (hp : p ∈ d.responses) : OffLimits ls d p.span.start.line
  | headers {p region line} (hp : p ∈ d.responses) (hs : p.content.headers.span = some region)
      (here : region.spansLine line = true) : OffLimits ls d line
  | sectionHeader {s} (hs : s ∈ d.responseSections) : OffLimits ls d s.span.start.line
  | body {p region line} (hp : p ∈ d.responses) (hs : p.content.body.span = some region)
      (here : region.spansLine line = true) : OffLimits ls d line
  | behind {line} (h : ls.length ≤ line) : OffLimits ls d line

variable {ls : List String} {d : Document}

/-- The section, the line and the column that a filter takes. -/
theorem takesFilter_eq_true (h : ofLines ls = .ok d) {p : Point} :
    d.takesFilter p = true ↔ ∃ s ∈ d.responseSections, s.Has p.line ∧
      ∃ text, ls[p.line]? = some text ∧ insideQuotes text p.col = false ∧
        (s.isCaptures = true → rightOfColon text p.col = true) := by
  cases found : d.sectionAt? p.line with
  | none =>
    rw [takesFilter, found]
    constructor
    · intro takes
      cases takes
    · rintro ⟨s, hs, has, _⟩
      rw [(sectionAt?_eq_some h).mpr ⟨hs, has⟩] at found
      cases found
  | some s =>
    obtain ⟨hs, has⟩ := (sectionAt?_eq_some h).mp found
    have laid := section_laidOut h hs
    obtain ⟨text, here⟩ := laid.exists_text has
    have decides : d.takesFilter p = true ↔
        (s.isCaptures = true → rightOfColon text p.col = true) ∧
          insideQuotes text p.col = false := by
      simp only [takesFilter, found, laid.line?_eq has, here, Bool.and_eq_true, Bool.or_eq_true,
        Bool.not_eq_true', or_iff_not_imp_left, Bool.not_eq_false]
    rw [decides]
    constructor
    · rintro ⟨captures, quotes⟩
      exact ⟨s, hs, has, text, here, quotes, captures⟩
    · rintro ⟨t, ht, has', text', here', quotes, captures⟩
      obtain rfl := mem_unique_of_pairwise (sections_apart h p.line) hs ht has has'
      obtain rfl := Option.some.inj (here.symm.trans here')
      exact ⟨captures, quotes⟩

theorem not_offLimits_of_has (h : ofLines ls = .ok d) {s : Section} (hs : s ∈ d.responseSections)
    {line : Nat} (has : s.Has line) : ¬ d.OffLimits ls line := by
  have laid := section_laidOut h hs
  intro off
  cases off with
  | request he here =>
    rw [request_apart h hs has he] at here
    cases here
  | ends kind ends => exact laid.not_has_of_ends kind ends has
  | status hp => exact laid.not_has_of_ends (response_spec h hp).1 rfl has
  | headers hp found here =>
    rw [headers_apart h hs has hp found] at here
    cases here
  | sectionHeader ht => exact laid.not_has_of_ends (section_laidOut h ht).header rfl has
  | body hp found here =>
    rw [body_apart h hs has hp found] at here
    cases here
  | behind le =>
    obtain ⟨text, here⟩ := laid.exists_text has
    exact Nat.not_lt_of_le le (List.getElem?_eq_some_iff.mp here).1

/-- A filter can be written where the file's own line says so: the line is one of a response
section, of which there is only one then; the quotes up to and including the column are even in
number; and if the section is called `Captures`, the first colon of the line is left of the column.
On all other lines no filter can be written. -/
theorem takesFilter_iff (h : ofLines ls = .ok d) :
    (∀ p : Point, d.takesFilter p = true ↔ ∃ s ∈ d.responseSections, s.Has p.line ∧
      ∃ text, ls[p.line]? = some text ∧ (text.toList.take (p.col + 1)).count '"' % 2 = 0 ∧
        (s.name.text = "Captures" → ∃ colon < p.col, text.toList[colon]? = some ':' ∧
          ∀ i < colon, text.toList[i]? ≠ some ':')) ∧
    (∀ s ∈ d.responseSections, ∀ line, s.Has line →
      ∃! i : Nat, ∃ t, d.responseSections[i]? = some t ∧ t.Has line) ∧
    ∀ p : Point, d.OffLimits ls p.line → d.takesFilter p = false := by
  refine ⟨?_, ?_, ?_⟩
  · intro p
    simp only [takesFilter_eq_true h, insideQuotes_eq_false, rightOfColon_iff,
      Section.isCaptures_iff]
  · intro s hs line has
    obtain ⟨i, hi⟩ := List.mem_iff_getElem?.mp hs
    refine ⟨i, ⟨s, hi, has⟩, ?_⟩
    rintro j ⟨t, hj, has'⟩
    exact index_unique_of_pairwise (sections_apart h line) hj hi has' has
  · intro p off
    rw [Bool.eq_false_iff]
    intro takes
    obtain ⟨s, hs, has, _⟩ := (takesFilter_eq_true h).mp takes
    exact not_offLimits_of_has h hs has off

/-- Captures and a second status line: right of the colon, in quotes, and in the body. -/
theorem takesFilter_iff_captures : ∃ d,
    ofLines ["GET /a", "[Query]", "q: 1", "HTTP/1.1 200", "[Captures]", "id: jsonpath \"$.id\"",
      "[Asserts]", "status == 200", "HTTP/1.1 500"] = .ok d ∧
    d.takesFilter ⟨5, 4⟩ = true ∧ d.takesFilter ⟨5, 14⟩ = false ∧
    (∃! i : Nat, ∃ t, d.responseSections[i]? = some t ∧ t.Has 5) ∧
    d.takesFilter ⟨8, 0⟩ = false := by
  have read : (ofLines ["GET /a", "[Query]", "q: 1", "HTTP/1.1 200", "[Captures]",
      "id: jsonpath \"$.id\"", "[Asserts]", "status == 200", "HTTP/1.1 500"]).toOption.any (fun d =>
        d.responseSections.map (fun s => (s.span.start.line, s.span.stop.line)) ==
          [(4, 5), (6, 7)]) = true := by
    decide +kernel
  obtain ⟨d, h, shape⟩ := exists_of_any read
  obtain ⟨s, _, sections, lines, _⟩ := List.map_eq_cons_iff.mp (eq_of_beq shape)
  simp only [Prod.mk.injEq] at lines
  have hs : s ∈ d.responseSections := by
    rw [sections]
    exact List.mem_cons_self
  have has : s.Has 5 := ⟨by omega, by omega⟩
  obtain ⟨takes, unique, refused⟩ := takesFilter_iff h
  have status : d.OffLimits ["GET /a", "[Query]", "q: 1", "HTTP/1.1 200", "[Captures]",
      "id: jsonpath \"$.id\"", "[Asserts]", "status == 200", "HTTP/1.1 500"] 8 :=
    .ends (k := .status) (by decide +kernel) rfl
  refine ⟨d, h, ?_, ?_, unique s hs 5 has, refused ⟨8, 0⟩ status⟩
  · exact (takes ⟨5, 4⟩).mpr ⟨s, hs, has, _, rfl, by decide +kernel, fun _ => ⟨2, by decide⟩⟩
  · rw [Bool.eq_false_iff]
    intro inside
    obtain ⟨_, _, _, text, here, even, _⟩ := (takes ⟨5, 14⟩).mp inside
    obtain rfl : "id: jsonpath \"$.id\"" = text := Option.some.inj here
    revert even
    decide +kernel

end Document

end HurlAssist
