import HurlAssist.Editor.Completion
import HurlAssist.Proofs.Document.FilterPlaces

/-!
What is offered together at a point. On a line of a response section neither methods nor targets nor
the names of sections are written, so filters are offered with captured variables at most
(`Document.filters_offered_apart`).
-/

namespace HurlAssist

open LineRange

namespace Editor

/-- Each kind of item is offered where it can be written, and variables on every line that knows
them. -/
theorem mem_complete {d : Document} {api : Api.Definition} {p : Point} {item : Completion} :
    item ∈ complete d api p ↔
      d.onMethod p = true ∧ item ∈ Completion.methods.map (.plain .method) ∨
      d.onSectionName p = true ∧ item ∈ Completion.sectionTags.map (.plain .sectionTag) ∨
      item ∈ (d.variablesAt p.line).map .ofVariable ∨
      d.takesFilter p = true ∧ item ∈ Filter.catalog.map .ofFilter ∨
      d.onTarget p = true ∧ item ∈ api.paths.map (.plain .path) := by
  simp only [complete, List.mem_append, List.mem_ite_nil_right, or_assoc]

/-- A filter is offered only where one can be written. -/
theorem takesFilter_of_mem_complete {d : Document} {api : Api.Definition} {p : Point}
    {item : Completion} (h : item ∈ complete d api p) (kind : item.kind = .filter) :
    d.takesFilter p = true := by
  rcases mem_complete.mp h with ⟨_, mem⟩ | ⟨_, mem⟩ | mem | ⟨takes, _⟩ | ⟨_, mem⟩
  · obtain ⟨_, _, rfl⟩ := List.mem_map.mp mem
    cases kind
  · obtain ⟨_, _, rfl⟩ := List.mem_map.mp mem
    cases kind
  · obtain ⟨_, _, rfl⟩ := List.mem_map.mp mem
    cases kind
  · exact takes
  · obtain ⟨_, _, rfl⟩ := List.mem_map.mp mem
    cases kind

end Editor

namespace Document

variable {ls : List String} {d : Document} {s : Section} {p : Point}

section

variable (h : ofLines ls = .ok d) (hs : s ∈ d.responseSections) (has : s.Has p.line)

include h hs has

theorem onMethod_of_has : d.onMethod p = false := by
  have later : p.line ≠ 0 := Nat.ne_zero_of_lt has.1
  simp only [onMethod, Bool.or_eq_false_iff, Bool.and_eq_false_iff, beq_eq_false_iff_ne,
    List.any_eq_false]
  refine ⟨.inl later, ?_⟩
  intro e he here
  have spans := ((entries_inOrder h).1 e he).request.2.method.spansLine
    (Span.spansLine_of_contains here)
  rw [request_apart h hs has he] at spans
  cases spans

theorem onTarget_of_has : d.onTarget p = false := by
  rw [onTarget, List.any_eq_false]
  intro e he here
  have spans := ((entries_inOrder h).1 e he).request.2.target.spansLine
    (Span.spansLine_of_contains here)
  rw [request_apart h hs has he] at spans
  cases spans

/-- A status line is no line of a section, and no header of one: the line below it is none of a
section's lines either. -/
theorem onSectionName_of_has : d.onSectionName p = false := by
  have laid := section_laidOut h hs
  simp only [onSectionName, Bool.or_eq_false_iff, List.any_eq_false, Bool.and_eq_true,
    decide_eq_true_eq, beq_iff_eq]
  constructor
  · rintro r hr ⟨below, _⟩
    have status := (response_spec h hr).1
    obtain ⟨after, before⟩ := has
    rcases Nat.lt_or_eq_of_le (show s.span.start.line ≤ r.span.start.line by omega) with
      lt | same
    · exact laid.not_has_of_ends status rfl ⟨lt, by omega⟩
    · rw [← same, laid.header] at status
      cases status
  · intro t ht here
    have own := section_laidOut h ht
    have lines := Span.spansLine_iff.mp (Span.spansLine_of_contains here)
    have header : p.line = t.span.start.line := by
      have := own.name
      omega
    rw [header] at has
    exact laid.not_has_of_ends own.header rfl has

end

/-- Where a filter can be written, the point is on no method, on no target and on no name of a
section, and what is offered are the variables and the filters. So if a filter is among what is
offered at a point of a file, all of it are filters and captured variables. -/
theorem filters_offered_apart (h : ofLines ls = .ok d) (p : Point) :
    (d.takesFilter p = true →
      d.onMethod p = false ∧ d.onTarget p = false ∧ d.onSectionName p = false ∧
      ∀ api, Editor.complete d api p =
        (d.variablesAt p.line).map .ofVariable ++ Filter.catalog.map .ofFilter) ∧
    ∀ api, ∀ item ∈ Editor.complete d api p, item.kind = .filter →
      ∀ other ∈ Editor.complete d api p, other.kind = .filter ∨ other.kind = .capturedVariable := by
  have apart (takes : d.takesFilter p = true) :
      d.onMethod p = false ∧ d.onTarget p = false ∧ d.onSectionName p = false := by
    obtain ⟨s, hs, has, _⟩ := (takesFilter_eq_true h).mp takes
    exact ⟨onMethod_of_has h hs has, onTarget_of_has h hs has, onSectionName_of_has h hs has⟩
  constructor
  · intro takes
    obtain ⟨method, target, name⟩ := apart takes
    refine ⟨method, target, name, ?_⟩
    intro api
    simp [Editor.complete, method, target, name, takes]
  · intro api item mem kind other mem'
    obtain ⟨method, target, name⟩ := apart (Editor.takesFilter_of_mem_complete mem kind)
    rcases Editor.mem_complete.mp mem' with ⟨on, _⟩ | ⟨on, _⟩ | variable_ | ⟨_, filter⟩ | ⟨on, _⟩
    · rw [method] at on
      cases on
    · rw [name] at on
      cases on
    · obtain ⟨_, _, rfl⟩ := List.mem_map.mp variable_
      exact .inr rfl
    · obtain ⟨_, _, rfl⟩ := List.mem_map.mp filter
      exact .inl rfl
    · rw [target] at on
      cases on

/-- An assertion right below a request that is known to the API, behind captures. -/
theorem filters_offered_apart_asserts : ∃ d,
    ofLines ["GET /a", "HTTP/1.1 200", "[Captures]", "id: body", "[Asserts]", "status == 200",
      "GET /b"] = .ok d ∧ d.takesFilter ⟨5, 0⟩ = true ∧
    d.onMethod ⟨5, 0⟩ = false ∧ d.onTarget ⟨5, 0⟩ = false ∧ d.onSectionName ⟨5, 0⟩ = false ∧
    ∀ api, Editor.complete d api ⟨5, 0⟩ =
      (d.variablesAt 5).map .ofVariable ++ Filter.catalog.map .ofFilter := by
  have read : (ofLines ["GET /a", "HTTP/1.1 200", "[Captures]", "id: body", "[Asserts]",
      "status == 200", "GET /b"]).toOption.any (·.takesFilter ⟨5, 0⟩) = true := by
    decide +kernel
  obtain ⟨d, h, takes⟩ := exists_of_any read
  exact ⟨d, h, takes, (filters_offered_apart h ⟨5, 0⟩).1 takes⟩

end Document

end HurlAssist
