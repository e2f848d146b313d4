import HurlAssist.Proofs.Api.WrittenPaths
import HurlAssist.Proofs.Document.CaptureLines
import HurlAssist.Proofs.Editor.Offers
import HurlAssist.Proofs.Filter

/-!
What is offered at a point, kind by kind. No item is offered twice, and the items of each kind come in
one order: variables as they are first captured, paths as the definition first writes them, all
others always in the same order (`Editor.offered_once`).
-/

namespace HurlAssist.Editor

/-- What is offered of a kind, where it does not depend on what is edited. -/
def CompletionKind.fixed : CompletionKind → Option (List String)
  | .method => some Completion.methods
  | .sectionTag => some Completion.sectionTags
  | .filter => some (Filter.catalog.map Filter.name)
  | .capturedVariable => none
  | .path => none

/-- The labels of the items of a kind. -/
def labels (kind : CompletionKind) (items : List Completion) : List String :=
  (items.filter (·.kind == kind)).map (·.label)

theorem labels_append (kind : CompletionKind) (xs ys : List Completion) :
    labels kind (xs ++ ys) = labels kind xs ++ labels kind ys := by
  rw [labels, List.filter_append, List.map_append]
  rfl

/-- Items that are all of one kind. -/
theorem labels_map {α : Type} {item : α → Completion} {own : CompletionKind}
    (same : ∀ a, (item a).kind = own) (kind : CompletionKind) (as : List α) :
    labels kind (as.map item) = if own = kind then as.map fun a => (item a).label else [] := by
  rw [labels, List.filter_map, List.map_map]
  by_cases h : own = kind
  · rw [if_pos h, List.filter_eq_self.mpr fun a _ => by simp [same, h]]
    rfl
  · rw [if_neg h, List.filter_eq_nil_iff.mpr fun a _ => by simp [same, h]]
    rfl

theorem labels_ite (kind : CompletionKind) (c : Bool) (xs : List Completion) :
    labels kind (if c then xs else []) = if c then labels kind xs else [] := by
  split <;> rfl

/-- If no label stands twice among the items of one kind, no item stands twice. -/
theorem nodup_of_labels {items : List Completion} (h : ∀ kind, (labels kind items).Nodup) :
    (items.map fun item => (item.kind, item.label)).Nodup := by
  induction items with
  | nil => exact List.nodup_nil
  | cons item items ih =>
    rw [List.map_cons, List.nodup_cons]
    constructor
    · intro again
      obtain ⟨other, mem, same⟩ := List.mem_map.mp again
      obtain ⟨kind, label⟩ := Prod.mk.inj same
      have own := h item.kind
      rw [labels, List.filter_cons_of_pos (by simp), List.map_cons, List.nodup_cons] at own
      apply own.1
      exact List.mem_map.mpr ⟨other, List.mem_filter.mpr ⟨mem, by simp [kind]⟩, label⟩
    · apply ih
      intro kind
      exact (h kind).sublist (((List.sublist_cons_self item items).filter _).map _)

section

variable (d : Document) (api : Api.Definition) (p : Point)

/-- What is offered of each kind. -/
def offered : CompletionKind → List String
  | .method => if d.onMethod p then Completion.methods else []
  | .sectionTag => if d.onSectionName p then Completion.sectionTags else []
  | .capturedVariable => d.variablesAt p.line
  | .filter => if d.takesFilter p then Filter.catalog.map Filter.name else []
  | .path => if d.onTarget p then api.paths else []

theorem labels_complete (kind : CompletionKind) :
    labels kind (complete d api p) = offered d api p kind := by
  have plain (own : CompletionKind) (name : String) : (Completion.plain own name).kind = own := rfl
  have captured (name : String) : (Completion.ofVariable name).kind = .capturedVariable := rfl
  have filters (f : Filter) : (Completion.ofFilter f).kind = .filter := rfl
  simp only [complete, labels_append, labels_ite, labels_map (plain _), labels_map captured,
    labels_map filters]
  cases kind <;> simp [offered, Completion.plain, Completion.ofVariable, Completion.ofFilter]

end

/-- Where what is offered of a kind is always the same, it is offered whole or not at all. -/
theorem offered_fixed (d : Document) (api : Api.Definition) (p : Point) {kind : CompletionKind}
    {names : List String} (fixed : kind.fixed = some names) :
    offered d api p kind = [] ∨ offered d api p kind = names := by
  have whole (c : Bool) : (if c then names else []) = [] ∨ (if c then names else []) = names := by
    cases c with
    | true => exact .inr rfl
    | false => exact .inl rfl
  cases kind with
  | method => cases fixed; exact whole (d.onMethod p)
  | sectionTag => cases fixed; exact whole (d.onSectionName p)
  | filter => cases fixed; exact whole (d.takesFilter p)
  | capturedVariable => cases fixed
  | path => cases fixed

theorem CompletionKind.nodup_of_fixed {kind : CompletionKind} {names : List String}
    (fixed : kind.fixed = some names) : names.Nodup := by
  cases kind with
  | method => cases fixed; decide +kernel
  | sectionTag => cases fixed; decide +kernel
  | filter =>
    cases fixed
    apply List.pairwise_map.mpr
    apply Filter.ascending_catalog.imp
    intro f g lt same
    exact String.lt_irrefl _ (same ▸ lt)
  | capturedVariable => cases fixed
  | path => cases fixed

theorem nodup_offered_fixed (d : Document) (api : Api.Definition) (p : Point)
    {kind : CompletionKind} {names : List String} (fixed : kind.fixed = some names) :
    (offered d api p kind).Nodup := by
  rcases offered_fixed d api p fixed with none | whole
  · rw [none]
    exact List.nodup_nil
  · rw [whole]
    exact CompletionKind.nodup_of_fixed fixed

/-- Whatever file and definition there are, no item is offered twice at a point. Of each kind items
come in one order: methods, sections and filters as they always do, if they are offered; variables,
which are those of the sections that end above the point, as lines first capture them; paths, if they
are offered, as the definition first writes them, and then all that it writes. -/
theorem offered_once {ls : List String} {d : Document} (h : Document.ofLines ls = .ok d)
    {format : Api.Format} {text : String} {api : Api.Definition}
    (accepted : Api.Definition.ofText format text = .ok api) (p : Point) :
    ((complete d api p).map fun item => (item.kind, item.label)).Nodup ∧
    (∀ kind names, kind.fixed = some names →
      labels kind (complete d api p) = [] ∨ labels kind (complete d api p) = names) ∧
    (∀ s ∈ d.responseSections, s.isCaptures = true → s.span.stop.line < p.line →
      ∀ name ∈ s.keyValues.keys, name ∈ labels .capturedVariable (complete d api p)) ∧
    InFirstOrder (fun line name => line < p.line ∧ d.CapturesOn ls line name)
      (labels .capturedVariable (complete d api p)) ∧
    ∃ written, Api.Definition.WritesPaths format text written ∧
      (labels .path (complete d api p) = [] ∨
        (∀ path ∈ written, path ∈ labels .path (complete d api p)) ∧
        InFirstOrder (fun i path => written[i]? = some path)
          (labels .path (complete d api p))) := by
  obtain ⟨written, writes, paths⟩ := Api.Definition.exists_writtenPaths accepted
  have known := Document.variablesAt_inFirstOrder h p.line
  have inOrder := inFirstOrder_getElem? written
  simp only [labels_complete]
  refine ⟨nodup_of_labels ?_, fun kind names => offered_fixed d api p, ?_, known, written, writes,
    ?_⟩
  · intro kind
    rw [labels_complete]
    cases kind with
    | method => exact nodup_offered_fixed d api p rfl
    | sectionTag => exact nodup_offered_fixed d api p rfl
    | filter => exact nodup_offered_fixed d api p rfl
    | capturedVariable => exact known.nodup
    | path =>
      rw [offered]
      split
      · exact paths ▸ inOrder.nodup
      · exact List.nodup_nil
  · intro s hs captures above name key
    exact Document.mem_variablesAt.mpr ⟨s, hs, captures, above, key⟩
  · rw [offered]
    split
    · rw [paths]
      exact .inr ⟨fun path mem => List.mem_eraseDups.mpr mem, inOrder⟩
    · exact .inl rfl

/-- A name that is captured on two lines, and a path that is written twice. -/
theorem offered_once_again : ∃ d api,
    Document.ofLines ["GET /a", "HTTP/1.1 200", "[Captures]", "id: body", "key: body", "id: 1",
      "GET /b"] = .ok d ∧
    Api.Definition.ofText .json
      "\x7b\"paths\": \x7b\"/b\": 1, \"/a\": 2, \"/b\": 3\x7d\x7d" = .ok api ∧
    ((complete d api ⟨6, 5⟩).map fun item => (item.kind, item.label)).Nodup ∧
    InFirstOrder (fun line name => line < 6 ∧ d.CapturesOn ["GET /a", "HTTP/1.1 200",
      "[Captures]", "id: body", "key: body", "id: 1", "GET /b"] line name)
      (labels .capturedVariable (complete d api ⟨6, 5⟩)) ∧
    labels .capturedVariable (complete d api ⟨6, 5⟩) = ["id", "key"] ∧
    labels .path (complete d api ⟨6, 5⟩) = ["/b", "/a"] := by
  have read : (Document.ofLines ["GET /a", "HTTP/1.1 200", "[Captures]", "id: body", "key: body",
      "id: 1", "GET /b"]).toOption.any (fun d =>
        d.variablesAt 6 == ["id", "key"] && d.onTarget ⟨6, 5⟩) = true := by
    decide +kernel
  obtain ⟨d, h, shape⟩ := exists_of_any read
  obtain ⟨known, onTarget⟩ := Bool.and_eq_true_iff.mp shape
  have read' : (Api.Definition.ofText .json
      "\x7b\"paths\": \x7b\"/b\": 1, \"/a\": 2, \"/b\": 3\x7d\x7d").toOption.any (fun api =>
        api.paths == ["/b", "/a"]) = true := by
    decide +kernel
  obtain ⟨api, accepted, paths⟩ := exists_of_any read'
  obtain ⟨nodup, -, -, inOrder, -⟩ := offered_once h accepted ⟨6, 5⟩
  refine ⟨d, api, h, accepted, nodup, inOrder, ?_, ?_⟩
  · rw [labels_complete]
    exact eq_of_beq known
  · rw [labels_complete, offered, if_pos onTarget]
    exact eq_of_beq paths

end HurlAssist.Editor
