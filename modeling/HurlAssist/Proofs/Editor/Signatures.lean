import HurlAssist.Editor.Signature
import HurlAssist.Proofs.Api.Choice
import HurlAssist.Proofs.Document.RequestPlaces
import HurlAssist.Proofs.Filter

/-!
What is shown about a point: the filter whose name is the word there, and else the operation that
the request line calls. The regions of a method and of its target leave no gap, so that from the
first character of a request line to its end each column shows the operation
(`Editor.signatures_shown`).
-/

namespace HurlAssist

open LineRange Text

namespace Document

variable {ls : List String} {d : Document}

/-- On a method line, the regions of method and target have all columns from the first character to
the end. -/
theorem onMethod_or_onTarget_iff (h : ofLines ls = .ok d) {p : Point} {text : String}
    (line : MethodLine ls p.line text) : d.onMethod p = true ∨ d.onTarget p = true ↔
      p.line = 0 ∧ p.col ≤ 3 ∨ indent text.toList ≤ p.col ∧ p.col ≤ text.length := by
  have length := indent_add_length_words text.toList
  rw [String.length_toList] at length
  rw [onMethod_iff h, onTarget_iff h]
  constructor
  · rintro ((start | ⟨text', line', first, last⟩) | ⟨text', line', first, last⟩)
    · exact .inl start
    · obtain rfl := Option.some.inj (line.here.symm.trans line'.here)
      exact .inr ⟨first, by omega⟩
    · obtain rfl := Option.some.inj (line.here.symm.trans line'.here)
      exact .inr ⟨by omega, last⟩
  · rintro (start | ⟨first, last⟩)
    · exact .inl (.inl start)
    · by_cases word : p.col ≤ indent text.toList + (firstWord text.toList).length
      · exact .inl (.inr ⟨text, line, first, word⟩)
      · exact .inr ⟨text, line, by omega, last⟩

end Document

namespace Editor

variable {ls : List String} {d : Document} {api : Api.Definition} {p : Point}

/-- The point is on the method line with this text, or where its method may still be written. -/
structure OnRequestLine (ls : List String) (p : Point) (text : String) : Prop where
  line : MethodLine ls p.line text
  col : p.line = 0 ∧ p.col ≤ 3 ∨ indent text.toList ≤ p.col ∧ p.col ≤ text.length

/-- The operation that a request line calls: the method is the first word of its text, and the path
is what follows, without the blanks around it. -/
def calledOperation (api : Api.Definition) (text : String) : Api.Operation :=
  api.operation (String.ofList (firstWord text.toList))
    (String.ofList (trim (afterFirstWord text.toList)))

theorem signatureAt_of_filter {doc : Option Document} {f : Filter} (hf : f ∈ Filter.catalog)
    (named : f.name = symbolAt ls p) : signatureAt ls doc api p = some (.ofFilter f) := by
  unfold signatureAt
  rw [Filter.lookup_eq_some.mpr ⟨hf, named⟩]

section

variable (unnamed : ∀ f ∈ Filter.catalog, f.name ≠ symbolAt ls p)

include unnamed

theorem signatureAt_without_document : signatureAt ls none api p = none := by
  unfold signatureAt
  rw [Filter.lookup_eq_none.mpr unnamed]

theorem signatureAt_of_onRequestLine (h : Document.ofLines ls = .ok d) {text : String}
    (on : OnRequestLine ls p text) :
    signatureAt ls (some d) api p = some (.ofOperation (calledOperation api text)) := by
  obtain ⟨q, found, written⟩ := Document.exists_request_of_methodLine h on.line
  have inside : (d.onMethod p || d.onTarget p) = true := by
    rw [Bool.or_eq_true]
    exact (Document.onMethod_or_onTarget_iff h on.line).mpr on.col
  unfold signatureAt
  rw [Filter.lookup_eq_none.mpr unnamed]
  simp only [inside, if_true, found, Option.map_some, written.method, written.target]
  rfl

theorem signatureAt_eq_none (h : Document.ofLines ls = .ok d)
    (off : ∀ text, ¬ OnRequestLine ls p text) : signatureAt ls (some d) api p = none := by
  unfold signatureAt
  rw [Filter.lookup_eq_none.mpr unnamed]
  simp only
  split
  · rename_i inside
    rw [Bool.or_eq_true] at inside
    rw [Option.map_eq_none_iff, ← Option.not_isSome_iff_eq_none, Document.isSome_requestAt? h]
    intro method
    obtain ⟨text, line⟩ := kindAt?_eq_method.mp method
    exact off text ⟨line, (Document.onMethod_or_onTarget_iff h line).mp inside⟩
  · rfl

end

/-- The signature of an operation is labelled with the method that was asked for and the path. -/
theorem label_calledOperation (api : Api.Definition) (text : String) :
    (Signature.ofOperation (calledOperation api text)).label =
      String.ofList (firstWord text.toList) ++ " " ++ (calledOperation api text).path := by
  rw [Signature.ofOperation, calledOperation, Api.Definition.method_operation]

/-- If the word at a point is the name of a filter, the filter is shown, with or without a document.
For any other word nothing is shown without a document. With one, a point on a request line shows
the operation that the line calls, under its method and the path of the operation: a point from the
first character of the line to its end, and the start of the first line if that is a request line.
Nothing is shown elsewhere. -/
theorem signatures_shown (h : Document.ofLines ls = .ok d) (api : Api.Definition) (p : Point) :
    (∀ f ∈ Filter.catalog, f.name = symbolAt ls p → ∀ doc,
      signatureAt ls doc api p = some ⟨f.name, f.description, [⟨f.input, none⟩]⟩) ∧
    ((∀ f ∈ Filter.catalog, f.name ≠ symbolAt ls p) →
      (∀ text, OnRequestLine ls p text →
        signatureAt ls (some d) api p = some (.ofOperation (calledOperation api text)) ∧
        (Signature.ofOperation (calledOperation api text)).label =
          String.ofList (firstWord text.toList) ++ " " ++ (calledOperation api text).path) ∧
      ((∀ text, ¬ OnRequestLine ls p text) → signatureAt ls (some d) api p = none) ∧
      signatureAt ls none api p = none) := by
  constructor
  · intro f hf named doc
    exact signatureAt_of_filter hf named
  · intro unnamed
    refine ⟨?_, signatureAt_eq_none unnamed h, signatureAt_without_document unnamed⟩
    intro text on
    exact ⟨signatureAt_of_onRequestLine unnamed h on, label_calledOperation api text⟩

/-- The end of a request line, a filter in an assertion, and a status line. -/
theorem signatures_shown_here : ∃ d,
    Document.ofLines ["GET /pets", "HTTP/1.1 200", "[Asserts]", "jsonpath count == 1"] = .ok d ∧
    ((signatureAt ["GET /pets", "HTTP/1.1 200", "[Asserts]", "jsonpath count == 1"] (some d)
      (.ofPaths [("/pets", .object [])]) ⟨0, 9⟩).map (·.label)) = some "GET /pets" ∧
    ((signatureAt ["GET /pets", "HTTP/1.1 200", "[Asserts]", "jsonpath count == 1"] (some d)
      (.ofPaths [("/pets", .object [])]) ⟨3, 10⟩).map (·.label)) = some "count" ∧
    signatureAt ["GET /pets", "HTTP/1.1 200", "[Asserts]", "jsonpath count == 1"] (some d)
      (.ofPaths [("/pets", .object [])]) ⟨1, 0⟩ = none := by
  have read : (Document.ofLines ["GET /pets", "HTTP/1.1 200", "[Asserts]",
      "jsonpath count == 1"]).isOk = true := by decide +kernel
  obtain ⟨d, h⟩ := Document.exists_of_isOk read
  have shown := signatures_shown h (.ofPaths [("/pets", .object [])])
  refine ⟨d, h, ?_, ?_, ?_⟩
  · obtain ⟨_, unnamed⟩ := shown ⟨0, 9⟩
    obtain ⟨signature, label⟩ := (unnamed (by decide +kernel)).1 "GET /pets"
      ⟨⟨rfl, by decide +kernel⟩, by decide +kernel⟩
    rw [signature, Option.map_some, label]
    decide +kernel
  · have named : ∃ f ∈ Filter.catalog, f.name = symbolAt ["GET /pets", "HTTP/1.1 200",
        "[Asserts]", "jsonpath count == 1"] ⟨3, 10⟩ ∧ f.name = "count" := by decide +kernel
    obtain ⟨f, hf, here, name⟩ := named
    rw [(shown ⟨3, 10⟩).1 f hf here, Option.map_some, name]
  · apply ((shown ⟨1, 0⟩).2 (by decide +kernel)).2.1
    rintro text ⟨⟨here, method⟩, _⟩
    obtain rfl := Option.some.inj here
    exact absurd method (by decide +kernel)

end Editor

end HurlAssist
