import HurlAssist.Proofs.Document.SectionLines

/-!
Where requests stand, said by the lines of the file alone. A request is found on its method line,
and an entry from its method line on up to the next one; the regions of method and target are read
off the text of the method line (`Document.requests_found`).
-/

namespace HurlAssist

open LineRange Text

/-- The line is a method line with this text. -/
structure LineRange.MethodLine (ls : List String) (line : Nat) (text : String) : Prop where
  here : ls[line]? = some text
  kind : Line.kind text = .method

theorem LineRange.kindAt?_eq_method {ls : List String} {line : Nat} :
    kindAt? ls line = some .method ↔ ∃ text, MethodLine ls line text := by
  rw [kindAt?, Option.map_eq_some_iff]
  constructor
  · rintro ⟨text, here, kind⟩
    exact ⟨text, here, kind⟩
  · rintro ⟨text, here, kind⟩
    exact ⟨text, here, kind⟩

/-- The method line `m` is the last one that is not below the line. -/
structure LineRange.LastMethod (ls : List String) (line m : Nat) : Prop where
  method : kindAt? ls m = some .method
  le : m ≤ line
  last : ∀ i ≤ line, kindAt? ls i = some .method → i ≤ m

theorem LineRange.exists_lastMethod {ls : List String} {line m : Nat} (le : m ≤ line)
    (method : kindAt? ls m = some .method) : ∃ last, LastMethod ls line last := by
  induction line with
  | zero =>
    obtain rfl := Nat.le_zero.mp le
    exact ⟨0, method, le, fun i hi _ => hi⟩
  | succ line ih =>
    by_cases here : kindAt? ls (line + 1) = some .method
    · exact ⟨line + 1, here, Nat.le_refl _, fun i hi _ => hi⟩
    · have above (i : Nat) (hi : i ≤ line + 1) (method : kindAt? ls i = some .method) :
          i ≤ line := by
        rcases Nat.lt_or_eq_of_le hi with lt | rfl
        · exact Nat.le_of_lt_succ lt
        · exact absurd method here
      obtain ⟨last, lastMethod⟩ := ih (above m le method)
      exact ⟨last, lastMethod.method, Nat.le_succ_of_le lastMethod.le,
        fun i hi method => lastMethod.last i (above i hi method) method⟩

theorem Span.contains_onLine {line first last : Nat} (h : first ≤ last) {p : Point} :
    (onLine line first last).contains p = true ↔
      p.line = line ∧ first ≤ p.col ∧ p.col ≤ last := by
  simp only [contains, spansLine, onLine, Nat.max_eq_left h, Bool.and_eq_true, decide_eq_true_eq,
    Bool.not_eq_true', Bool.and_eq_false_iff, beq_eq_false_iff_ne, decide_eq_false_iff_not]
  omega

/-- The request starts on the line, and its words are the first word of the line's text and what
follows it. -/
structure Request.WrittenOn (line : Nat) (text : String) (q : Request) : Prop where
  start : q.span.start.line = line
  method : q.method = ⟨String.ofList (firstWord text.toList), .onLine line (indent text.toList)
    (indent text.toList + (firstWord text.toList).length)⟩
  target : q.target = ⟨String.ofList (trim (afterFirstWord text.toList)), .onLine line
    (min (indent text.toList + (firstWord text.toList).length + 1) text.length) text.length⟩

theorem Request.writtenOn_ofBlock (b : Block) : (ofBlock b).WrittenOn b.line b.head :=
  ⟨rfl, rfl, rfl⟩

namespace Document

variable {ls : List String} {d : Document}

section

variable (h : ofLines ls = .ok d)

include h

/-- The request of an entry is written on the method line that the entry starts on. -/
theorem exists_methodLine {e : Entry} (he : e ∈ d.entries) :
    ∃ text, MethodLine ls e.span.start.line text ∧ e.request.WrittenOn e.span.start.line text := by
  obtain ⟨b, hb, made⟩ := exists_block_of_entry h he
  rw [(Entry.span_of_ofBlock made).1, (Entry.ofBlock_eq_ok made).1]
  have here := (Block.stands_of_mem_cut (Stands.all ls) hb).head
  exact ⟨b.head, ⟨here, Block.kind_of_mem_cut hb⟩, Request.writtenOn_ofBlock b.upToStatus⟩

/-- An entry starts on each method line. -/
theorem exists_entry {line : Nat} (method : kindAt? ls line = some .method) :
    ∃ e ∈ d.entries, e.span.start.line = line := by
  obtain ⟨b, hb, rfl⟩ := exists_line_entries_iff.mpr method
  obtain ⟨e, he, made⟩ := exists_entry_of_block h hb
  exact ⟨e, he, (Entry.span_of_ofBlock made).1⟩

/-- The request of the entry that starts on a method line is written on it. -/
theorem exists_entry_of_methodLine {line : Nat} {text : String} (here : MethodLine ls line text) :
    ∃ e ∈ d.entries, e.span.start.line = line ∧ e.request.WrittenOn line text := by
  obtain ⟨e, he, rfl⟩ := exists_entry h (kindAt?_eq_method.mpr ⟨text, here⟩)
  obtain ⟨text', here', written⟩ := exists_methodLine h he
  obtain rfl := Option.some.inj (here.here.symm.trans here'.here)
  exact ⟨e, he, rfl, written⟩

/-- The lines of an entry are those for which its method line is the last one above. -/
theorem spansLine_entry_iff {e : Entry} (he : e ∈ d.entries) {line : Nat} :
    e.span.spansLine line = true ↔ line < ls.length ∧ LastMethod ls line e.span.start.line := by
  obtain ⟨b, hb, made⟩ := exists_block_of_entry h he
  obtain ⟨first, _, last⟩ := Entry.span_of_ofBlock made
  rw [Span.spansLine_iff, first]
  constructor
  · rintro ⟨le, before⟩
    have bound := (Block.stop_le_of_mem_cut hb).2
    refine ⟨by omega, exists_line_entries_iff.mp ⟨b, hb, rfl⟩, le, ?_⟩
    intro m hm method
    apply Nat.le_of_not_lt
    intro below
    exact Block.not_method_of_mem_entries hb below (by omega) method
  · rintro ⟨bound, lastMethod⟩
    refine ⟨lastMethod.le, ?_⟩
    have positive := b.line_lt_stop
    rcases Block.stop_of_mem_entries hb with stop | method
    · omega
    · apply Nat.le_of_not_lt
      intro beyond
      have := lastMethod.last b.stop (by omega) method
      omega

/-- The entry that is found for a line is the one that has it. -/
theorem entryAt?_eq_some {line : Nat} {e : Entry} :
    d.entryAt? line = some e ↔ e ∈ d.entries ∧ e.span.spansLine line = true :=
  find?_eq_some_iff_of_pairwise (entries_apart h line)

/-- The request that is found for a line is the one that starts on it. -/
theorem requestAt?_eq_some {line : Nat} {q : Request} :
    d.requestAt? line = some q ↔ ∃ e ∈ d.entries, e.request = q ∧ q.span.start.line = line := by
  have starts (e : Entry) (he : e ∈ d.entries) :
      e.request.method.span.start.line = e.request.span.start.line := by
    obtain ⟨_, _, written⟩ := exists_methodLine h he
    rw [written.method, written.start]
    rfl
  have apart : (d.entries.map Entry.request).Pairwise fun q r =>
      ¬ ((q.method.span.start.line == line) = true ∧
        (r.method.span.start.line == line) = true) := by
    obtain ⟨nested, inOrder⟩ := entries_inOrder h
    apply List.pairwise_map.mpr
    apply inOrder.imp_of_mem
    intro e f he hf lt
    have := (nested e he).request_lines
    have := (nested f hf).request_lines
    simp only [beq_iff_eq]
    omega
  rw [requestAt?, find?_eq_some_iff_of_pairwise apart, List.mem_map, beq_iff_eq]
  constructor
  · rintro ⟨⟨e, he, rfl⟩, here⟩
    exact ⟨e, he, rfl, (starts e he).symm.trans here⟩
  · rintro ⟨e, he, rfl, here⟩
    exact ⟨⟨e, he, rfl⟩, (starts e he).trans here⟩

/-- A region that all requests read off their method line in one way. -/
theorem any_contains_iff {region : Request → Span} {first last : String → Nat}
    (ordered : ∀ text, first text ≤ last text)
    (read : ∀ line text q, q.WrittenOn line text →
      region q = .onLine line (first text) (last text)) (p : Point) :
    (d.entries.any fun e => (region e.request).contains p) = true ↔
      ∃ text, MethodLine ls p.line text ∧ first text ≤ p.col ∧ p.col ≤ last text := by
  rw [List.any_eq_true]
  constructor
  · rintro ⟨e, he, inside⟩
    obtain ⟨text, line, written⟩ := exists_methodLine h he
    rw [read _ _ _ written, Span.contains_onLine (ordered text)] at inside
    obtain ⟨here, columns⟩ := inside
    exact ⟨text, here ▸ line, columns⟩
  · rintro ⟨text, line, columns⟩
    obtain ⟨e, he, _, written⟩ := exists_entry_of_methodLine h line
    refine ⟨e, he, ?_⟩
    rw [read _ _ _ written, Span.contains_onLine (ordered text)]
    exact ⟨rfl, columns⟩

theorem onMethod_iff (p : Point) : d.onMethod p = true ↔ p.line = 0 ∧ p.col ≤ 3 ∨
    ∃ text, MethodLine ls p.line text ∧ indent text.toList ≤ p.col ∧
      p.col ≤ indent text.toList + (firstWord text.toList).length := by
  rw [← any_contains_iff h (fun _ => Nat.le_add_right _ _)
    (fun _ _ _ written => congrArg Word.span written.method)]
  simp only [onMethod, Bool.or_eq_true, Bool.and_eq_true, beq_iff_eq, decide_eq_true_eq]
  rfl

theorem onTarget_iff (p : Point) : d.onTarget p = true ↔
    ∃ text, MethodLine ls p.line text ∧
      min (indent text.toList + (firstWord text.toList).length + 1) text.length ≤ p.col ∧
      p.col ≤ text.length := by
  rw [← any_contains_iff h (fun _ => Nat.min_le_right _ _)
    (fun _ _ _ written => congrArg Word.span written.target)]
  rfl

/-- The request that is found for a method line is written on it. -/
theorem exists_request_of_methodLine {line : Nat} {text : String} (here : MethodLine ls line text) :
    ∃ q, d.requestAt? line = some q ∧ q.WrittenOn line text := by
  obtain ⟨e, he, _, written⟩ := exists_entry_of_methodLine h here
  exact ⟨e.request, (requestAt?_eq_some h).mpr ⟨e, he, rfl, written.start⟩, written⟩

theorem isSome_requestAt? {line : Nat} :
    (d.requestAt? line).isSome = true ↔ kindAt? ls line = some .method := by
  rw [Option.isSome_iff_exists]
  constructor
  · rintro ⟨q, found⟩
    obtain ⟨e, he, rfl, here⟩ := (requestAt?_eq_some h).mp found
    obtain ⟨text, method, written⟩ := exists_methodLine h he
    rw [written.start] at here
    exact kindAt?_eq_method.mpr ⟨text, here ▸ method⟩
  · intro method
    obtain ⟨text, here⟩ := kindAt?_eq_method.mp method
    obtain ⟨q, found, _⟩ := exists_request_of_methodLine h here
    exact ⟨q, found⟩

theorem isSome_entryAt? {line : Nat} :
    (d.entryAt? line).isSome = true ↔
      line < ls.length ∧ ∃ m ≤ line, kindAt? ls m = some .method := by
  rw [Option.isSome_iff_exists]
  constructor
  · rintro ⟨e, found⟩
    obtain ⟨he, spans⟩ := (entryAt?_eq_some h).mp found
    obtain ⟨bound, lastMethod⟩ := (spansLine_entry_iff h he).mp spans
    exact ⟨bound, _, lastMethod.le, lastMethod.method⟩
  · rintro ⟨bound, m, le, method⟩
    obtain ⟨last, lastMethod⟩ := exists_lastMethod le method
    obtain ⟨e, he, rfl⟩ := exists_entry h lastMethod.method
    exact ⟨e, (entryAt?_eq_some h).mpr ⟨he, (spansLine_entry_iff h he).mpr ⟨bound, lastMethod⟩⟩⟩

/-- On a method line, the regions of method and target share a column only if nothing stands behind
the method, and then its end. -/
theorem onMethod_and_onTarget_iff {p : Point} (later : ¬ (p.line = 0 ∧ p.col ≤ 3)) :
    d.onMethod p = true ∧ d.onTarget p = true ↔
      ∃ text, MethodLine ls p.line text ∧ afterFirstWord text.toList = [] ∧
        p.col = indent text.toList + (firstWord text.toList).length := by
  rw [onMethod_iff h, or_iff_right later, onTarget_iff h]
  constructor
  · rintro ⟨⟨text, line, first, last⟩, text', line', first', last'⟩
    obtain rfl := Option.some.inj (line.here.symm.trans line'.here)
    have length := indent_add_length_words text.toList
    rw [String.length_toList] at length
    refine ⟨text, line, List.eq_nil_of_length_eq_zero ?_, ?_⟩
    · omega
    · omega
  · rintro ⟨text, line, none, col⟩
    have length := indent_add_length_words text.toList
    rw [String.length_toList, none, List.length_nil] at length
    exact ⟨⟨text, line, by omega, by omega⟩, text, line, by omega, by omega⟩

end

/-- A request is found for the method lines only, and it is the one that starts there. An entry is
found for the lines of the file that have a method line at or above them, and it is the one that
starts on the last of these. The method has the columns of the first word of its line and the
column behind it, and the start of the first line counts as a method too. The target has the columns
from the second one behind the method on to the end of the line, or the end alone. So elsewhere than
at the start of the file, a point is on a method and on a target only at the end of a line that ends
with its method. -/
theorem requests_found (h : ofLines ls = .ok d) :
    (∀ line, ((d.requestAt? line).isSome = true ↔ kindAt? ls line = some .method) ∧
      ∀ q, d.requestAt? line = some q ↔
        ∃ e ∈ d.entries, e.request = q ∧ q.span.start.line = line) ∧
    (∀ line, ((d.entryAt? line).isSome = true ↔
        line < ls.length ∧ ∃ m ≤ line, kindAt? ls m = some .method) ∧
      ∀ e, d.entryAt? line = some e ↔
        e ∈ d.entries ∧ line < ls.length ∧ LastMethod ls line e.span.start.line) ∧
    (∀ p : Point, d.onMethod p = true ↔ p.line = 0 ∧ p.col ≤ 3 ∨
      ∃ text, MethodLine ls p.line text ∧ indent text.toList ≤ p.col ∧
        p.col ≤ indent text.toList + (firstWord text.toList).length) ∧
    (∀ p : Point, d.onTarget p = true ↔ ∃ text, MethodLine ls p.line text ∧
      min (indent text.toList + (firstWord text.toList).length + 1) text.length ≤ p.col ∧
      p.col ≤ text.length) ∧
    ∀ p : Point, ¬ (p.line = 0 ∧ p.col ≤ 3) →
      (d.onMethod p = true ∧ d.onTarget p = true ↔
        ∃ text, MethodLine ls p.line text ∧ afterFirstWord text.toList = [] ∧
          p.col = indent text.toList + (firstWord text.toList).length) := by
  refine ⟨?_, ?_, onMethod_iff h, onTarget_iff h, fun p => onMethod_and_onTarget_iff h⟩
  · intro line
    exact ⟨isSome_requestAt? h, fun q => requestAt?_eq_some h⟩
  · intro line
    refine ⟨isSome_entryAt? h, ?_⟩
    intro e
    rw [entryAt?_eq_some h]
    constructor
    · rintro ⟨he, spans⟩
      exact ⟨he, (spansLine_entry_iff h he).mp spans⟩
    · rintro ⟨he, last⟩
      exact ⟨he, (spansLine_entry_iff h he).mpr last⟩

/-- A stray line, an indented method without a target, and a second request behind a body. -/
theorem requests_found_indented : ∃ d,
    ofLines ["stray", "  GET", "HTTP/1.1 200", "", "text", "POST /a  "] = .ok d ∧
    (d.requestAt? 1).isSome = true ∧ (d.requestAt? 2).isSome ≠ true ∧
    (d.entryAt? 0).isSome ≠ true ∧ (d.entryAt? 4).isSome = true ∧
    d.onMethod ⟨1, 5⟩ = true ∧ d.onTarget ⟨1, 5⟩ = true ∧ d.onTarget ⟨5, 9⟩ = true := by
  have read : (ofLines ["stray", "  GET", "HTTP/1.1 200", "", "text",
      "POST /a  "]).isOk = true := by decide +kernel
  obtain ⟨d, h⟩ := exists_of_isOk read
  obtain ⟨request, entry, _, target, both⟩ := requests_found h
  have method : kindAt? ["stray", "  GET", "HTTP/1.1 200", "", "text", "POST /a  "] 1 =
      some .method := by decide +kernel
  obtain ⟨onMethod, onTarget⟩ := (both ⟨1, 5⟩ (by decide)).mpr
    ⟨"  GET", ⟨rfl, by decide +kernel⟩, by decide +kernel, by decide +kernel⟩
  refine ⟨d, h, (request 1).1.mpr method, ?_, ?_,
    (entry 4).1.mpr ⟨by decide, 1, by decide, method⟩, onMethod, onTarget,
    (target ⟨5, 9⟩).mpr ⟨"POST /a  ", ⟨rfl, by decide +kernel⟩, by decide +kernel⟩⟩
  · rw [Ne, (request 2).1]
    decide +kernel
  · rw [Ne, (entry 0).1]
    decide +kernel

end Document

end HurlAssist
