import HurlAssist.Proofs.Document.ContentLayout
import HurlAssist.Proofs.Document.Tiling

/-!
Where the parts of an entry stand: the request goes on to the first status line behind its method
line, where the response starts, and its own lines are headers and then sections or a body.
-/

namespace HurlAssist

open LineRange

/-- The content of a request from the lines `a` up to before `b`: headers alone, or all lines from
the first that is neither a header line nor blank as a body, or sections from there on. -/
inductive RequestContentOf (ls : List String) (a b : Nat) : Content → Prop where
  | bare {h : Headers} (top : topEnd? ls a b = none) (headers : HeadersOf ls a b h) :
      RequestContentOf ls a b ⟨h, [], .none⟩
  | body {k : Nat} {h : Headers} {body : Body} (top : topEnd? ls a b = some k)
      (kind : kindAt? ls k = some .body) (headers : HeadersOf ls a k h)
      (lines : BodyOf ls k b body) : RequestContentOf ls a b ⟨h, [], body⟩
  | sections {k : Nat} {h : Headers} {ss : List Section} (top : topEnd? ls a b = some k)
      (kind : kindAt? ls k = some .sectionHeader) (headers : HeadersOf ls a k h)
      (sections : SectionsOf ls k b ss) : RequestContentOf ls a b ⟨h, ss, .none⟩

/-- How an entry takes up the lines from its method line `m` up to before `stop`. -/
structure Entry.LaidOut (ls : List String) (m stop : Nat) (e : Entry) : Prop where
  start : e.request.span.start.line = m
  response : e.response.map (·.span.start.line) = first? (· == .status) ls (m + 1) stop
  last : e.request.span.stop.line + 1 = (first? (· == .status) ls (m + 1) stop).getD stop
  content : RequestContentOf ls (m + 1) ((first? (· == .status) ls (m + 1) stop).getD stop)
    e.request.content

/-- A content without method and status lines is a request's. -/
theorem RequestContentOf.of_contentOf {ls : List String} {a b : Nat} {c : Content}
    (of : ContentOf ls a b c)
    (plain : ∀ i, a ≤ i → i < b → kindAt? ls i ≠ some .method ∧ kindAt? ls i ≠ some .status) :
    RequestContentOf ls a b c := by
  cases of with
  | bare top headers => exact .bare top headers
  | sections top kind headers _ sections => exact .sections top kind headers sections
  | body top other headers lines =>
    obtain ⟨start, stop, k, kind, notTop⟩ := mem_numbers.mp (first?_eq_some.mp top).1
    obtain ⟨method, status⟩ := plain _ start stop
    rw [kind] at other method status
    apply RequestContentOf.body top _ headers lines
    rw [kind]
    cases k with
    | body => rfl
    | keyValue => cases notTop
    | blank => cases notTop
    | sectionHeader => exact absurd rfl other
    | method => exact absurd rfl method
    | status => exact absurd rfl status
  | sectionsBody top _ _ behind _ _ =>
    obtain ⟨start, _, _⟩ := mem_numbers.mp (first?_eq_some.mp top).1
    obtain ⟨start', stop', k, kind, status⟩ := mem_numbers.mp (first?_eq_some.mp behind).1
    rw [eq_of_beq status] at kind
    exact absurd kind (plain _ (Nat.le_trans start start') stop').2

/-- An entry is laid out over its block. -/
theorem Entry.laidOut_of_ofBlock {ls : List String} {b : Block} {e : Entry}
    (hb : b ∈ Block.entries 0 ls) (made : ofBlock b = .ok e) : e.LaidOut ls b.line b.stop := by
  have stands := Block.stands_of_mem_cut (Stands.all ls) hb
  have upTo := Block.stop_upToStatus stands
  obtain ⟨request, parts⟩ := ofBlock_eq_ok made
  have content := ContentOf.addLines (stands.tail.takeWhile fun l => Line.kind l != .status) rfl
  constructor
  · rw [request]
    rfl
  · rw [← Block.map_line_fromStatus? stands]
    rcases parts with ⟨absent, response, _⟩ | ⟨r, p, found, responseMade, response, _⟩
    · rw [absent, response]
      rfl
    · rw [found, response, Option.map_some, Option.map_some,
        (Response.ofBlock_eq_ok responseMade).1]
      rfl
  · rw [← upTo, request]
    exact Block.stop_span _ _
  · rw [← upTo, request]
    exact .of_contentOf content fun i => Block.upToStatus_plain hb

namespace Document

/-- In a file that is read, each entry takes up the lines from its method line up to before the
next one, or to the end: the response starts on the first status line below the method line, the
request goes on to there, and its content is what its own lines make. -/
theorem entries_laid_out {ls : List String} {d : Document} (h : ofLines ls = .ok d) {i : Nat}
    {e : Entry} (he : d.entries[i]? = some e) :
    ∃ m, (methodLines ls)[i]? = some m ∧
      e.LaidOut ls m (((methodLines ls)[i + 1]?).getD ls.length) := by
  obtain ⟨b, hb, made, start, stop⟩ := exists_block h he
  refine ⟨b.line, start, ?_⟩
  rw [← stop]
  exact Entry.laidOut_of_ofBlock (List.mem_of_getElem? hb) made

/-- Headers around a comment, two sections, and a response. -/
theorem entries_laid_out_sections : ∃ (d : Document) (e : Entry),
    ofLines ["GET /a", "x: 1", "# note", "y: 2", "[Query]", "q: 1", "[Form]", "text",
      "HTTP/1.1 200"] = .ok d ∧ d.entries[0]? = some e ∧ ∃ m,
    (methodLines ["GET /a", "x: 1", "# note", "y: 2", "[Query]", "q: 1", "[Form]", "text",
      "HTTP/1.1 200"])[0]? = some m ∧
    e.LaidOut ["GET /a", "x: 1", "# note", "y: 2", "[Query]", "q: 1", "[Form]", "text",
      "HTTP/1.1 200"] m 9 := by
  have read : (ofLines ["GET /a", "x: 1", "# note", "y: 2", "[Query]", "q: 1", "[Form]", "text",
      "HTTP/1.1 200"]).isOk = true := by decide +kernel
  obtain ⟨d, h⟩ := exists_of_isOk read
  have one : 0 < d.entries.length := by
    rw [length_entries h]
    decide
  have he := List.getElem?_eq_getElem one
  exact ⟨d, d.entries[0], h, he, entries_laid_out h he⟩

end Document

end HurlAssist
