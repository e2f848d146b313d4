import HurlAssist.Proofs.Document.ContentLayout
import HurlAssist.Proofs.Document.Tiling

/-!
Where the parts of a response stand. A response starts on the first status line of its entry and
goes on to the end of the entry. A second status line does not end it: under headers or behind
sections such a line starts the body.
-/

namespace HurlAssist

open LineRange

/-- How a response takes up the lines from its status line `s` up to before `stop`. None of the
lines below its status line is a method line, so what starts a body is body text or a status
line. -/
structure Response.LaidOut (ls : List String) (s stop : Nat) (p : Response) : Prop where
  start : p.span.start.line = s
  last : p.span.stop.line + 1 = stop
  inside : ∀ i, s < i → i < stop → kindAt? ls i ≠ some .method
  content : ContentOf ls (s + 1) stop p.content

/-- A response is laid out over its part of a block. -/
theorem Response.laidOut_of_ofBlock {ls : List String} {b r : Block} {p : Response}
    (hb : b ∈ Block.entries 0 ls) (found : b.fromStatus? = some r) (made : ofBlock r = .ok p) :
    p.LaidOut ls r.line b.stop := by
  have stands := Block.stands_fromStatus? (Block.stands_of_mem_cut (Stands.all ls) hb) found
  obtain ⟨behind, stop, _, _⟩ := Block.fromStatus?_spec found
  obtain ⟨span, content⟩ := ofBlock_eq_ok made
  constructor
  · rw [span]
    rfl
  · rw [span, ← stop]
    exact Block.stop_span _ _
  · intro i after before
    have below : b.line < r.line := behind ▸ b.upToStatus.line_lt_stop
    exact Block.not_method_of_mem_entries hb (Nat.lt_trans below after) before
  · rw [content]
    exact ContentOf.addLines stands.tail stop

namespace Document

/-- In a file that is read, the response of an entry starts on the first status line below the
entry's method line and goes on to the end of the entry, right before the next method line or with
the file. What it holds is what its own lines make: headers, and then a body, or sections, or
sections and behind them, from a second status line on, a body. -/
theorem responses_laid_out {ls : List String} {d : Document} (h : ofLines ls = .ok d) {i : Nat}
    {e : Entry} (he : d.entries[i]? = some e) {p : Response} (hp : e.response = some p) :
    ∃ m s stop, (methodLines ls)[i]? = some m ∧
      stop = ((methodLines ls)[i + 1]?).getD ls.length ∧ e.span.stop.line + 1 = stop ∧
      first? (· == .status) ls (m + 1) stop = some s ∧ p.LaidOut ls s stop := by
  obtain ⟨b, hi, made, start, stop⟩ := exists_block h he
  have hb := List.mem_of_getElem? hi
  obtain ⟨_, ⟨_, absent, _⟩ | ⟨r, p', found, responseMade, present, _⟩⟩ := Entry.ofBlock_eq_ok made
  · rw [absent] at hp
    cases hp
  · rw [present] at hp
    cases hp
    refine ⟨b.line, r.line, b.stop, start, stop, (Entry.span_of_ofBlock made).2.2, ?_,
      Response.laidOut_of_ofBlock hb found responseMade⟩
    rw [← Block.map_line_fromStatus? (Block.stands_of_mem_cut (Stands.all ls) hb), found]
    rfl

theorem exists_response_of_isSome (ls : List String) (i : Nat)
    (h : ((ofLines ls).toOption.bind fun d => d.entries[i]?.bind Entry.response).isSome = true) :
    ∃ (d : Document) (e : Entry) (p : Response),
      ofLines ls = .ok d ∧ d.entries[i]? = some e ∧ e.response = some p := by
  cases read : ofLines ls with
  | error e =>
    rw [read] at h
    cases h
  | ok d =>
    rw [read] at h
    obtain ⟨p, hp⟩ := Option.isSome_iff_exists.mp h
    have here : d.entries[i]?.bind Entry.response = some p := hp
    obtain ⟨e, he, hp⟩ := Option.bind_eq_some_iff.mp here
    exact ⟨d, e, p, rfl, he, hp⟩

/-- Headers around a blank line, then two sections, then a second status line. -/
theorem responses_laid_out_second_status : ∃ (d : Document) (e : Entry) (p : Response),
    ofLines ["GET /a", "", "HTTP/1.1 200", "x: 1", "", "y: 2", "[Captures]", "id: body", "",
      "[Asserts]", "status == 200", "HTTP/1.1 500", "[End]", "GET /b"] = .ok d ∧
    d.entries[0]? = some e ∧ e.response = some p ∧ ∃ m s stop,
    (methodLines ["GET /a", "", "HTTP/1.1 200", "x: 1", "", "y: 2", "[Captures]", "id: body", "",
      "[Asserts]", "status == 200", "HTTP/1.1 500", "[End]", "GET /b"])[0]? = some m ∧
    p.LaidOut ["GET /a", "", "HTTP/1.1 200", "x: 1", "", "y: 2", "[Captures]", "id: body", "",
      "[Asserts]", "status == 200", "HTTP/1.1 500", "[End]", "GET /b"] s stop := by
  obtain ⟨d, e, p, h, he, hp⟩ := exists_response_of_isSome ["GET /a", "", "HTTP/1.1 200", "x: 1",
    "", "y: 2", "[Captures]", "id: body", "", "[Asserts]", "status == 200", "HTTP/1.1 500",
    "[End]", "GET /b"] 0 (by decide +kernel)
  obtain ⟨m, s, stop, hm, _, _, _, laid⟩ := responses_laid_out h he hp
  exact ⟨d, e, p, h, he, hp, m, s, stop, hm, laid⟩

end Document

end HurlAssist
