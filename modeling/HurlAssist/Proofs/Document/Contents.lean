import HurlAssist.Proofs.Document.SectionLines

/-!
The contents of a file: what stands under its method and status lines. Each content is made by lines
of the file that have no method line among them (`Document.exists_lines`), and each section by a block
of such lines (`Document.exists_sectionBlock`).
-/

namespace HurlAssist

open LineRange

/-- The contents of all requests and responses, in the order of the file. -/
def Document.contents (d : Document) : List Content :=
  d.entries.flatMap fun e => e.request.content :: (e.response.map (·.content)).toList

section

variable {ls : List String} {b : Block} {e : Entry} (hb : b ∈ Block.entries 0 ls)
  (made : Entry.ofBlock b = .ok e)

include hb made

theorem Entry.exists_requestLines : ∃ n xs, Stands ls n xs ∧ (∀ l ∈ xs, Line.kind l ≠ .method) ∧
    e.request.content = Content.empty.addLines n xs := by
  have stands := Block.stands_upToStatus (Block.stands_of_mem_cut (Stands.all ls) hb)
  refine ⟨_, _, stands.tail, fun l => Block.not_method_of_mem_upToStatus hb, ?_⟩
  rw [(ofBlock_eq_ok made).1]
  rfl

theorem Entry.exists_responseLines {p : Response} (response : e.response = some p) :
    ∃ n xs, Stands ls n xs ∧ (∀ l ∈ xs, Line.kind l ≠ .method) ∧
      p.content = Content.empty.addLines n xs := by
  obtain ⟨r, found, responseMade⟩ := exists_responseBlock made response
  have stands := Block.stands_fromStatus? (Block.stands_of_mem_cut (Stands.all ls) hb) found
  exact ⟨_, _, stands.tail, fun l => Block.not_method_of_mem_fromStatus? hb found,
    (Response.ofBlock_eq_ok responseMade).2⟩

end

namespace Document

variable {ls : List String} {d : Document} {c : Content}

theorem mem_contents : c ∈ d.contents ↔
    ∃ e ∈ d.entries, c = e.request.content ∨ ∃ p, e.response = some p ∧ c = p.content := by
  simp only [contents, List.mem_flatMap, List.mem_cons, Option.mem_toList,
    Option.map_eq_some_iff, eq_comm (a := c)]

theorem exists_content_of_mem_responseSections {s : Section} (hs : s ∈ d.responseSections) :
    ∃ c ∈ d.contents, s ∈ c.sections := by
  obtain ⟨p, hp, hs⟩ := mem_responseSections.mp hs
  obtain ⟨e, he, response⟩ := mem_responses.mp hp
  exact ⟨p.content, mem_contents.mpr ⟨e, he, .inr ⟨p, response, rfl⟩⟩, hs⟩

variable (h : ofLines ls = .ok d)

include h

/-- The lines that make a content. -/
theorem exists_lines (hc : c ∈ d.contents) : ∃ n xs, Stands ls n xs ∧
    (∀ l ∈ xs, Line.kind l ≠ .method) ∧ c = Content.empty.addLines n xs := by
  obtain ⟨e, he, rfl | ⟨p, response, rfl⟩⟩ := mem_contents.mp hc
  · obtain ⟨b, hb, made⟩ := exists_block_of_entry h he
    exact Entry.exists_requestLines hb made
  · obtain ⟨b, hb, made⟩ := exists_block_of_entry h he
    exact Entry.exists_responseLines hb made response

/-- The block that makes a section. -/
theorem exists_sectionBlock (hc : c ∈ d.contents) {s : Section} (hs : s ∈ c.sections) :
    ∃ b, s = Section.ofBlock b ∧ Stands ls b.line b.lines ∧ Line.kind b.head = .sectionHeader ∧
      ∀ l ∈ b.rest, (Line.kind l).endsSection = false := by
  obtain ⟨n, xs, stands, inside, rfl⟩ := exists_lines h hc
  exact Content.exists_sectionBlock stands inside hs

end Document

end HurlAssist
