import HurlAssist.Proofs.Document.ContentReading

/-!
Reading a file in one pass comes to its layout in blocks. Requests, responses and entries take their
part of a block, and close it at its last line. Entry by entry, the whole file is read so
(`readAll_eq`).
-/

namespace HurlAssist

open Text Reading

/-- A request takes the lines up to a method or status line. -/
theorem Request.read_eq {r : Reading} {l : String} {ls : List String} (h : r.rest = l :: ls)
    (named : firstWord l.toList ≠ []) :
    ∃ q, Request.read r = .ok (q, r.past (l :: upTo LineKind.endsRequest r.next)) ∧
      q.close (r.past (l :: upTo LineKind.endsRequest r.next)) =
        Request.ofBlock ⟨r.line, l, upTo LineKind.endsRequest r.next⟩ := by
  have content := Content.read_eq_addLines (r := r.next) endsRequest_endsContent
    (show Content.empty.body = .none from rfl)
  have named' : ¬ (firstWord l.toList).isEmpty = true := by simpa using named
  refine ⟨_, by
    simp only [Request.read, text_of_rest h, content, if_neg named', past_cons h]
    rfl, ?_⟩
  simp only [Request.close, close_past]
  rfl

/-- A response takes the lines up to a method line. -/
theorem Response.read_eq {r : Reading} {l : String} {ls : List String} (h : r.rest = l :: ls) :
    (∃ e, Response.read r = .error e ∧
      Response.ofBlock ⟨r.line, l, upTo (· == .method) r.next⟩ = .error e) ∨
    ∃ p, Response.read r = .ok (p, r.past (l :: upTo (· == .method) r.next)) ∧
      Response.ofBlock ⟨r.line, l, upTo (· == .method) r.next⟩ =
        .ok (p.close (r.past (l :: upTo (· == .method) r.next))) := by
  have content := Content.read_eq_addLines (r := r.next) method_endsContent
    (show Content.empty.body = .none from rfl)
  by_cases hs : (firstWord (afterFirstWord l.toList)).isEmpty = true
  · left
    exact ⟨_, by simp only [Response.read, text_of_rest h, if_pos hs]; rfl,
      by simp only [Response.ofBlock, if_pos hs]⟩
  · right
    refine ⟨_, by
      simp only [Response.read, text_of_rest h, content, if_neg hs, past_cons h]
      rfl, ?_⟩
    simp only [Response.ofBlock, if_neg hs, Response.close, close_past]
    rfl

/-- The lines of a request, without its method line. -/
theorem plain_of_mem_upTo {r : Reading} {x : String} (h : x ∈ upTo LineKind.endsRequest r) :
    Line.kind x ≠ .status ∧ Line.kind x ≠ .method :=
  LineKind.endsRequest_eq_false.mp (by simpa using List.mem_takeWhile_imp h)

/-- Behind a request stands a status line, or the entry is over. -/
theorem behind_request {r after : Reading} (h : after = r.past (upTo LineKind.endsRequest r)) :
    after.skipBlank = after ∧
      (after.kind? = some .status ∨
        after.kind? ≠ some .status ∧ upTo (· == .method) after = []) := by
  cases hr : after.rest with
  | nil =>
    have skipped : after.skipBlank = after := by
      rw [skipBlank, takeWhile_eq, hr, List.takeWhile_nil, past_nil]
    exact ⟨skipped, .inr ⟨by simp [kind?, hr], by simp [upTo, hr]⟩⟩
  | cons l ls =>
    have ended := ends_of_rest_past_upTo (h ▸ hr)
    have skipped : after.skipBlank = after := by
      have none : after.rest.takeWhile (fun l => Line.kind l == .blank) = [] := by
        rw [hr, List.takeWhile_cons_of_neg]
        intro hk
        rw [beq_iff_eq.mp hk] at ended
        cases ended
      rw [skipBlank, takeWhile_eq, none, past_nil]
    refine ⟨skipped, ?_⟩
    rw [kind?_of_rest hr]
    rcases endsRequest_endsContent.only _ ended with hk | hk
    · exact .inr ⟨by simp [hk], upTo_of_ends hr (by simp [hk])⟩
    · exact .inl (by rw [hk])

/-- The block that starts on the next line. -/
def Reading.block (r : Reading) : Block := ⟨r.line, r.text, upTo (· == .method) r.next⟩

/-- In the block, the lines of the request come first. -/
theorem rest_block (r : Reading) :
    r.block.rest = upTo LineKind.endsRequest r.next ++
      upTo (· == .method) (r.next.past (upTo LineKind.endsRequest r.next)) := by
  have plain : ∀ x ∈ upTo LineKind.endsRequest r.next, (Line.kind x == .method) = false :=
    fun x hx => by simpa using (plain_of_mem_upTo hx).2
  have first : upTo LineKind.endsRequest r.next <+: r.next.rest := List.takeWhile_prefix _
  rw [Reading.block, upTo_past first plain]

theorem upToStatus_block (r : Reading) :
    r.block.upToStatus = ⟨r.line, r.text, upTo LineKind.endsRequest r.next⟩ := by
  have same : r.block.rest.takeWhile (fun l => Line.kind l != .status) =
      upTo LineKind.endsRequest r.next := by
    rw [Reading.block, upTo, upTo, List.takeWhile_takeWhile]
    congr 1
    funext l
    cases Line.kind l <;> rfl
  rw [Block.upToStatus, same]
  rfl

/-- Without a status line behind the request, the block has none. -/
theorem fromStatus?_block_none {r : Reading}
    (h : upTo (· == .method) (r.next.past (upTo LineKind.endsRequest r.next)) = []) :
    r.block.fromStatus? = none ∧ r.block.rest = upTo LineKind.endsRequest r.next := by
  have only : r.block.rest = upTo LineKind.endsRequest r.next := by
    rw [rest_block, h, List.append_nil]
  have all : r.block.rest.dropWhile (fun l => Line.kind l != .status) = [] := by
    rw [only, List.dropWhile_eq_nil_iff]
    intro x hx
    simpa using (plain_of_mem_upTo hx).1
  exact ⟨by rw [Block.fromStatus?, all], only⟩

/-- The block of the response starts behind the request. -/
theorem fromStatus?_block_some {r after : Reading} {s : String} {ls : List String}
    (ha : after = r.next.past (upTo LineKind.endsRequest r.next)) (hs : after.rest = s :: ls)
    (hk : Line.kind s = .status) :
    r.block.fromStatus? = some after.block ∧
      r.block.rest = upTo LineKind.endsRequest r.next ++ after.block.lines := by
  have behind : upTo (· == .method) after = after.block.lines := by
    rw [upTo_of_goes hs (by simp [hk]), Block.lines, Reading.block, text_of_rest hs]
  have parts : r.block.rest = upTo LineKind.endsRequest r.next ++ after.block.lines := by
    rw [rest_block, ← ha, behind]
  have dropped : r.block.rest.dropWhile (fun l => Line.kind l != .status) =
      after.block.lines := by
    rw [parts, List.dropWhile_append_of_pos fun x hx => by simpa using (plain_of_mem_upTo hx).1,
      Block.lines, List.dropWhile_cons_of_neg (by simp [Reading.block, text_of_rest hs, hk])]
  refine ⟨?_, parts⟩
  simp only [Block.fromStatus?, dropped, Block.lines, upToStatus_block]
  simp [Reading.block, Block.stop, ha, past, Reading.next]

/-- Method and status lines start with a word. -/
theorem Line.firstWord_ne_nil {l : String} (h : Line.kind l = .method ∨ Line.kind l = .status) :
    firstWord l.toList ≠ [] := by
  intro empty
  have method : Line.isMethod l = false := by simp [Line.isMethod, empty]
  have status : Line.isStatus l = false := by simp [Line.isStatus, empty, Line.afterHttp]
  simp only [Line.kind, method, status, Bool.false_eq_true, if_false] at h
  split at h
  · simp at h
  · split at h
    · simp at h
    · split at h <;> simp at h

/-- An entry takes the lines of its block, and is what the block makes. -/
theorem Entry.read_eq {r : Reading} {l : String} {ls : List String} (h : r.rest = l :: ls)
    (hk : Line.kind l = .method) :
    Entry.read r = (Entry.ofBlock r.block).map fun e => (e, r.past r.block.lines) := by
  obtain ⟨q, read, closed⟩ := Request.read_eq h (Line.firstWord_ne_nil (.inl hk))
  rw [past_cons h] at read closed
  rw [← text_of_rest h, ← upToStatus_block] at closed
  have all (xs : List String) : r.past (r.text :: xs) = r.next.past xs := by
    rw [text_of_rest h, past_cons h]
  generalize ha : r.next.past (upTo LineKind.endsRequest r.next) = after at read closed
  obtain ⟨skipped, status | ⟨other, ended⟩⟩ := behind_request ha.symm
  · cases hs : after.rest with
    | nil => simp [kind?, hs] at status
    | cons s more =>
      have hks : Line.kind s = .status := by simpa [kind?, hs] using status
      obtain ⟨found, parts⟩ := fromStatus?_block_some ha.symm hs hks
      have last : after.past after.block.lines = r.past r.block.lines := by
        rw [← ha, past_append, ha, ← parts, Block.lines, Reading.block, all]
      simp only [Entry.read, read, skipped, if_pos status, Entry.ofBlock, found, closed]
      have block : after.block = ⟨after.line, s, upTo (· == .method) after.next⟩ := by
        rw [Reading.block, text_of_rest hs]
      have taken : s :: upTo (· == .method) after.next = after.block.lines := by
        rw [block, Block.lines]
      rcases Response.read_eq hs with ⟨e, failed, failed'⟩ | ⟨p, ok, ok'⟩
      · rw [block, failed, failed']
        rfl
      · rw [block, ok, ok', taken, last]
        rfl
  · obtain ⟨absent, only⟩ := fromStatus?_block_none (ha ▸ ended)
    simp only [Entry.read, read, skipped, if_neg other, Entry.ofBlock, absent, closed]
    rw [Block.lines, only, ← ha]
    simp only [Except.map, Reading.block, all]

theorem Reading.rest_of_kind? {r : Reading} {k : LineKind} (h : r.kind? = some k) :
    ∃ l ls, r.rest = l :: ls ∧ Line.kind l = k := by
  cases hr : r.rest with
  | nil => simp [kind?, hr] at h
  | cons l ls =>
    rw [kind?_of_rest hr] at h
    exact ⟨l, ls, rfl, Option.some.inj h⟩

namespace Block

/-- Lines before a method line make no entry. -/
theorem entries_past {r : Reading} {xs : List String} (first : xs <+: r.rest)
    (h : ∀ l ∈ xs, Line.kind l ≠ .method) :
    entries r.line r.rest = entries (r.past xs).line (r.past xs).rest := by
  obtain ⟨more, hm⟩ := first
  have left : (r.past xs).rest = more := by simp only [past, ← hm, List.drop_left]
  rw [left, ← hm]
  exact cut_append r.line (fun l hl => by simpa using h l hl) more

theorem entries_skipBlank (r : Reading) :
    entries r.line r.rest = entries r.skipBlank.line r.skipBlank.rest := by
  rw [skipBlank, takeWhile_eq]
  apply entries_past (List.takeWhile_prefix _)
  intro l hl
  have blank : Line.kind l = .blank := by simpa using List.mem_takeWhile_imp hl
  simp [blank]

/-- The first entry that is left starts on a method line. -/
theorem entries_of_kind? {r : Reading} (h : r.kind? = some .method) :
    entries r.line r.rest =
      r.block :: entries (r.past r.block.lines).line (r.past r.block.lines).rest := by
  obtain ⟨l, ls, h, hk⟩ := rest_of_kind? h
  have first : r.block = ⟨r.line, l, ls.takeWhile fun l => !(Line.kind l == .method)⟩ := by
    rw [Reading.block, text_of_rest h, upTo, rest_next h]
  have plain : ∀ l ∈ r.block.rest, Line.kind l ≠ .method := fun l hl => by
    simpa using List.mem_takeWhile_imp hl
  have rest : r.block.rest <+: r.next.rest := List.takeWhile_prefix _
  have below := entries_past rest plain
  have all : r.next.past r.block.rest = r.past r.block.lines := by
    rw [Block.lines, ← past_cons h, first]
  rw [all, rest_next h] at below
  rw [← below, h, entries, cut_cons_head (by simp [hk]), first]
  rfl

end Block

theorem Entry.ofBlock_of_read_error {r : Reading} {e : ParseError}
    (hk : r.kind? = some .method) (h : read r = .error e) : ofBlock r.block = .error e := by
  obtain ⟨l, ls, hr, hl⟩ := rest_of_kind? hk
  rw [read_eq hr hl] at h
  cases hb : ofBlock r.block with
  | error e' =>
    rw [hb] at h
    cases h
    rfl
  | ok entry =>
    rw [hb] at h
    cases h

theorem Entry.ofBlock_of_read_ok {r after : Reading} {entry : Entry}
    (hk : r.kind? = some .method) (h : read r = .ok (entry, after)) :
    ofBlock r.block = .ok entry ∧ after = r.past r.block.lines := by
  obtain ⟨l, ls, hr, hl⟩ := rest_of_kind? hk
  rw [read_eq hr hl] at h
  cases hb : ofBlock r.block with
  | error e =>
    rw [hb] at h
    cases h
  | ok entry' =>
    rw [hb] at h
    cases h
    exact ⟨rfl, rfl⟩

/-- Reading entries to the end makes the entries of the blocks that are left. -/
theorem Entry.readAll_eq (r : Reading) :
    readAll r = ofBlocks (Block.entries r.line r.rest) := by
  fun_induction readAll r with
  | case1 r r' hk =>
    have empty : r'.rest = [] := by simpa [kind?] using hk
    rw [Block.entries_skipBlank, empty]
    rfl
  | case2 r r' e failed hk =>
    rw [Block.entries_skipBlank, Block.entries_of_kind? hk, ofBlocks,
      ofBlock_of_read_error hk failed]
  | case3 r r' entry after ok e failed hk ih =>
    obtain ⟨made, rfl⟩ := ofBlock_of_read_ok hk ok
    rw [Block.entries_skipBlank, Block.entries_of_kind? hk, ofBlocks, made, ← ih, failed]
  | case4 r r' entry after ok entries done hk ih =>
    obtain ⟨made, rfl⟩ := ofBlock_of_read_ok hk ok
    rw [Block.entries_skipBlank, Block.entries_of_kind? hk, ofBlocks, made, ← ih, done]
  | case5 r r' k hk other ih =>
    obtain ⟨l, ls, hr, hl⟩ := rest_of_kind? hk
    have passed := Block.entries_past (leads_of_rest hr) (by simpa [hl] using other)
    rw [Block.entries_skipBlank, passed, past_one hr, ih]

/-- A file is read as its blocks at the method lines. -/
theorem Document.ofLines_eq (ls : List String) :
    ofLines ls =
      (Entry.ofBlocks (Block.entries 0 ls)).map fun entries => ⟨entries, spanOf ls⟩ := by
  have made : Entry.readAll (.start ls) = Entry.ofBlocks (Block.entries 0 ls) :=
    Entry.readAll_eq (.start ls)
  rw [ofLines, made]
  cases Entry.ofBlocks (Block.entries 0 ls) <;> rfl

theorem Document.start_spanOf (ls : List String) : (spanOf ls).start = ⟨0, 0⟩ := by
  rw [spanOf]
  cases ls.getLast? <;> rfl

theorem Document.span_of_ofLines {ls : List String} {d : Document} (h : ofLines ls = .ok d) :
    d.span = spanOf ls := by
  rw [ofLines_eq] at h
  cases made : Entry.ofBlocks (Block.entries 0 ls) with
  | error e =>
    rw [made] at h
    cases h
  | ok es =>
    rw [made] at h
    cases h
    rfl

end HurlAssist
