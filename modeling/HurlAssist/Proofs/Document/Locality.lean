import HurlAssist.Proofs.Document.Edit
import HurlAssist.Proofs.Document.Tiling

/-!
Entries are read on their own. Lines that start with a method line come to the same entries
wherever they stand, only further down (`ofLines_append`), so that putting other lines in the place
of an entry leaves all other entries as they are (`entries_on_their_own`).
-/

namespace HurlAssist

open LineRange

/-- A point `n` lines further down. -/
def Point.moved (n : Nat) (p : Point) : Point := ⟨p.line + n, p.col⟩

/-- A region `n` lines further down. -/
def Span.moved (n : Nat) (s : Span) : Span := ⟨s.start.moved n, s.stop.moved n⟩

/-- An entry with all of its regions `n` lines further down. -/
def Entry.moved (n : Nat) (e : Entry) : Entry := e.map (Span.moved n) id

namespace Point

variable {n : Nat} {p q : Point}

theorem moved_le_moved : p.moved n ≤ q.moved n ↔ p ≤ q := by
  simp [le_iff, moved]

theorem moved_earlier : (p.earlier q).moved n = (p.moved n).earlier (q.moved n) := by
  simp only [earlier, moved_le_moved]
  split <;> rfl

theorem moved_later : (p.later q).moved n = (p.moved n).later (q.moved n) := by
  simp only [later, moved_le_moved]
  split <;> rfl

end Point

namespace Span

theorem moved_close (n : Nat) (s : Span) (line col : Nat) :
    (s.close line col).moved n = (s.moved n).close (line + n) col := by
  have last : max (line + n) (s.start.line + n) = max line s.start.line + n :=
    Nat.add_max_add_right line s.start.line n
  simp only [close, moved, Point.moved, last, Nat.add_right_cancel_iff]

theorem moved_join (n : Nat) (s t : Span) :
    (s.join t).moved n = (s.moved n).join (t.moved n) := by
  simp only [join, moved, Point.moved_earlier, Point.moved_later]

end Span

/-- The edit that puts `n` lines in front. -/
def Edit.moving (n : Nat) : Edit where
  line := id
  down := n
  before := Span.moved n
  after := id
  readsAs _ := ⟨rfl, rfl, rfl, rfl, rfl, rfl, rfl⟩
  onLine _ _ _ _ := rfl
  close line l same := by
    rw [Span.moved_close, ← same]
    rfl
  join same same' := by
    rw [Span.moved_join, ← same, ← same']
    rfl

/-- Blocks further down make the same entries further down. -/
theorem Entry.ofBlocks_moving (n : Nat) (bs : List Block) :
    ofBlocks (bs.map (Edit.moving n).block) =
      ((ofBlocks bs).mapError (·.moved n)).map (List.map (·.moved n)) := by
  -- Both maps on the left of `same` leave everything as it is.
  have same := Edit.ofBlocks_block (e := Edit.moving n) bs
  have asIs : (·.map id id) = (id : Entry → Entry) := funext map_id
  have keep (x : Except ParseError (List Entry)) : x.map id = x := by cases x <;> rfl
  simp only [Edit.moving, asIs, List.map_id_fun] at same
  rw [keep] at same
  exact same

theorem Entry.ofBlocks_append (bs cs : List Block) :
    ofBlocks (bs ++ cs) =
      match ofBlocks bs with
      | .error e => .error e
      | .ok es => (ofBlocks cs).map (es ++ ·) := by
  induction bs with
  | nil =>
    simp only [List.nil_append, ofBlocks]
    cases ofBlocks cs <;> rfl
  | cons b bs ih =>
    simp only [List.cons_append, ofBlocks, ih]
    cases ofBlock b with
    | error e => rfl
    | ok entry =>
      cases ofBlocks bs with
      | error e => rfl
      | ok es => cases ofBlocks cs <;> rfl

/-- Lines that start with a method line make their own entries. -/
theorem Block.entries_append (ls : List String) {more : List String}
    (h : kindAt? more 0 = some .method) :
    entries 0 (ls ++ more) =
      entries 0 ls ++ (entries 0 more).map (Edit.moving ls.length).block := by
  cases more with
  | nil => cases h
  | cons l more =>
    have method : (Line.kind l == .method) = true := beq_of_eq (Option.some.inj h)
    have down := Redraft.entries_map (r := (Edit.moving ls.length).toRedraft) 0 (l :: more)
    rw [← down, entries, cut_append_head method, entries, entries]
    simp [Edit.moving]

namespace Document

variable {ls more : List String}

theorem stop_spanOf_append (ls : List String) (h : more ≠ []) :
    (spanOf (ls ++ more)).stop = ((spanOf more).moved ls.length).stop := by
  have pos := List.length_pos_of_ne_nil h
  have length : (ls ++ more).length - 1 = more.length - 1 + ls.length := by
    rw [List.length_append]
    omega
  rw [spanOf, spanOf, List.getLast?_append_of_ne_nil ls h, List.getLast?_eq_some_getLast h, length]
  rfl

/-- What the two parts of a file come to, the second of them behind `n` lines: what fails first
decides, and the entries of the second part follow those of the first, further down. -/
def joined (n : Nat) (first second : Except ParseError Document) : Except ParseError Document :=
  match first with
  | .error e => .error e
  | .ok a =>
    match second with
    | .error e => .error (e.moved n)
    | .ok b => .ok ⟨a.entries ++ b.entries.map (·.moved n), ⟨a.span.start, (b.span.moved n).stop⟩⟩

theorem ofLines_append (ls : List String) (h : kindAt? more 0 = some .method) :
    ofLines (ls ++ more) = joined ls.length (ofLines ls) (ofLines more) := by
  have ne : more ≠ [] := by
    rintro rfl
    cases h
  have span : spanOf (ls ++ more) = ⟨(spanOf ls).start, ((spanOf more).moved ls.length).stop⟩ := by
    rw [← stop_spanOf_append ls ne, start_spanOf, ← start_spanOf (ls ++ more)]
  rw [ofLines_eq, ofLines_eq, ofLines_eq, Block.entries_append ls h, Entry.ofBlocks_append,
    Entry.ofBlocks_moving, span]
  cases Entry.ofBlocks (Block.entries 0 ls) with
  | error e => rfl
  | ok es => cases Entry.ofBlocks (Block.entries 0 more) <;> rfl

/-- The entries of a file in two parts, the second of which is empty or starts an entry. -/
theorem entries_of_append {d : Document} (h : more = [] ∨ kindAt? more 0 = some .method)
    (read : ofLines (ls ++ more) = .ok d) :
    ∃ a b, ofLines ls = .ok a ∧ ofLines more = .ok b ∧
      d.entries = a.entries ++ b.entries.map (·.moved ls.length) := by
  rcases h with rfl | method
  · rw [List.append_nil] at read
    have nothing : ofLines [] = .ok ⟨[], .zero⟩ := (ofLines_eq []).trans rfl
    exact ⟨d, ⟨[], .zero⟩, read, nothing, (List.append_nil _).symm⟩
  · rw [ofLines_append ls method] at read
    unfold joined at read
    split at read
    · cases read
    · rename_i a first
      split at read
      · cases read
      · rename_i b second
        cases read
        exact ⟨a, b, first, second, rfl⟩

/-- A file that goes on with a method line fails where its first part does, or else where its second
part does, further down, or else has the entries of both. So whatever takes the place of some
entries, the entries in front of them stay as they are, and those behind them stay but for their
line numbers. -/
theorem entries_on_their_own :
    (∀ ls more, kindAt? more 0 = some .method →
      ofLines (ls ++ more) = joined ls.length (ofLines ls) (ofLines more)) ∧
    ∀ front old new back, kindAt? old 0 = some .method → kindAt? new 0 = some .method →
      (back = [] ∨ kindAt? back 0 = some .method) →
      ∀ d d', ofLines (front ++ old ++ back) = .ok d → ofLines (front ++ new ++ back) = .ok d' →
        ∃ a m m' b, ofLines front = .ok a ∧ ofLines old = .ok m ∧ ofLines new = .ok m' ∧
          ofLines back = .ok b ∧
          d.entries = a.entries ++ m.entries.map (·.moved front.length) ++
            b.entries.map (·.moved (front ++ old).length) ∧
          d'.entries = a.entries ++ m'.entries.map (·.moved front.length) ++
            b.entries.map (·.moved (front ++ new).length) := by
  refine ⟨fun ls more h => ofLines_append ls h, ?_⟩
  intro front old new back hold hnew hback d d' read read'
  obtain ⟨x, b, readx, readb, entries⟩ := entries_of_append hback read
  obtain ⟨a, m, reada, readm, entriesx⟩ := entries_of_append (.inr hold) readx
  obtain ⟨x', b', readx', readb', entries'⟩ := entries_of_append hback read'
  obtain ⟨a', m', reada', readm', entriesx'⟩ := entries_of_append (.inr hnew) readx'
  obtain rfl := Except.ok.inj (reada.symm.trans reada')
  obtain rfl := Except.ok.inj (readb.symm.trans readb')
  refine ⟨a, m, m', b, reada, readm, readm', readb, ?_, ?_⟩
  · rw [entries, entriesx]
  · rw [entries', entriesx']

/-- An entry with a section and a blank line at its end, in front of an indented one; and an entry
between two others, with a longer and a shorter one in its place. -/
theorem entries_on_their_own_two :
    (kindAt? ["  POST /b", "x: 1"] 0 = some .method ∧
      ofLines (["stray", "GET /a", "HTTP/1.1 200", "[Captures]", "id: body", ""] ++
        ["  POST /b", "x: 1"]) =
        joined 6 (ofLines ["stray", "GET /a", "HTTP/1.1 200", "[Captures]", "id: body", ""])
          (ofLines ["  POST /b", "x: 1"])) ∧
    ∃ d d', ofLines (["GET /a"] ++ ["POST /b", "", "HTTP/1.1 200"] ++ ["GET /c"]) = .ok d ∧
      ofLines (["GET /a"] ++ ["PUT /b", "[Query]"] ++ ["GET /c"]) = .ok d' ∧
      ∃ a m m' b : Document,
        d.entries = a.entries ++ m.entries.map (·.moved 1) ++ b.entries.map (·.moved 4) ∧
        d'.entries = a.entries ++ m'.entries.map (·.moved 1) ++ b.entries.map (·.moved 3) := by
  have starts : kindAt? ["  POST /b", "x: 1"] 0 = some .method := by decide
  have read : (ofLines (["GET /a"] ++ ["POST /b", "", "HTTP/1.1 200"] ++ ["GET /c"])).isOk =
      true := by
    decide +kernel
  have read' : (ofLines (["GET /a"] ++ ["PUT /b", "[Query]"] ++ ["GET /c"])).isOk = true := by
    decide +kernel
  obtain ⟨d, h⟩ := exists_of_isOk read
  obtain ⟨d', h'⟩ := exists_of_isOk read'
  obtain ⟨a, m, m', b, _, _, _, _, entries, entries'⟩ := entries_on_their_own.2 ["GET /a"] _ _
    ["GET /c"] (by decide) (by decide) (.inr (by decide)) d d' h h'
  exact ⟨⟨starts, entries_on_their_own.1 _ _ starts⟩, d, d', h, h', a, m, m', b, entries, entries'⟩

end Document

end HurlAssist
