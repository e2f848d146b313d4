import Mathlib.Logic.ExistsUnique
import HurlAssist.Document.Query
import HurlAssist.Proofs.Document.EntryLayout

/-!
Entries tile a file by its method lines. Each entry starts on its method line and goes on to the
line before the next one, whatever stands between.
-/

namespace HurlAssist

open LineRange

/-- A place at or behind the first of some ascending starts lies in exactly one of the slots that
go from one start to the next, the last of them to `stop`. -/
theorem existsUnique_slot {starts : List Nat} (ascending : starts.Pairwise (· < ·)) {stop l : Nat}
    (hl : l < stop) (h : ∃ m ∈ starts, m ≤ l) :
    ∃! i, ∃ m, starts[i]? = some m ∧ m ≤ l ∧ l < (starts[i + 1]?).getD stop := by
  induction starts with
  | nil => simp at h
  | cons m ms ih =>
    obtain ⟨first, ascending⟩ := List.pairwise_cons.mp ascending
    by_cases later : ∃ m' ∈ ms, m' ≤ l
    · obtain ⟨i, slot, only⟩ := ih ascending later
      refine ⟨i + 1, slot, ?_⟩
      rintro (_ | j) ⟨m', hm', le, lt⟩
      · obtain ⟨m'', mem, le'⟩ := later
        cases ms with
        | nil => simp at mem
        | cons m₁ ms =>
          have : l < m₁ := lt
          rcases List.mem_cons.mp mem with rfl | mem
          · omega
          · have := (List.pairwise_cons.mp ascending).1 m'' mem
            omega
      · rw [only j ⟨m', hm', le, lt⟩]
    · have le : m ≤ l := by
        obtain ⟨m', mem, le⟩ := h
        rcases List.mem_cons.mp mem with rfl | mem
        · exact le
        · exact absurd ⟨m', mem, le⟩ later
      refine ⟨0, ⟨m, rfl, le, ?_⟩, ?_⟩
      · cases ms with
        | nil => exact hl
        | cons m₁ ms =>
          by_contra hm
          exact later ⟨m₁, List.mem_cons_self, by simpa using hm⟩
      · rintro (_ | j) ⟨m', hm', le', _⟩
        · rfl
        · exact absurd ⟨m', List.mem_of_getElem? hm', le'⟩ later

theorem map_line_entries (ls : List String) :
    (Block.entries 0 ls).map Block.line = methodLines ls := by
  rw [Block.entries, Block.map_line_cut, methodLines,
    (Stands.all ls).numbers_eq (Nat.zero_add _)]

/-- A block starts on each method line. -/
theorem exists_line_entries_iff {ls : List String} {m : Nat} :
    (∃ b ∈ Block.entries 0 ls, b.line = m) ↔ kindAt? ls m = some .method := by
  rw [← mem_methodLines, ← map_line_entries, List.mem_map]

/-- The block of an entry goes on to a method line, or to the end of the file. -/
theorem Block.stop_of_mem_entries {ls : List String} {b : Block} (hb : b ∈ entries 0 ls) :
    b.stop = ls.length ∨ kindAt? ls b.stop = some .method := by
  obtain ⟨i, hi⟩ := List.mem_iff_getElem?.mp hb
  have stop := stop_cut hi
  rw [Nat.zero_add, ← entries] at stop
  cases next : (entries 0 ls)[i + 1]? with
  | none =>
    rw [next] at stop
    exact .inl stop
  | some c =>
    rw [next] at stop
    exact .inr (exists_line_entries_iff.mp ⟨c, List.mem_of_getElem? next, stop.symm⟩)

/-- A result that passes a test is one. -/
theorem exists_of_any {ε α : Type} {x : Except ε α} {p : α → Bool}
    (h : x.toOption.any p = true) : ∃ a, x = .ok a ∧ p a = true := by
  cases x with
  | error e => cases h
  | ok a => exact ⟨a, rfl, h⟩

namespace Document

/-- The entries of a file that is read are made by the blocks at its method lines. -/
theorem forall₂_entries {ls : List String} {d : Document} (h : ofLines ls = .ok d) :
    List.Forall₂ (fun b e => Entry.ofBlock b = .ok e) (Block.entries 0 ls) d.entries := by
  rw [ofLines_eq] at h
  cases made : Entry.ofBlocks (Block.entries 0 ls) with
  | error e =>
    rw [made] at h
    cases h
  | ok es =>
    rw [made] at h
    cases h
    exact Entry.ofBlocks_eq_ok made

/-- The block that an entry is made from, and where the next one starts. -/
theorem exists_block {ls : List String} {d : Document} (h : ofLines ls = .ok d) {i : Nat}
    {e : Entry} (he : d.entries[i]? = some e) :
    ∃ b, (Block.entries 0 ls)[i]? = some b ∧ Entry.ofBlock b = .ok e ∧
      (methodLines ls)[i]? = some b.line ∧ b.stop = ((methodLines ls)[i + 1]?).getD ls.length := by
  have same := forall₂_entries h
  have starts := map_line_entries ls
  obtain ⟨hi, rfl⟩ := List.getElem?_eq_some_iff.mp he
  have hb : i < (Block.entries 0 ls).length := same.length_eq ▸ hi
  have hget : (Block.entries 0 ls)[i]? = some (Block.entries 0 ls)[i] := List.getElem?_eq_getElem hb
  refine ⟨(Block.entries 0 ls)[i], hget, same.get hb hi, ?_, ?_⟩
  · rw [← starts, List.getElem?_map, hget]
    rfl
  · rw [← starts, List.getElem?_map, Block.stop_cut hget, Nat.zero_add]
    rfl

/-- Each entry of a file that is read is made by one of the blocks. -/
theorem exists_block_of_entry {ls : List String} {d : Document} (h : ofLines ls = .ok d) {e : Entry}
    (he : e ∈ d.entries) : ∃ b ∈ Block.entries 0 ls, Entry.ofBlock b = .ok e := by
  obtain ⟨i, hi⟩ := List.mem_iff_getElem?.mp he
  obtain ⟨b, hb, made, _⟩ := exists_block h hi
  exact ⟨b, List.mem_of_getElem? hb, made⟩

/-- Each block of a file that is read makes one of its entries. -/
theorem exists_entry_of_block {ls : List String} {d : Document} (h : ofLines ls = .ok d) {b : Block}
    (hb : b ∈ Block.entries 0 ls) : ∃ e ∈ d.entries, Entry.ofBlock b = .ok e := by
  have same := forall₂_entries h
  obtain ⟨i, hi, rfl⟩ := List.mem_iff_getElem.mp hb
  have he : i < d.entries.length := same.length_eq ▸ hi
  exact ⟨d.entries[i], List.getElem_mem he, same.get hi he⟩

theorem length_entries {ls : List String} {d : Document} (h : ofLines ls = .ok d) :
    d.entries.length = (methodLines ls).length := by
  rw [← (forall₂_entries h).length_eq, ← map_line_entries, List.length_map]

theorem exists_of_isOk {ls : List String} (h : (ofLines ls).isOk = true) :
    ∃ d, ofLines ls = .ok d := by
  cases read : ofLines ls with
  | error e =>
    rw [read] at h
    cases h
  | ok d => exact ⟨d, rfl⟩

/-- There are as many entries as method lines, each entry and its request start on the method line
in their turn, and the entry ends right before the next method line, or with the file. So every
line from the first method line on is in exactly one entry. -/
theorem entries_tile {ls : List String} {d : Document} (h : ofLines ls = .ok d) :
    d.entries.length = ls.countP (fun l => Line.kind l == .method) ∧
    (∀ (i : Nat) (e : Entry), d.entries[i]? = some e →
      (methodLines ls)[i]? = some e.span.start.line ∧
      e.request.span.start.line = e.span.start.line ∧
      e.span.stop.line + 1 = ((methodLines ls)[i + 1]?).getD ls.length) ∧
    ∀ l < ls.length, (∃ m ∈ methodLines ls, m ≤ l) →
      ∃! i : Nat, ∃ e : Entry, d.entries[i]? = some e ∧ e.span.spansLine l = true := by
  have count := length_entries h
  have each (i : Nat) (e : Entry) (he : d.entries[i]? = some e) :
      (methodLines ls)[i]? = some e.span.start.line ∧
      e.request.span.start.line = e.span.start.line ∧
      e.span.stop.line + 1 = ((methodLines ls)[i + 1]?).getD ls.length := by
    obtain ⟨b, _, made, start, stop⟩ := exists_block h he
    obtain ⟨entryStart, requestStart, entryStop⟩ := Entry.span_of_ofBlock made
    exact ⟨entryStart ▸ start, requestStart.trans entryStart.symm, entryStop.trans stop⟩
  refine ⟨?_, each, ?_⟩
  · rw [count, methodLines, (Stands.all ls).numbers_eq (Nat.zero_add _), List.length_findIdxs]
  · intro l hl behind
    have ascending : (methodLines ls).Pairwise (· < ·) := numbers_ascending _ ls 0 ls.length
    obtain ⟨i, ⟨m, hm, le, lt⟩, only⟩ := existsUnique_slot ascending hl behind
    have hi : i < d.entries.length := count ▸ (List.getElem?_eq_some_iff.mp hm).1
    have he : d.entries[i]? = some d.entries[i] := List.getElem?_eq_getElem hi
    obtain ⟨start, _, stop⟩ := each i _ he
    refine ⟨i, ⟨d.entries[i], he, ?_⟩, ?_⟩
    · have := Option.some.inj (hm.symm.trans start)
      simp only [Span.spansLine, Bool.and_eq_true, decide_eq_true_eq]
      omega
    · rintro j ⟨e, he, spans⟩
      obtain ⟨start, _, stop⟩ := each j e he
      simp only [Span.spansLine, Bool.and_eq_true, decide_eq_true_eq] at spans
      exact only j ⟨e.span.start.line, start, spans.1, by omega⟩

/-- Two entries around stray lines, a body that holds a section header, and a second status line. -/
theorem entries_tile_two : ∃ d,
    ofLines ["stray", "GET /a", "", "text", "[Asserts]", "HTTP/1.1 200", "HTTP/1.1 500", "",
      "  POST /b", "x: y", ""] = .ok d ∧
    d.entries.length = 2 ∧
    ∃! i : Nat, ∃ e : Entry, d.entries[i]? = some e ∧ e.span.spansLine 7 = true := by
  have read : (ofLines ["stray", "GET /a", "", "text", "[Asserts]", "HTTP/1.1 200",
      "HTTP/1.1 500", "", "  POST /b", "x: y", ""]).isOk = true := by decide +kernel
  obtain ⟨d, h⟩ := exists_of_isOk read
  obtain ⟨count, _, covered⟩ := entries_tile h
  exact ⟨d, h, count.trans (by decide), covered 7 (by decide) ⟨1, by decide, by decide⟩⟩

end Document

end HurlAssist
