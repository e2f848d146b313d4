import Mathlib.Data.List.Forall2
import HurlAssist.Proofs.Document.OnePass

/-!
What a block makes: the parts of its entry, and the lines that they cover.
-/

namespace HurlAssist

open LineRange

/-- Two regions one of which starts and stops on later lines join to the end of that one. -/
theorem Span.join_of_lt {s t : Span} (hs : s.start.line < t.start.line)
    (ht : s.stop.line < t.stop.line) : s.join t = ⟨s.start, t.stop⟩ := by
  have first : s.start ≤ t.start := Point.le_iff.mpr (.inl (by omega))
  have last : s.stop ≤ t.stop := Point.le_iff.mpr (.inl (by omega))
  simp only [join, Point.earlier, Point.later, if_pos first, if_pos last]

namespace Block

theorem line_lt_stop (b : Block) : b.line < b.stop := by
  simp only [stop]
  omega

theorem stop_span (b : Block) (col : Nat) : (b.span col).stop.line + 1 = b.stop := by
  have := b.line_lt_stop
  simp only [span, Span.close, Span.onLine]
  omega

/-- Without a status line, all of the block is the request's. -/
theorem upToStatus_of_none {b : Block} (h : b.fromStatus? = none) : b.upToStatus = b := by
  have parts := List.takeWhile_append_dropWhile (p := fun l => Line.kind l != .status) (l := b.rest)
  unfold fromStatus? at h
  split at h
  · rename_i empty
    rw [empty, List.append_nil] at parts
    rw [upToStatus, parts]
  · cases h

/-- The response's part of the block stands right behind the request's and goes on to the end. -/
theorem fromStatus?_spec {b r : Block} (h : b.fromStatus? = some r) :
    r.line = b.upToStatus.stop ∧ r.stop = b.stop ∧ b.rest = b.upToStatus.rest ++ r.lines ∧
      Line.kind r.head = .status := by
  have parts := List.takeWhile_append_dropWhile (p := fun l => Line.kind l != .status) (l := b.rest)
  have head := List.head?_dropWhile_not (fun l => Line.kind l != .status) b.rest
  unfold fromStatus? at h
  split at h
  · cases h
  · rename_i l ls found
    cases h
    rw [found] at parts head
    have length := congrArg List.length parts
    refine ⟨rfl, ?_, parts.symm, by simpa using head⟩
    simp only [stop, upToStatus, List.length_append, List.length_cons] at length ⊢
    omega

/-- The lines of the response's part stand in the file from its number on. -/
theorem stands_fromStatus? {ls : List String} {b r : Block} (stands : Stands ls b.line b.lines)
    (h : b.fromStatus? = some r) : Stands ls r.line r.lines := by
  obtain ⟨line, _, rest, _⟩ := fromStatus?_spec h
  have inner : Stands ls (b.line + 1) (b.upToStatus.rest ++ r.lines) := rest ▸ stands.tail
  rw [line]
  exact inner.right

/-- Below its head, a file's block has no method line. -/
theorem not_method_of_mem_entries {ls : List String} {b : Block} (hb : b ∈ entries 0 ls) {i : Nat}
    (after : b.line < i) (before : i < b.stop) : kindAt? ls i ≠ some .method := by
  have stands := (stands_of_mem_cut (Stands.all ls) hb).tail
  obtain ⟨l, mem, hl⟩ := stands.exists_mem after before
  rw [kindAt?, hl]
  simpa using rest_of_mem_cut hb l mem

/-- No method line is below the head of the request's part of a file's block. -/
theorem not_method_of_mem_upToStatus {ls : List String} {b : Block} (hb : b ∈ entries 0 ls)
    {l : String} (hl : l ∈ b.upToStatus.rest) : Line.kind l ≠ .method := by
  simpa using rest_of_mem_cut hb l ((List.takeWhile_prefix _).mem hl)

/-- No method line is below the head of the response's part. -/
theorem not_method_of_mem_fromStatus? {ls : List String} {b r : Block} (hb : b ∈ entries 0 ls)
    (found : b.fromStatus? = some r) {l : String} (hl : l ∈ r.rest) : Line.kind l ≠ .method := by
  obtain ⟨_, _, rest, _⟩ := fromStatus?_spec found
  have inBlock : l ∈ b.rest := by
    rw [rest]
    exact List.mem_append_right _ (List.mem_cons_of_mem _ hl)
  simpa using rest_of_mem_cut hb l inBlock

/-- The lines of a file's block between its head and its first status line are neither method nor
status lines. -/
theorem upToStatus_plain {ls : List String} {b : Block} (hb : b ∈ entries 0 ls) {i : Nat}
    (after : b.line < i) (before : i < b.upToStatus.stop) :
    kindAt? ls i ≠ some .method ∧ kindAt? ls i ≠ some .status := by
  have stands := (stands_of_mem_cut (Stands.all ls) hb).tail
  obtain ⟨l, mem, hl⟩ := (stands.takeWhile _).exists_mem after before
  have method := not_method_of_mem_upToStatus hb mem
  have status := List.mem_takeWhile_imp mem
  rw [kindAt?, hl]
  simpa using And.intro method status

/-- The response's part starts on the first status line below the head. -/
theorem map_line_fromStatus? {ls : List String} {b : Block} (stands : Stands ls b.line b.lines) :
    b.fromStatus?.map line = first? (· == .status) ls (b.line + 1) b.stop := by
  rcases stands.tail.first?_cases rfl (· == .status) with
    ⟨behind, first, _⟩ | ⟨before, x, rest, behind, upTo, first, _⟩
  · rw [stop, first]
    simp only [fromStatus?, bne, behind]
    rfl
  · rw [stop, first]
    simp only [fromStatus?, upToStatus, bne, behind, upTo]
    rfl

/-- The request's part goes on to the first status line below the head, or to the end. -/
theorem stop_upToStatus {ls : List String} {b : Block} (stands : Stands ls b.line b.lines) :
    b.upToStatus.stop = (first? (· == .status) ls (b.line + 1) b.stop).getD b.stop := by
  rw [← map_line_fromStatus? stands]
  cases found : b.fromStatus? with
  | none =>
    rw [upToStatus_of_none found]
    rfl
  | some r => exact (fromStatus?_spec found).1.symm

end Block

/-- The region and the content of a response that a block makes. -/
theorem Response.ofBlock_eq_ok {b : Block} {p : Response} (h : ofBlock b = .ok p) :
    p.span = b.span (Text.indent b.head.toList) ∧
      p.content = Content.empty.addLines (b.line + 1) b.rest := by
  unfold ofBlock at h
  simp only at h
  split at h
  · cases h
  · cases h
    exact ⟨rfl, rfl⟩

/-- The parts of an entry that a block makes. -/
theorem Entry.ofBlock_eq_ok {b : Block} {e : Entry} (h : ofBlock b = .ok e) :
    e.request = Request.ofBlock b.upToStatus ∧
      (b.fromStatus? = none ∧ e.response = none ∧ e.span = e.request.span ∨
        ∃ r p, b.fromStatus? = some r ∧ Response.ofBlock r = .ok p ∧ e.response = some p ∧
          e.span = e.request.span.join p.span) := by
  unfold ofBlock at h
  simp only at h
  split at h
  · rename_i absent
    cases h
    exact ⟨rfl, .inl ⟨absent, rfl, rfl⟩⟩
  · rename_i r found
    split at h
    · cases h
    · rename_i p made
      cases h
      exact ⟨rfl, .inr ⟨r, p, found, made, rfl, rfl⟩⟩

/-- The response of an entry that a block makes is made by the second part of the block. -/
theorem Entry.exists_responseBlock {b : Block} {e : Entry} {p : Response} (h : ofBlock b = .ok e)
    (response : e.response = some p) :
    ∃ r, b.fromStatus? = some r ∧ Response.ofBlock r = .ok p := by
  obtain ⟨_, ⟨_, absent, _⟩ | ⟨r, p', found, made, present, _⟩⟩ := ofBlock_eq_ok h
  · rw [absent] at response
    cases response
  · rw [present] at response
    cases response
    exact ⟨r, found, made⟩

/-- An entry covers its block, and its request starts with it. -/
theorem Entry.span_of_ofBlock {b : Block} {e : Entry} (h : ofBlock b = .ok e) :
    e.span.start.line = b.line ∧ e.request.span.start.line = b.line ∧
      e.span.stop.line + 1 = b.stop := by
  obtain ⟨request, ⟨absent, _, span⟩ | ⟨r, p, found, made, _, span⟩⟩ := ofBlock_eq_ok h
  · rw [span, request, Block.upToStatus_of_none absent]
    exact ⟨rfl, rfl, Block.stop_span _ _⟩
  · obtain ⟨behind, stop, _, _⟩ := Block.fromStatus?_spec found
    have response := (Response.ofBlock_eq_ok made).1
    have first : e.request.span.start.line = b.line := by
      rw [request]
      rfl
    have upTo : e.request.span.stop.line + 1 = r.line := by
      rw [request, behind]
      exact Block.stop_span _ _
    have start : p.span.start.line = r.line := by
      rw [response]
      rfl
    have last : p.span.stop.line + 1 = r.stop := by
      rw [response]
      exact Block.stop_span _ _
    have requestLines := b.upToStatus.line_lt_stop
    have responseLines := r.line_lt_stop
    have own : b.upToStatus.line = b.line := rfl
    rw [span, Span.join_of_lt (by omega) (by omega)]
    exact ⟨first, first, last.trans stop⟩

theorem Entry.ofBlocks_eq_ok {bs : List Block} {es : List Entry} (h : ofBlocks bs = .ok es) :
    List.Forall₂ (fun b e => ofBlock b = .ok e) bs es := by
  induction bs generalizing es with
  | nil =>
    cases h
    exact .nil
  | cons b bs ih =>
    unfold ofBlocks at h
    split at h
    · cases h
    · rename_i e made
      split at h
      · cases h
      · rename_i es' others
        cases h
        exact .cons made (ih others)

end HurlAssist
