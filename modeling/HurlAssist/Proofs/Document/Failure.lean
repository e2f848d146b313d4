import HurlAssist.Proofs.Document.Tiling
import HurlAssist.Proofs.Text.Words

/-!
When a file cannot be read: exactly if the first status line of an entry is a single word. The
first such line is the one that is reported.
-/

namespace HurlAssist

open LineRange

/-- The first status line behind a method line, before any other method line. -/
structure Answers (ls : List String) (m s : Nat) : Prop where
  method : kindAt? ls m = some .method
  behind : m < s
  status : kindAt? ls s = some .status
  first : ∀ i, m < i → i < s → kindAt? ls i ≠ some .method ∧ kindAt? ls i ≠ some .status

/-- A line that answers a method line with one word. -/
def BareStatus (ls : List String) (s : Nat) : Prop :=
  (∃ m, Answers ls m s) ∧ ∃ text, ls[s]? = some text ∧ (Text.words text.toList).length = 1

/-- A method line has at most one answer. -/
theorem Answers.unique {ls : List String} {m s t : Nat} (hs : Answers ls m s)
    (ht : Answers ls m t) : s = t := by
  rcases Nat.lt_trichotomy s t with lt | eq | lt
  · exact absurd hs.status (ht.first s hs.behind lt).2
  · exact eq
  · exact absurd ht.status (hs.first t ht.behind lt).2

/-- The answer to a method line stands in its block. -/
theorem Answers.lt_stop {ls : List String} {b : Block} {s : Nat} (hb : b ∈ Block.entries 0 ls)
    (h : Answers ls b.line s) : s < b.stop := by
  have := b.line_lt_stop
  obtain ⟨l, hl, _⟩ := Option.map_eq_some_iff.mp h.status
  have inFile := (List.getElem?_eq_some_iff.mp hl).1
  by_contra outside
  rcases Block.stop_of_mem_entries hb with last | method
  · omega
  · rcases Nat.lt_or_eq_of_le (Nat.le_of_not_lt outside) with lt | same
    · exact (h.first b.stop (by omega) lt).1 method
    · rw [same, h.status] at method
      cases method

/-- Where the second part of a block starts, its method line is answered. -/
theorem answers_of_fromStatus? {ls : List String} {b r : Block} (hb : b ∈ Block.entries 0 ls)
    (hr : b.fromStatus? = some r) : Answers ls b.line r.line ∧ ls[r.line]? = some r.head := by
  have stands := Block.stands_of_mem_cut (Stands.all ls) hb
  obtain ⟨line, _, _, status⟩ := Block.fromStatus?_spec hr
  have here : ls[r.line]? = some r.head := (Block.stands_fromStatus? stands hr).head
  refine ⟨⟨?_, ?_, ?_, ?_⟩, here⟩
  · exact exists_line_entries_iff.mp ⟨b, hb, rfl⟩
  · exact line ▸ b.upToStatus.line_lt_stop
  · rw [kindAt?, here, ← status]
    rfl
  · intro i after before
    rw [line] at before
    exact Block.upToStatus_plain hb after before

/-- A method line is answered where the second part of its block starts. -/
theorem answers_iff {ls : List String} {m s : Nat} :
    Answers ls m s ↔
      ∃ b ∈ Block.entries 0 ls, b.line = m ∧ ∃ r, b.fromStatus? = some r ∧ r.line = s := by
  constructor
  · intro h
    obtain ⟨b, hb, rfl⟩ := exists_line_entries_iff.mpr h.method
    refine ⟨b, hb, rfl, ?_⟩
    cases hr : b.fromStatus? with
    | some r => exact ⟨r, rfl, (answers_of_fromStatus? hb hr).1.unique h⟩
    | none =>
      have stands := (Block.stands_of_mem_cut (Stands.all ls) hb).tail
      obtain ⟨l, mem, hl⟩ := stands.exists_mem h.behind (h.lt_stop hb)
      rw [← Block.upToStatus_of_none hr] at mem
      have other := List.mem_takeWhile_imp mem
      have status := h.status
      rw [kindAt?, hl] at status
      simp [Option.some.inj status] at other
  · rintro ⟨b, hb, rfl, r, hr, rfl⟩
    exact (answers_of_fromStatus? hb hr).1

theorem Response.ofBlock_eq_error {b : Block} {e : ParseError} :
    ofBlock b = .error e ↔ Text.firstWord (Text.afterFirstWord b.head.toList) = [] ∧
      e = .malformedStatusLine b.line (String.ofList (Text.trim b.head.toList)) := by
  unfold ofBlock
  by_cases bare : Text.firstWord (Text.afterFirstWord b.head.toList) = []
  · simp [bare, eq_comm]
  · simp [bare]

/-- A block makes no entry if its first status line is bare. -/
theorem Entry.ofBlock_eq_error {b : Block} {e : ParseError} :
    ofBlock b = .error e ↔ ∃ r, b.fromStatus? = some r ∧ Response.ofBlock r = .error e := by
  unfold ofBlock
  cases found : b.fromStatus? with
  | none => simp
  | some r => cases made : Response.ofBlock r <;> simp [made]

theorem Entry.ofBlock_of_bare {b r : Block} (hr : b.fromStatus? = some r)
    (second : Text.firstWord (Text.afterFirstWord r.head.toList) = []) :
    ofBlock b = .error (.malformedStatusLine r.line (String.ofList (Text.trim r.head.toList))) :=
  ofBlock_eq_error.mpr ⟨r, hr, Response.ofBlock_eq_error.mpr ⟨second, rfl⟩⟩

/-- The first block that makes no entry decides. -/
theorem Entry.ofBlocks_eq_error {bs : List Block} {e : ParseError} :
    ofBlocks bs = .error e ↔ ∃ (i : Nat) (b : Block), bs[i]? = some b ∧ ofBlock b = .error e ∧
      ∀ j < i, ∀ b' : Block, bs[j]? = some b' → ∀ e', ofBlock b' ≠ .error e' := by
  induction bs with
  | nil => simp [ofBlocks]
  | cons b bs ih =>
    cases made : ofBlock b with
    | error e' =>
      simp only [ofBlocks, made, Except.error.injEq]
      constructor
      · rintro rfl
        exact ⟨0, b, rfl, made, by simp⟩
      · rintro ⟨_ | i, b', hb', failed, before⟩
        · cases hb'
          exact Except.error.inj (made.symm.trans failed)
        · exact absurd made (before 0 (Nat.succ_pos i) b rfl e')
    | ok entry =>
      have tail : ofBlocks (b :: bs) = .error e ↔ ofBlocks bs = .error e := by
        cases others : ofBlocks bs <;> simp [ofBlocks, made, others]
      rw [tail, ih]
      constructor
      · rintro ⟨i, b', hb', failed, before⟩
        refine ⟨i + 1, b', hb', failed, ?_⟩
        rintro (_ | j) hj b'' hb'' e'
        · cases hb''
          simp [made]
        · exact before j (Nat.lt_of_succ_lt_succ hj) b'' hb'' e'
      · rintro ⟨_ | i, b', hb', failed, before⟩
        · cases hb'
          rw [made] at failed
          cases failed
        · exact ⟨i, b', hb', failed, fun j hj b'' hb'' =>
            before (j + 1) (Nat.succ_lt_succ hj) b'' hb''⟩

/-- A bare answer is the answer of a block that makes no entry. -/
theorem bareStatus_iff {ls : List String} {s : Nat} :
    BareStatus ls s ↔
      ∃ b ∈ Block.entries 0 ls, ∃ r, b.fromStatus? = some r ∧ r.line = s ∧
        Text.firstWord (Text.afterFirstWord r.head.toList) = [] := by
  constructor
  · rintro ⟨⟨m, answers⟩, text, here, one⟩
    obtain ⟨b, hb, -, r, hr, rfl⟩ := answers_iff.mp answers
    obtain rfl := Option.some.inj (here.symm.trans (answers_of_fromStatus? hb hr).2)
    exact ⟨b, hb, r, hr, rfl, ((Text.length_words_eq_one _).mp one).2⟩
  · rintro ⟨b, hb, r, hr, rfl, second⟩
    obtain ⟨answers, here⟩ := answers_of_fromStatus? hb hr
    have first := Line.firstWord_ne_nil (.inr (Block.fromStatus?_spec hr).2.2.2)
    exact ⟨⟨b.line, answers⟩, r.head, here, (Text.length_words_eq_one _).mpr ⟨first, second⟩⟩

namespace Document

/-- A file fails where the first of its blocks does. -/
theorem ofLines_eq_error {ls : List String} {e : ParseError} :
    ofLines ls = .error e ↔ Entry.ofBlocks (Block.entries 0 ls) = .error e := by
  rw [ofLines_eq]
  cases Entry.ofBlocks (Block.entries 0 ls) <;> simp [Except.map]

/-- The error names the first bare answer. -/
theorem first_of_ofLines_eq_error {ls : List String} {e : ParseError} (h : ofLines ls = .error e) :
    ∃ s text, BareStatus ls s ∧ (∀ s' < s, ¬ BareStatus ls s') ∧ ls[s]? = some text ∧
      e = .malformedStatusLine s (String.ofList (Text.trim text.toList)) := by
  obtain ⟨i, b, hi, failed, before⟩ := Entry.ofBlocks_eq_error.mp (ofLines_eq_error.mp h)
  obtain ⟨r, hr, made⟩ := Entry.ofBlock_eq_error.mp failed
  obtain ⟨second, error⟩ := Response.ofBlock_eq_error.mp made
  have hb := List.mem_of_getElem? hi
  refine ⟨r.line, r.head, bareStatus_iff.mpr ⟨b, hb, r, hr, rfl, second⟩, ?_,
    (answers_of_fromStatus? hb hr).2, error⟩
  intro s' lt bare
  obtain ⟨b', hb', r', hr', rfl, second'⟩ := bareStatus_iff.mp bare
  obtain ⟨j, hj⟩ := List.mem_iff_getElem?.mp hb'
  rcases Nat.lt_trichotomy j i with earlier | rfl | later
  · exact before j earlier b' hj _ (Entry.ofBlock_of_bare hr' second')
  · obtain rfl := Option.some.inj (hj.symm.trans hi)
    obtain rfl := Option.some.inj (hr'.symm.trans hr)
    exact Nat.lt_irrefl _ lt
  · -- a later block starts behind the answer of this one
    have := Block.stop_le_line later hi hj
    have := (answers_of_fromStatus? hb hr).1.lt_stop hb
    have := (answers_of_fromStatus? hb' hr').1.behind
    omega

theorem exists_error_of_bareStatus {ls : List String} {s : Nat} (h : BareStatus ls s) :
    ∃ e, ofLines ls = .error e := by
  obtain ⟨b, hb, r, hr, -, second⟩ := bareStatus_iff.mp h
  cases read : ofLines ls with
  | error e => exact ⟨e, rfl⟩
  | ok d =>
    obtain ⟨i, hi⟩ := List.mem_iff_getElem?.mp hb
    obtain ⟨hi', rfl⟩ := List.getElem?_eq_some_iff.mp hi
    have blocks := forall₂_entries read
    have made := blocks.get hi' (blocks.length_eq ▸ hi')
    rw [List.get_eq_getElem, Entry.ofBlock_of_bare hr second] at made
    cases made

/-- A file cannot be read exactly if some method line is answered by a single word. The error then
names the first such line and its text without blanks around it; there is no other error. -/
theorem ofLines_fails_iff (ls : List String) :
    ((∃ e, ofLines ls = .error e) ↔ ∃ s, BareStatus ls s) ∧
    (∀ e, ofLines ls = .error e ↔
      ∃ s text, BareStatus ls s ∧ (∀ s' < s, ¬ BareStatus ls s') ∧ ls[s]? = some text ∧
        e = .malformedStatusLine s (String.ofList (Text.trim text.toList))) ∧
    ∀ line, ofLines ls ≠ .error (.emptyMethodLine line) := by
  refine ⟨⟨?_, ?_⟩, fun e => ⟨first_of_ofLines_eq_error, ?_⟩, ?_⟩
  · rintro ⟨e, failed⟩
    obtain ⟨s, _, bare, _⟩ := first_of_ofLines_eq_error failed
    exact ⟨s, bare⟩
  · rintro ⟨s, bare⟩
    exact exists_error_of_bareStatus bare
  · rintro ⟨s, text, bare, least, here, rfl⟩
    obtain ⟨e', failed⟩ := exists_error_of_bareStatus bare
    obtain ⟨t, text', bare', least', here', error⟩ := first_of_ofLines_eq_error failed
    obtain rfl : s = t := by
      rcases Nat.lt_trichotomy s t with lt | eq | lt
      · exact absurd bare (least' s lt)
      · exact eq
      · exact absurd bare' (least t lt)
    rw [here] at here'
    rw [failed, error, Option.some.inj here']
  · intro line failed
    obtain ⟨s, _, _, _, _, error⟩ := first_of_ofLines_eq_error failed
    cases error

-- neither a status line in front of all entries nor a second one has to have a status
example : (ofLines ["HTTP/1.1", "GET /", "HTTP/1.1 x", "HTTP/1.1"]).isOk = true := by
  decide +kernel

end Document

end HurlAssist
