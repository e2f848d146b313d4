import HurlAssist.Proofs.Document.SectionNamePlaces
import HurlAssist.Proofs.Numeral

/-!
The status of a response: the second word of its status line, if that is an integer of 32 bits, and
0 for any other word. No word in this place keeps a file from being read
(`Document.status_as_written`).
-/

namespace HurlAssist

open Text

/-- A response is made of the first two words of its status line. -/
theorem Response.words_of_ofBlock {b : Block} {p : Response} (made : ofBlock b = .ok p)
    (status : Line.kind b.head = .status) : ∃ version token rest,
    words b.head.toList = version :: token :: rest ∧ p.version = String.ofList version ∧
      p.status = statusOf token := by
  have first := Line.firstWord_ne_nil (.inr status)
  unfold ofBlock at made
  simp only at made
  split at made
  · cases made
  · rename_i second
    cases made
    rw [List.isEmpty_iff] at second
    exact ⟨_, _, _, by rw [words_eq, if_neg first, words_eq, if_neg second], rfl, rfl⟩

namespace Document

/-- A file is read exactly if no answer to a method line is a single word. -/
theorem exists_ok_iff (ls : List String) : (∃ d, ofLines ls = .ok d) ↔ ¬ ∃ s, BareStatus ls s := by
  cases read : ofLines ls with
  | ok d =>
    refine iff_of_true ⟨d, rfl⟩ ?_
    rintro ⟨s, bare⟩
    obtain ⟨e, failed⟩ := exists_error_of_bareStatus bare
    rw [read] at failed
    cases failed
  | error e =>
    obtain ⟨s, _, bare, _⟩ := first_of_ofLines_eq_error read
    refine iff_of_false ?_ (not_not_intro ⟨s, bare⟩)
    rintro ⟨d, ok⟩
    cases ok

/-- An answer has a first word, and it has a second one if it is no single word. -/
theorem two_le_words_iff {ls : List String} : (¬ ∃ s, BareStatus ls s) ↔
    ∀ m s text, Answers ls m s → ls[s]? = some text → 2 ≤ (words text.toList).length := by
  constructor
  · intro none m s text answers here
    have status := answers.status
    rw [LineRange.kindAt?, here] at status
    have first := Line.firstWord_ne_nil (.inr (Option.some.inj status))
    have several : (words text.toList).length ≠ 1 := fun one =>
      none ⟨s, ⟨m, answers⟩, text, here, one⟩
    have some : 0 < (words text.toList).length := by
      rw [words_eq, if_neg first]
      exact Nat.zero_lt_succ _
    omega
  · rintro all ⟨s, ⟨m, answers⟩, text, here, one⟩
    have two := all m s text answers here
    omega

/-- A file is read exactly if each answer to a method line has two words, whatever they are. The
status of each response that is read off such a line is the integer that the second word denotes, if
32 bits with sign hold it, and 0 in all other cases. It is what one gets by going through the word
in 32 bits, giving up where a number on the way does not fit. -/
theorem status_as_written (ls : List String) :
    ((∃ d, ofLines ls = .ok d) ↔
      ∀ m s text, Answers ls m s → ls[s]? = some text → 2 ≤ (words text.toList).length) ∧
    ∀ d, ofLines ls = .ok d → ∀ p ∈ d.responses, ∃ m text version token rest,
      Answers ls m p.span.start.line ∧ ls[p.span.start.line]? = some text ∧
      words text.toList = version :: token :: rest ∧ p.version = String.ofList version ∧
      (∀ n, Numeral.Denotes token n → Numeral.Fits n → p.status = n) ∧
      ((∀ n, Numeral.Denotes token n → ¬ Numeral.Fits n) → p.status = 0) ∧
      p.status = (Numeral.read? token).elim 0 Int32.toInt := by
  refine ⟨(exists_ok_iff ls).trans two_le_words_iff, ?_⟩
  intro d h p hp
  obtain ⟨b, hb, r, found, made⟩ := exists_block_of_response h hp
  obtain ⟨answers, here⟩ := answers_of_fromStatus? hb found
  have start : p.span.start.line = r.line := (Response.laidOut_of_ofBlock hb found made).start
  obtain ⟨version, token, rest, split, first, second⟩ :=
    Response.words_of_ofBlock made (Block.fromStatus?_spec found).2.2.2
  obtain ⟨fitting, others⟩ := Numeral.statusOf_spec token
  rw [start, second]
  exact ⟨b.line, r.head, version, token, rest, answers, here, split, first, fitting, others,
    Numeral.statusOf_eq_read? token⟩

/-- The least integer that 32 bits hold, with zeros in front and a word behind it. -/
theorem status_as_written_least : ∃ (d : Document) (p : Response),
    ofLines ["GET /a", "", "HTTP/1.1 -002147483648 low"] = .ok d ∧ p ∈ d.responses ∧
      p.status = -2147483648 := by
  obtain ⟨d, e, p, h, he, response⟩ := exists_response_of_isSome
    ["GET /a", "", "HTTP/1.1 -002147483648 low"] 0 (by decide +kernel)
  have hp : p ∈ d.responses := mem_responses.mpr ⟨e, List.mem_of_getElem? he, response⟩
  obtain ⟨m, text, version, token, rest, answers, here, split, -, fitting, -⟩ :=
    (status_as_written ["GET /a", "", "HTTP/1.1 -002147483648 low"]).2 d h p hp
  have only (i : Nat) (status : LineRange.kindAt?
      ["GET /a", "", "HTTP/1.1 -002147483648 low"] i = some .status) : i = 2 := by
    match i with
    | 0 => exact absurd status (by decide)
    | 1 => exact absurd status (by decide)
    | 2 => rfl
    | _ + 3 => cases status
  rw [only _ answers.status] at here
  cases here
  have second : token = "-002147483648".toList := by
    have written : words "HTTP/1.1 -002147483648 low".toList =
        ["HTTP/1.1".toList, "-002147483648".toList, "low".toList] := by decide
    rw [written] at split
    cases split
    rfl
  have denotes : Numeral.Denotes token (-2147483648) := by
    have digits : "002147483648".toList ∈ oneOrMore Line.isDigit :=
      Line.isNumber_iff.mp (by decide)
    have value : Numeral.byPlaces "002147483648".toList = 2147483648 := by
      decide +kernel
    have minus := Numeral.Denotes.minus digits
    rw [value] at minus
    rw [second]
    exact minus
  exact ⟨d, p, h, hp, fitting _ denotes (by decide)⟩

-- the least and the greatest status that 32 bits hold, zeros in front, and one more than fits
example : Response.statusOf "-2147483648".toList = -2147483648 ∧
    Response.statusOf "+0002147483647".toList = 2147483647 ∧
    Response.statusOf "2147483648".toList = 0 ∧ Response.statusOf "4.5".toList = 0 := by
  decide

end Document

end HurlAssist
