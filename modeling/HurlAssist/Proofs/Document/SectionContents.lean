import HurlAssist.Proofs.Document.Contents

/-!
What sections hold. A section knows each line of the file that is one of its own, under the file's
number of it, and no other. Its lines are shared out by their kind: some bring a key and a value, some
are kept raw, and blank lines and comments bring nothing (`Document.section_lines_shared_out`).
-/

namespace HurlAssist

open LineRange

/-- What lines below a section header bring, in their order: key/value lines their keys with the
values, body lines themselves. -/
inductive Section.SharedOut : List String → List (String × String) → List String → Prop where
  | nil : SharedOut [] [] []
  | keyValue {l : String} {ls raw : List String} {pairs : List (String × String)}
      (kind : Line.kind l = .keyValue) (rest : SharedOut ls pairs raw) :
      SharedOut (l :: ls) (Line.keyValue l :: pairs) raw
  | blank {l : String} {ls raw : List String} {pairs : List (String × String)}
      (kind : Line.kind l = .blank) (rest : SharedOut ls pairs raw) : SharedOut (l :: ls) pairs raw
  | raw {l : String} {ls raw : List String} {pairs : List (String × String)}
      (kind : Line.kind l = .body) (rest : SharedOut ls pairs raw) :
      SharedOut (l :: ls) pairs (l :: raw)

namespace Section

/-- Lines none of which ends a section are shared out by two filters. -/
theorem sharedOut_of_plain {ls : List String} (plain : ∀ l ∈ ls, (Line.kind l).endsSection = false) :
    SharedOut ls ((ls.filter fun l => Line.kind l == .keyValue).map Line.keyValue)
      (ls.filter fun l => Line.kind l != .keyValue && Line.kind l != .blank) := by
  induction ls with
  | nil => exact .nil
  | cons l ls ih =>
    have here := plain l List.mem_cons_self
    have rest := ih fun x hx => plain x (List.mem_cons_of_mem l hx)
    rw [List.filter_cons, List.filter_cons]
    cases kind : Line.kind l with
    | keyValue => exact .keyValue kind rest
    | blank => exact .blank kind rest
    | body => exact .raw kind rest
    | status => rw [kind] at here; cases here
    | method => rw [kind] at here; cases here
    | sectionHeader => rw [kind] at here; cases here

variable {ls : List String} {s : Section}

/-- A line that is none of the section's is not found in it. -/
theorem LaidOut.line?_eq_none (laid : s.LaidOut ls) {line : Nat} (other : ¬ s.Has line) :
    s.line? line = none := by
  rw [line?]
  split
  · rename_i below
    have beyond : s.span.stop.line < line := Nat.lt_of_not_le fun le => other ⟨below, le⟩
    rw [laid.lines, between, List.getElem?_eq_none]
    rw [List.length_drop, List.length_take]
    omega
  · rfl

theorem LaidOut.exists_line? (laid : s.LaidOut ls) {line : Nat} (has : s.Has line) :
    ∃ text, ls[line]? = some text ∧ s.line? line = some text := by
  obtain ⟨text, here⟩ := laid.exists_text has
  exact ⟨text, here, (laid.line?_eq has).trans here⟩

end Section

namespace Document

/-- In a file that is read, a section has the lines below its header up to its last one, each as it
stands in the file and under its number there, and no others. Each of these lines is of one of three
kinds: key/value lines, whose pairs make the section's keys and values when they are put in one after
the other; blank lines and comments, which bring nothing; and body lines, which the section keeps raw
in their order. -/
theorem section_lines_shared_out {ls : List String} {d : Document} (h : ofLines ls = .ok d)
    {c : Content} (hc : c ∈ d.contents) {s : Section} (hs : s ∈ c.sections) :
    (∀ line, (s.Has line → ∃ text, ls[line]? = some text ∧ s.line? line = some text) ∧
      (¬ s.Has line → s.line? line = none)) ∧
    ∃ pairs, Section.SharedOut
        (between ls (s.span.start.line + 1) (s.span.stop.line + 1)) pairs s.rawLines ∧
      s.keyValues = .ofList pairs := by
  obtain ⟨b, rfl, stands, header, plain⟩ := exists_sectionBlock h hc hs
  have laid := Section.laidOut_ofBlock stands header plain
  constructor
  · intro line
    exact ⟨laid.exists_line?, laid.line?_eq_none⟩
  · rw [← laid.lines]
    exact ⟨_, Section.sharedOut_of_plain plain, rfl⟩

/-- A section of a request that a status line ends, with a key that comes twice around a comment. -/
theorem section_lines_shared_out_comment : ∃ (d : Document) (c : Content) (s : Section),
    ofLines ["GET /a", " [Query]", "q: 1", "# note: x", "q : 2", "q 3", "HTTP/1.1 200",
      "[Asserts]"] = .ok d ∧
    c ∈ d.contents ∧ s ∈ c.sections ∧ s.line? 3 = some "# note: x" ∧ s.line? 6 = none ∧
    ∃ pairs, Section.SharedOut ["q: 1", "# note: x", "q : 2", "q 3"] pairs s.rawLines ∧
      s.keyValues = .ofList pairs := by
  have read : (ofLines ["GET /a", " [Query]", "q: 1", "# note: x", "q : 2", "q 3", "HTTP/1.1 200",
      "[Asserts]"]).toOption.any (fun d => d.contents.any fun c => c.sections.any fun s =>
        s.span.start.line == 1 && s.span.stop.line == 5) = true := by
    decide +kernel
  obtain ⟨d, h, found⟩ := exists_of_any read
  simp only [List.any_eq_true, Bool.and_eq_true, beq_iff_eq] at found
  obtain ⟨c, hc, s, hs, start, stop⟩ := found
  obtain ⟨found, shared⟩ := section_lines_shared_out h hc hs
  rw [start, stop] at shared
  obtain ⟨text, here, line⟩ := (found 3).1 ⟨by omega, by omega⟩
  cases here
  have behind : ¬ s.Has 6 := by
    rw [Section.Has]
    omega
  exact ⟨d, c, s, h, hc, hs, line, (found 6).2 behind, shared⟩

end Document

end HurlAssist
