import HurlAssist.Proofs.Document.Contents
import HurlAssist.Proofs.Text.Words

/-!
The text that stands in the regions of a tree. A region was made from columns, counted along the blanks
and words of a line, and the text that goes with it by stripping blanks from the same line. The two
agree: what a region cuts out of the file is the text it was made for
(`Document.regions_cut_out_their_text`).
-/

namespace HurlAssist

open LineRange Text

namespace Span

/-- The region is a part of one line, with `before` and `after` around it and `inside` in it. -/
structure Marks (ls : List String) (s : Span) (before inside after : List Char) : Prop where
  oneLine : s.stop.line = s.start.line
  line : ∃ text, ls[s.start.line]? = some text ∧ text.toList = before ++ inside ++ after
  start : s.start.col = before.length
  stop : s.stop.col = before.length + inside.length

/-- The region goes on to the end of its last line. -/
def EndsLine (ls : List String) (s : Span) : Prop :=
  ∃ text, ls[s.stop.line]? = some text ∧ s.stop.col = text.length

theorem marks_onLine {ls : List String} {line : Nat} {text : String}
    {before inside after : List Char} (here : ls[line]? = some text)
    (parts : text.toList = before ++ inside ++ after) :
    (onLine line before.length (before.length + inside.length)).Marks ls before inside after :=
  ⟨rfl, ⟨text, here, parts⟩, rfl, Nat.max_eq_left (Nat.le_add_right _ _)⟩

theorem Covers.endsLine {ls : List String} {s : Span} {a b : Nat} (h : s.Covers ls a b)
    (inside : b ≤ ls.length) : s.EndsLine ls := by
  have lt := h.lt
  have bound : b - 1 < ls.length := by omega
  have here := List.getElem?_eq_getElem bound
  refine ⟨ls[b - 1], ?_, ?_⟩
  · rw [h.stop, here]
  · rw [h.stop, width_of_getElem? here]

end Span

/-- The word stands in its region. -/
def Word.Spelled (ls : List String) (w : Word) : Prop :=
  ∃ before after, w.span.Marks ls before w.text.toList after

/-- The body is the lines of its region, from the first column on, and its text is what stands there
when all lines of the file are joined by line feeds. -/
structure Body.CutOut (ls : List String) (b : Body) (s : Span) : Prop where
  start : s.start.col = 0
  lines : b.lines = between ls s.start.line (s.stop.line + 1)
  text : "\n".intercalate ls =
    String.join ((ls.take s.start.line).map (· ++ "\n")) ++ b.text ++
      String.join ((ls.drop (s.stop.line + 1)).map ("\n" ++ ·))
  endsLine : s.EndsLine ls

/-- The regions of a content cut out what they were made for. -/
structure Content.CutOut (ls : List String) (c : Content) : Prop where
  sections : ∀ s ∈ c.sections, s.name.Spelled ls ∧ s.span.EndsLine ls
  body : c.body = .none ∨ ∃ s, c.body.span = some s ∧ c.body.CutOut ls s

/-- The regions of a request cut out what they were made for. The region of the target is the end of
the method line, and what stands in front of it is the method. -/
structure Request.CutOut (ls : List String) (q : Request) : Prop where
  method : q.method.Spelled ls
  target : ∃ before inside, q.target.span.Marks ls before inside [] ∧
    trim inside = q.target.text.toList ∧ trim before = q.method.text.toList
  sameLine : q.target.span.start.line = q.span.start.line ∧
    q.method.span.start.line = q.span.start.line
  content : q.content.CutOut ls
  endsLine : q.span.EndsLine ls

structure Entry.CutOut (ls : List String) (e : Entry) : Prop where
  request : e.request.CutOut ls
  response : ∀ p, e.response = some p → p.content.CutOut ls ∧ p.span.EndsLine ls
  endsLine : e.span.EndsLine ls

/-- A text with a first word is cut behind the character that follows it. What is in front is the
word, and no more than blanks is taken from what follows it. -/
theorem Text.exists_cut {cs : List Char} (word : firstWord cs ≠ []) : ∃ before inside,
    cs = before ++ inside ∧
    before.length = min (indent cs + (firstWord cs).length + 1) cs.length ∧
    trim inside = trim (afterFirstWord cs) ∧ trim before = firstWord cs := by
  have parts := eq_blanks_append_words cs
  have length := indent_add_length_words cs
  have blank (c : Char) (hc : c ∈ cs.takeWhile isBlank) : isBlank c = true :=
    List.mem_takeWhile_imp hc
  cases behind : afterFirstWord cs with
  | nil =>
    -- There is no such character, and the cut is at the end.
    rw [behind] at parts length
    refine ⟨cs, [], (List.append_nil cs).symm, ?_, rfl, ?_⟩
    · rw [← length]
      exact (Nat.min_eq_right (Nat.le_succ _)).symm
    · nth_rewrite 1 [parts]
      exact trim_append blank word (firstWord_whole cs) fun c hc => absurd hc List.not_mem_nil
  | cons c rest =>
    have space : isBlank c = true := head?_afterFirstWord (by rw [behind]; rfl)
    rw [behind] at parts length
    refine ⟨cs.takeWhile isBlank ++ firstWord cs ++ [c], rest, ?_, ?_, ?_, ?_⟩
    · nth_rewrite 1 [parts]
      simp
    · rw [List.length_cons] at length
      simp only [List.length_append, List.length_singleton, indent] at length ⊢
      omega
    · rw [trim, trim, dropBlank, dropBlank, List.dropWhile_cons_of_pos space]
    · apply trim_append blank word (firstWord_whole cs)
      intro x hx
      rw [List.mem_singleton.mp hx]
      exact space

section

variable {xs : List String} (ne : xs ≠ [])

include ne

theorem Text.intercalate_behind (sep : String) (before : List String) :
    sep.intercalate (before ++ xs) =
      String.join (before.map (· ++ sep)) ++ sep.intercalate xs := by
  induction before with
  | nil => simp
  | cons l before ih =>
    rw [List.cons_append, String.intercalate_cons_of_ne_nil (by simp [ne]), ih, List.map_cons,
      String.join_cons]
    simp only [String.append_assoc]

theorem Text.intercalate_inFront (sep : String) (after : List String) :
    sep.intercalate (xs ++ after) =
      sep.intercalate xs ++ String.join (after.map (sep ++ ·)) := by
  induction after generalizing xs with
  | nil => simp
  | cons l after ih =>
    rw [List.append_cons, ih (by simp), String.intercalate_append_of_ne_nil ne (List.cons_ne_nil l []),
      String.intercalate_singleton, List.map_cons, String.join_cons]
    simp only [String.append_assoc]

end

/-- The body of lines that stand in the file is cut out of it. -/
theorem Body.cutOut_ofLines {ls xs : List String} {n : Nat} (stands : Stands ls n xs) :
    ofLines n xs = .none ∨ ∃ s, (ofLines n xs).span = some s ∧ (ofLines n xs).CutOut ls s := by
  cases xs with
  | nil => exact .inl rfl
  | cons x xs =>
    have of := BodyOf.ofLines stands rfl
    have ne : x :: xs ≠ [] := List.cons_ne_nil x xs
    have endsLine := (covers_ofLines stands of.span).endsLine (stands.stop_le ne)
    have stop : n + (x :: xs).length - 1 + 1 = n + (x :: xs).length := by
      rw [List.length_cons]
      omega
    refine .inr ⟨_, of.span, rfl, ?_, ?_, endsLine⟩
    · rw [stop]
      exact of.lines
    · rw [stop]
      nth_rewrite 1 [stands.file_eq]
      rw [Text.intercalate_behind (by simp), Text.intercalate_inFront ne, String.append_assoc]
      rfl

section

variable {ls : List String} {b : Block} (stands : Stands ls b.line b.lines)

include stands

theorem Block.stop_le_length : b.stop ≤ ls.length := by
  have le := stands.stop_le (List.cons_ne_nil b.head b.rest)
  rw [lines, List.length_cons] at le
  rw [stop]
  omega

theorem Section.cutOut_ofBlock (header : Line.kind b.head = .sectionHeader) :
    (ofBlock b).name.Spelled ls ∧ (ofBlock b).span.EndsLine ls := by
  obtain ⟨name, found⟩ := Option.isSome_iff_exists.mp (Line.isSome_sectionName? header)
  obtain ⟨after, parts⟩ := Line.exists_brackets found
  constructor
  · have marks := Span.marks_onLine stands.head parts
    rw [List.length_append, ← indent, List.length_singleton, String.length_toList] at marks
    refine ⟨b.head.toList.takeWhile isBlank ++ ['['], after, ?_⟩
    simp only [ofBlock, found, Option.getD_some]
    exact marks
  · exact (nested_ofBlock stands header).1.endsLine (Block.stop_le_length stands)

end

theorem Content.cutOut_addLines {ls xs : List String} {n : Nat} (stands : Stands ls n xs) :
    (Content.empty.addLines n xs).CutOut ls := by
  rw [← runs_append xs] at stands
  rw [addLines_empty]
  constructor
  · intro s hs
    obtain ⟨c, hc, rfl⟩ := List.mem_map.mp hs
    have header : Line.kind c.head = .sectionHeader := Block.kind_of_mem_cut hc
    exact Section.cutOut_ofBlock (Block.stands_of_mem_cut stands.right.left hc) header
  · exact Body.cutOut_ofLines stands.right.right

theorem Request.cutOut_ofBlock {ls : List String} {b : Block} (stands : Stands ls b.line b.lines)
    (method : Line.kind b.head = .method) : (ofBlock b).CutOut ls := by
  constructor
  · have marks := Span.marks_onLine stands.head (eq_blanks_append_words b.head.toList)
    rw [← indent] at marks
    refine ⟨b.head.toList.takeWhile isBlank, afterFirstWord b.head.toList, ?_⟩
    simp only [ofBlock, String.toList_ofList]
    exact marks
  · obtain ⟨before, inside, parts, length, target, name⟩ :=
      Text.exists_cut (Line.firstWord_ne_nil (.inl method))
    have whole : b.head.toList = before ++ inside ++ [] := by rw [parts, List.append_nil]
    have marks := Span.marks_onLine stands.head whole
    rw [← List.length_append, ← parts, length, String.length_toList] at marks
    refine ⟨before, inside, marks, ?_, ?_⟩
    · rw [target]
      exact String.toList_ofList.symm
    · rw [name]
      exact String.toList_ofList.symm
  · exact ⟨rfl, rfl⟩
  · exact Content.cutOut_addLines stands.tail
  · exact (covers_ofBlock stands).endsLine (Block.stop_le_length stands)

theorem Response.cutOut_ofBlock {ls : List String} {b : Block} {p : Response}
    (stands : Stands ls b.line b.lines) (made : ofBlock b = .ok p) :
    p.content.CutOut ls ∧ p.span.EndsLine ls := by
  constructor
  · rw [(ofBlock_eq_ok made).2]
    exact Content.cutOut_addLines stands.tail
  · exact (nested_ofBlock stands made).1.endsLine (Block.stop_le_length stands)

theorem Entry.cutOut_ofBlock {ls : List String} {b : Block} {e : Entry}
    (stands : Stands ls b.line b.lines) (method : Line.kind b.head = .method)
    (made : ofBlock b = .ok e) : e.CutOut ls := by
  constructor
  · rw [(ofBlock_eq_ok made).1]
    exact Request.cutOut_ofBlock (Block.stands_upToStatus stands) method
  · intro p response
    obtain ⟨r, found, responseMade⟩ := exists_responseBlock made response
    exact Response.cutOut_ofBlock (Block.stands_fromStatus? stands found) responseMade
  · exact (nested_ofBlock stands made).1.endsLine (Block.stop_le_length stands)

namespace Document

/-- In a file that is read, regions cut out the text that they were made for. The region of a method
or of a section's name is where its characters stand. The region of a target goes on to the end of the
method line: stripped of blanks it is the target, and what stands in front of it is the method. A body
is the lines of its region, and its text is the part of the joined file that they make up. And
entries, requests, responses, sections and bodies stop at the end of their last line. -/
theorem regions_cut_out_their_text {ls : List String} {d : Document} (h : ofLines ls = .ok d) :
    ∀ e ∈ d.entries, e.CutOut ls := by
  intro e he
  obtain ⟨b, hb, made⟩ := exists_block_of_entry h he
  have method : Line.kind b.head = .method := Block.kind_of_mem_cut hb
  exact Entry.cutOut_ofBlock (Block.stands_of_mem_cut (Stands.all ls) hb) method made

/-- A method between a tab and a no-break space, a method at the end of its line, an indented section
header, and a body behind a section. -/
theorem regions_cut_out_their_text_blanks : ∃ d,
    ofLines ["\tGET\u00a0 /ä b ", "  [Query] ", "q: 1", "HTTP/1.1 200", "[Asserts]", "HTTP/1.1 ",
      "text", " POST"] = .ok d ∧
    d.entries.map (fun e => e.request.target.text) = ["/ä b", ""] ∧
    d.contents.map (fun c => c.body.text) = ["", "HTTP/1.1 \ntext", ""] ∧
    ∀ e ∈ d.entries, e.CutOut ["\tGET\u00a0 /ä b ", "  [Query] ", "q: 1", "HTTP/1.1 200",
      "[Asserts]", "HTTP/1.1 ", "text", " POST"] := by
  have read : (ofLines ["\tGET\u00a0 /ä b ", "  [Query] ", "q: 1", "HTTP/1.1 200", "[Asserts]",
      "HTTP/1.1 ", "text", " POST"]).toOption.any (fun d =>
        d.entries.map (fun e => e.request.target.text) == ["/ä b", ""] &&
          d.contents.map (fun c => c.body.text) == ["", "HTTP/1.1 \ntext", ""]) = true := by
    decide +kernel
  obtain ⟨d, h, shape⟩ := exists_of_any read
  obtain ⟨targets, bodies⟩ := Bool.and_eq_true_iff.mp shape
  exact ⟨d, h, eq_of_beq targets, eq_of_beq bodies, regions_cut_out_their_text h⟩

end Document

end HurlAssist
