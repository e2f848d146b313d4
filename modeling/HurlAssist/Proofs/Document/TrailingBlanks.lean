import HurlAssist.Document.Captures
import HurlAssist.Proofs.Document.Edit
import HurlAssist.Proofs.Document.OnePass
import HurlAssist.Proofs.Text.LineEnds

/-!
Blanks at the end of lines have no meaning, and neither have carriage returns in front of line
feeds. Two files that differ in these only fail in the same way, or come to trees that differ only
in columns and in blanks at the ends of the lines that are kept as they stand.
-/

namespace HurlAssist

open Text

namespace Line

/-- A cut at a mark finds the mark in the same place, or on neither side. -/
theorem cutAt_cases (sep : Char) (solid : isBlank sep = false) {s t : List Char} (h : Trails s t) :
    (∃ key value value', cutAt sep s = (key, some value) ∧ cutAt sep t = (key, some value') ∧
      Trails value value') ∨
    cutAt sep s = (s, none) ∧ cutAt sep t = (t, none) := by
  obtain ⟨ws, blank, rfl⟩ := h
  induction s with
  | nil =>
    -- The mark is no blank, so the blanks behind the text bring none in.
    have other : ∀ c ∈ ws, (c != sep) = true := by
      intro c hc
      rw [bne_iff_ne]
      rintro rfl
      rw [blank c hc] at solid
      cases solid
    right
    refine ⟨rfl, ?_⟩
    rw [List.nil_append, cutAt, List.takeWhile_eq_self_iff.mpr other,
      List.dropWhile_eq_nil_iff.mpr other]
  | cons c s ih =>
    by_cases hc : c = sep
    · left
      exact ⟨[], s, s ++ ws, by simp [cutAt, hc], by simp [cutAt, hc], ws, blank, rfl⟩
    · have step (cs : List Char) :
          cutAt sep (c :: cs) = (c :: (cutAt sep cs).1, (cutAt sep cs).2) := by
        simp [cutAt, hc]
      rw [List.cons_append, step, step]
      rcases ih with ⟨key, value, value', found, found', more⟩ | ⟨none, none'⟩
      · left
        exact ⟨c :: key, value, value', by rw [found], by rw [found'], more⟩
      · right
        rw [none, none']
        exact ⟨rfl, rfl⟩

variable {l l' : String}

theorem isKeyValue_eq (h : Trails l.toList l'.toList) : isKeyValue l = isKeyValue l' := by
  rcases cutAt_cases ':' (by decide) h with ⟨_, _, _, found, found', _⟩ | ⟨none, none'⟩
  · rw [isKeyValue, isKeyValue, found, found']
  · rw [isKeyValue, isKeyValue, none, none']

theorem keyValue_eq (h : Trails l.toList l'.toList) : keyValue l = keyValue l' := by
  rcases cutAt_cases ':' (by decide) h with ⟨_, _, _, found, found', more⟩ | ⟨none, none'⟩
  · rw [keyValue, keyValue, found, found']
    simp only [more.trim_eq]
  · rw [keyValue, keyValue, none, none']
    simp only [h.trim_eq]

theorem isBlankOrComment_eq (h : Trails l.toList l'.toList) :
    isBlankOrComment l = isBlankOrComment l' := by
  rcases h.dropBlank_cases with ⟨none, none'⟩ | ⟨_, _, _, some, some', _⟩
  · rw [isBlankOrComment, isBlankOrComment, none, none']
  · rw [isBlankOrComment, isBlankOrComment, some, some']

theorem sectionName?_eq (h : Trails l.toList l'.toList) : sectionName? l = sectionName? l' := by
  rw [sectionName?, sectionName?, h.trim_eq]

theorem kind_eq (h : Trails l.toList l'.toList) : Line.kind l = Line.kind l' := by
  have status : isStatus l = isStatus l' := by rw [isStatus, isStatus, h.firstWord_eq]
  have method : isMethod l = isMethod l' := by rw [isMethod, isMethod, h.firstWord_eq]
  rw [kind, kind, status, method, sectionName?_eq h, isKeyValue_eq h, isBlankOrComment_eq h]

/-- The same is read off a line with blanks behind it. -/
theorem readsAs_of_trails (h : Trails l.toList l'.toList) : ReadsAs l l' where
  kind := kind_eq h
  keyValue := keyValue_eq h
  sectionName? := sectionName?_eq h
  trim := h.trim_eq.symm
  firstWord := h.firstWord_eq.symm
  target := h.afterFirstWord.trim_eq.symm
  secondWord := h.afterFirstWord.firstWord_eq.symm

/-- The line without blanks at its end. -/
def trimmed (l : String) : String := String.ofList (trimEnd l.toList)

theorem trails_trimmed (l : String) : Trails (trimmed l).toList l.toList := by
  rw [trimmed, String.toList_ofList]
  exact trails_trimEnd l.toList

theorem trimmed_eq (h : Trails l.toList l'.toList) : trimmed l' = trimmed l := by
  rw [trimmed, trimmed, h.trimEnd_eq]

end Line

/-- The region without its columns. -/
def Span.rows (s : Span) : Span := ⟨⟨s.start.line, 0⟩, ⟨s.stop.line, 0⟩⟩

theorem Point.line_earlier (p q : Point) : (p.earlier q).line = min p.line q.line := by
  unfold earlier
  split
  · rename_i le
    rcases le_iff.mp le with less | ⟨same, _⟩ <;> omega
  · rename_i le
    rw [le_iff] at le
    omega

theorem Point.line_later (p q : Point) : (p.later q).line = max p.line q.line := by
  unfold later
  split
  · rename_i le
    rcases le_iff.mp le with less | ⟨same, _⟩ <;> omega
  · rename_i le
    rw [le_iff] at le
    omega

theorem Span.rows_eq {s t : Span} :
    s.rows = t.rows ↔ s.start.line = t.start.line ∧ s.stop.line = t.stop.line := by
  simp [rows]

/-- The edit that takes the blanks off the ends of lines. -/
def Edit.trimming : Edit where
  line := Line.trimmed
  down := 0
  before := Span.rows
  after := Span.rows
  readsAs l := Line.readsAs_of_trails (Line.trails_trimmed l)
  onLine _ _ _ _ := rfl
  close line l same := by
    obtain ⟨start, _⟩ := Span.rows_eq.mp same
    simp only [Span.rows, Span.close, Nat.add_zero, start]
  join same same' := by
    obtain ⟨start, stop⟩ := Span.rows_eq.mp same
    obtain ⟨start', stop'⟩ := Span.rows_eq.mp same'
    simp only [Span.rows, Span.join, Point.line_earlier, Point.line_later, start, stop, start',
      stop']

namespace Document

/-- The tree without columns, and its lines without blanks at their ends. -/
def meaning (d : Document) : Document := d.map Span.rows Line.trimmed

theorem rows_spanOf (ls : List String) : (spanOf ls).rows = ⟨⟨0, 0⟩, ⟨ls.length - 1, 0⟩⟩ := by
  cases last : ls.getLast? with
  | none =>
    rw [List.getLast?_eq_none_iff.mp last]
    rfl
  | some l => rw [spanOf, last, Span.rows]

theorem ofLines_trimmed (ls : List String) :
    (ofLines (ls.map Line.trimmed)).map (·.map Span.rows id) = (ofLines ls).map meaning := by
  have blocks : Block.entries 0 (ls.map Line.trimmed) =
      (Block.entries 0 ls).map Edit.trimming.block :=
    Redraft.entries_map (r := Edit.trimming.toRedraft) 0 ls
  have span : (spanOf (ls.map Line.trimmed)).rows = (spanOf ls).rows := by
    rw [rows_spanOf, rows_spanOf, List.length_map]
  rw [ofLines_eq, ofLines_eq, blocks]
  rcases ParseError.outcome_of_map_eq
      (Edit.ofBlocks_block (e := Edit.trimming) (Block.entries 0 ls)) with
    ⟨err, failed, failed'⟩ | ⟨entries, entries', made, made', same⟩
  · have still : err.moved Edit.trimming.down = err := ParseError.moved_zero err
    rw [failed, failed', still]
    simp only [Except.map]
  · rw [made, made']
    simp only [Except.map, meaning, map, Except.ok.injEq, Document.mk.injEq]
    exact ⟨same, span⟩

theorem map_trimmed_eq {ls ls' : List String}
    (h : List.Forall₂ (fun l l' => Trails l.toList l'.toList) ls ls') :
    ls'.map Line.trimmed = ls.map Line.trimmed := by
  induction h with
  | nil => rfl
  | cons first _ ih => rw [List.map_cons, List.map_cons, Line.trimmed_eq first, ih]

/-- What the captured variables are does not hang on columns or on blanks at the end of lines. -/
theorem captures_meaning (d : Document) : d.meaning.captures = d.captures := by
  have responses : d.meaning.responses = d.responses.map (·.map Span.rows Line.trimmed) := by
    simp only [Document.responses, meaning, map, List.filterMap_map, List.map_filterMap]
    rfl
  have sections : d.meaning.responseSections =
      d.responseSections.map (·.map Span.rows Line.trimmed) := by
    simp only [responseSections, responses, List.flatMap_map, List.map_flatMap]
    rfl
  rw [captures, captures, sections, List.filter_map, List.map_map]
  rfl

theorem variablesAt_meaning (d : Document) (line : Nat) :
    d.meaning.variablesAt line = d.variablesAt line := by
  rw [variablesAt, variablesAt, captures_meaning]

/-- Both fail with the same error, or both are read and have the same meaning, and so the same
variables on every line. -/
structure SameMeaning (x y : Except ParseError Document) : Prop where
  tree : x.map meaning = y.map meaning
  known : ∀ d d', x = .ok d → y = .ok d' →
    ∀ line, d.variablesAt line = d'.variablesAt line

theorem SameMeaning.of_map_eq {x y : Except ParseError Document}
    (h : x.map meaning = y.map meaning) : SameMeaning x y := by
  refine ⟨h, ?_⟩
  rintro d d' rfl rfl line
  have same : d.meaning = d'.meaning := Except.ok.inj h
  rw [← variablesAt_meaning, same, variablesAt_meaning]

theorem sameMeaning_of_trails {ls ls' : List String}
    (h : List.Forall₂ (fun l l' => Trails l.toList l'.toList) ls ls') :
    SameMeaning (ofLines ls) (ofLines ls') := by
  -- The lines without blanks at their ends are the same on both sides.
  apply SameMeaning.of_map_eq
  rw [← ofLines_trimmed, ← ofLines_trimmed, map_trimmed_eq h]

/-- Lines with blanks behind them mean what they mean without, and a text means the same with
carriage returns in front of any of its line feeds. -/
theorem trailing_blanks_mean_nothing :
    (∀ ls ls', List.Forall₂ (fun l l' => Trails l.toList l'.toList) ls ls' →
      SameMeaning (ofLines ls) (ofLines ls')) ∧
    ∀ source source', Returned source.toList source'.toList →
      SameMeaning (parse source) (parse source') := by
  constructor
  · intro ls ls' h
    exact sameMeaning_of_trails h
  · intro source source' h
    exact sameMeaning_of_trails h.lines

/-- A tab behind a request line, an ideographic space for an empty line, and carriage returns. -/
theorem trailing_blanks_mean_nothing_here :
    SameMeaning (ofLines ["GET /a", "", "text"]) (ofLines ["GET /a\t ", "\u3000", "text\r"]) ∧
    SameMeaning (parse "A\n[\r\n") (parse "A\r\n[\r\r\n") := by
  have lines : List.Forall₂ (fun l l' : String => Trails l.toList l'.toList)
      ["GET /a", "", "text"] ["GET /a\t ", "\u3000", "text\r"] :=
    .cons (trails_append "GET /a".toList (by decide)) (.cons (trails_append [] (by decide))
      (.cons (trails_append "text".toList (by decide)) .nil))
  have returned : Returned "A\n[\r\n".toList "A\r\n[\r\r\n".toList :=
    .keep 'A' (.turn (.keep '[' (.keep '\r' (.turn .nil))))
  exact ⟨trailing_blanks_mean_nothing.1 _ _ lines, trailing_blanks_mean_nothing.2 _ _ returned⟩

end Document

end HurlAssist
