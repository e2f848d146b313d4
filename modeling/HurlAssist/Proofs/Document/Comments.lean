import HurlAssist.Document.Captures
import HurlAssist.Proofs.Document.Contents
import HurlAssist.Proofs.Document.LineForms
import HurlAssist.Proofs.Document.Redraft
import HurlAssist.Proofs.Document.Regions
import HurlAssist.Proofs.Document.Tiling
import HurlAssist.Proofs.Document.TrailingBlanks

/-!
What comments bring to a file. A line whose first character is `#` is a comment, unless it has the
form of a key and a value. A comment brings nothing: with an empty line in its place, the tree is
the same but for bodies, for the lines that sections keep as they stand, and for the column where a
part ends (`comments_bring_nothing`).
-/

namespace HurlAssist

open Text

/-! Trees without what blank lines and comments have a part in. -/

/-- The region without the column in which it stops. -/
def Span.upToLine (s : Span) : Span := ⟨s.start, ⟨s.stop.line, 0⟩⟩

def Section.bare (s : Section) : Section := { s with lines := [], span := s.span.upToLine }

def Content.bare (c : Content) : Content := ⟨c.headers, c.sections.map .bare, .none⟩

def Request.bare (q : Request) : Request :=
  { q with content := q.content.bare, span := q.span.upToLine }

def Response.bare (p : Response) : Response :=
  { p with content := p.content.bare, span := p.span.upToLine }

def Entry.bare (e : Entry) : Entry :=
  ⟨e.request.bare, e.response.map .bare, e.span.upToLine⟩

def Document.bare (d : Document) : Document := ⟨d.entries.map .bare, d.span.upToLine⟩

/-- The line, or an empty one in the place of a blank one or of a comment. -/
def Line.blanked (l : String) : String := if Line.kind l = .blank then "" else l

theorem Line.blanked_of_ne {l : String} (h : Line.kind l ≠ .blank) : blanked l = l := if_neg h

theorem Line.kind_blanked (l : String) : Line.kind (blanked l) = Line.kind l := by
  unfold blanked
  split
  · rename_i blank
    rw [blank]
    decide
  · rfl

/-- The change that empties blank lines and comments. -/
def Redraft.blanking : Redraft := ⟨Line.blanked, 0, Line.kind_blanked⟩

namespace Redraft

/-- Lines that are chosen by a kind other than that of blank lines are as they were. -/
theorem filter_blanked {p : LineKind → Bool} (h : p .blank = false) (ls : List String) :
    (ls.map Line.blanked).filter (fun l => p (Line.kind l)) =
      ls.filter fun l => p (Line.kind l) := by
  have kept : (ls.map Line.blanked).filter (fun l => p (Line.kind l)) =
      (ls.filter fun l => p (Line.kind l)).map Line.blanked :=
    filter_map (r := blanking) (keeps_kind p)
  rw [kept]
  have same : ∀ l ∈ ls.filter fun l => p (Line.kind l), Line.blanked l = id l := by
    intro l hl
    apply Line.blanked_of_ne
    intro blank
    have chosen := (List.mem_filter.mp hl).2
    rw [blank, h] at chosen
    cases chosen
  rw [List.map_congr_left same, List.map_id]

theorem keyValueLines_blanked (n : Nat) (ls : List String) :
    keyValueLines n (ls.map Line.blanked) = keyValueLines n ls := by
  induction ls generalizing n with
  | nil => rfl
  | cons l ls ih =>
    have rest := ih (n + 1)
    simp only [keyValueLines, List.map_cons, List.zipIdx_cons] at rest ⊢
    by_cases h : Line.kind l = .keyValue
    · rw [Line.blanked_of_ne (by simp [h])]
      simp [h, rest]
    · simp [h, rest, Line.kind_blanked]

theorem upToLine_span_block {b : Block} (h : Line.kind b.head ≠ .blank) (col : Nat) :
    ((blanking.block b).span col).upToLine = (b.span col).upToLine := by
  have head : (blanking.block b).head = b.head := Line.blanked_of_ne h
  have stop : (blanking.block b).stop = b.stop := stop_block b
  have line : (blanking.block b).line = b.line := rfl
  simp only [Block.span, Span.close, Span.upToLine, head, stop, line]

end Redraft

open Redraft

theorem Section.bare_ofBlock {b : Block} (h : Line.kind b.head ≠ .blank) :
    (ofBlock (blanking.block b)).bare = (ofBlock b).bare := by
  have head : (blanking.block b).head = b.head := Line.blanked_of_ne h
  have rest : (blanking.block b).rest = b.rest.map Line.blanked := rfl
  have line : (blanking.block b).line = b.line := rfl
  have pairs := filter_blanked (p := (· == .keyValue)) rfl b.rest
  have raw := filter_blanked (p := fun k => k != .keyValue && k != .blank) rfl b.rest
  simp only [ofBlock, bare, head, line, rest, pairs, raw, upToLine_span_block h]

theorem Content.bare_addLines (n : Nat) (ls : List String) :
    (empty.addLines n (ls.map Line.blanked)).bare = (empty.addLines n ls).bare := by
  have top : (ls.map Line.blanked).takeWhile isTop = (ls.takeWhile isTop).map Line.blanked :=
    takeWhile_map (r := blanking) keeps_isTop
  have lines : sectionLines (ls.map Line.blanked) = (sectionLines ls).map Line.blanked :=
    sectionLines_map (r := blanking) ls
  have blocks (m : Nat) : (Block.cut (fun l => Line.kind l == .sectionHeader) m
      ((sectionLines ls).map Line.blanked)).2 =
        (Block.cut (fun l => Line.kind l == .sectionHeader) m (sectionLines ls)).2.map
          blanking.block :=
    cut_map (r := blanking) (keeps_kind (· == .sectionHeader)) m _
  simp only [addLines_empty, bare, top, lines, blocks, keyValueLines_blanked, List.length_map,
    List.map_map, Content.mk.injEq, true_and, and_true]
  apply List.map_congr_left
  intro b hb
  have header : Line.kind b.head = .sectionHeader := Block.kind_of_mem_cut hb
  exact Section.bare_ofBlock (by simp [header])

section

variable {b : Block} (h : Line.kind b.head ≠ .blank)

include h

theorem Request.bare_ofBlock : (ofBlock (blanking.block b)).bare = (ofBlock b).bare := by
  have head : (blanking.block b).head = b.head := Line.blanked_of_ne h
  have rest : (blanking.block b).rest = b.rest.map Line.blanked := rfl
  have line : (blanking.block b).line = b.line := rfl
  simp only [ofBlock, bare, head, line, rest, Content.bare_addLines, upToLine_span_block h]

theorem Response.bare_ofBlock :
    (ofBlock (blanking.block b)).map bare = (ofBlock b).map bare := by
  have head : (blanking.block b).head = b.head := Line.blanked_of_ne h
  have rest : (blanking.block b).rest = b.rest.map Line.blanked := rfl
  have line : (blanking.block b).line = b.line := rfl
  simp only [ofBlock, head, line, rest]
  split
  · rfl
  · simp only [Except.map, bare, Content.bare_addLines, upToLine_span_block h]

end

theorem Span.upToLine_join {s s' t t' : Span} (hs : s'.upToLine = s.upToLine)
    (ht : t'.upToLine = t.upToLine) : (s'.join t').upToLine = (s.join t).upToLine := by
  simp only [upToLine, Span.mk.injEq, Point.mk.injEq, and_true] at hs ht
  simp only [upToLine, join, Point.line_later, hs, ht]

/-- Where two outcomes come to the same, both fail with one error, or both have results. -/
theorem Except.cases_of_map_eq {ε α β : Type} {f : α → β} {x x' : Except ε α}
    (h : x'.map f = x.map f) :
    (∃ e, x = .error e ∧ x' = .error e) ∨ ∃ a a', x = .ok a ∧ x' = .ok a' ∧ f a' = f a := by
  cases x with
  | error e =>
    cases x' with
    | error e' => exact .inl ⟨e, rfl, congrArg _ (Except.error.inj h)⟩
    | ok a' => cases h
  | ok a =>
    cases x' with
    | error e' => cases h
    | ok a' => exact .inr ⟨a, a', rfl, rfl, Except.ok.inj h⟩

theorem Entry.bare_ofBlock {b : Block} (h : Line.kind b.head ≠ .blank) :
    (ofBlock (blanking.block b)).map bare = (ofBlock b).map bare := by
  have request : (Request.ofBlock (blanking.block b.upToStatus)).bare =
      (Request.ofBlock b.upToStatus).bare := Request.bare_ofBlock h
  have requestSpan := congrArg Request.span request
  simp only [ofBlock, Redraft.upToStatus_block, fromStatus?_block]
  cases found : b.fromStatus? with
  | none =>
    simp only [Option.map_none, Except.map, bare, request, Except.ok.injEq, Entry.mk.injEq,
      true_and]
    exact requestSpan
  | some r =>
    have status : Line.kind r.head ≠ .blank := by
      rw [(Block.fromStatus?_spec found).2.2.2]
      decide
    simp only [Option.map_some]
    rcases Except.cases_of_map_eq (Response.bare_ofBlock status) with
      ⟨e, failed, failed'⟩ | ⟨p, p', made, made', response⟩
    · rw [failed, failed']
    · have span := Span.upToLine_join requestSpan (congrArg Response.span response)
      simp only [made, made', Except.map, bare, request, response, Option.map_some,
        Except.ok.injEq, Entry.mk.injEq, true_and]
      exact span

theorem Entry.bare_ofBlocks {bs : List Block} (h : ∀ b ∈ bs, Line.kind b.head ≠ .blank) :
    (ofBlocks (bs.map blanking.block)).map (List.map bare) = (ofBlocks bs).map (List.map bare) := by
  induction bs with
  | nil => rfl
  | cons b bs ih =>
    simp only [List.map_cons, ofBlocks]
    rcases Except.cases_of_map_eq (bare_ofBlock (h b List.mem_cons_self)) with
      ⟨e, failed, failed'⟩ | ⟨entry, entry', made, made', same⟩
    · rw [failed, failed']
    · rcases Except.cases_of_map_eq (ih fun c hc => h c (List.mem_cons_of_mem b hc)) with
        ⟨e, failed, failed'⟩ | ⟨entries, entries', others, others', rest⟩
      · rw [made, made', failed, failed']
      · simp only [made, made', others, others', Except.map, List.map_cons, same, rest]

namespace Document

theorem upToLine_spanOf (ls : List String) :
    (spanOf ls).upToLine = ⟨⟨0, 0⟩, ⟨ls.length - 1, 0⟩⟩ := by
  have stop := congrArg Span.stop (rows_spanOf ls)
  rw [Span.upToLine, start_spanOf]
  exact congrArg (Span.mk ⟨0, 0⟩) stop

/-- A file with its blank lines and comments emptied. -/
theorem bare_ofLines (ls : List String) :
    (ofLines (ls.map Line.blanked)).map bare = (ofLines ls).map bare := by
  have blocks : Block.entries 0 (ls.map Line.blanked) = (Block.entries 0 ls).map blanking.block :=
    entries_map (r := blanking) 0 ls
  have heads : ∀ b ∈ Block.entries 0 ls, Line.kind b.head ≠ .blank := by
    intro b hb
    have method : Line.kind b.head = .method := Block.kind_of_mem_cut hb
    simp [method]
  have span : (spanOf (ls.map Line.blanked)).upToLine = (spanOf ls).upToLine := by
    rw [upToLine_spanOf, upToLine_spanOf, List.length_map]
  rw [ofLines_eq, ofLines_eq, blocks]
  rcases Except.cases_of_map_eq (Entry.bare_ofBlocks heads) with
    ⟨e, failed, failed'⟩ | ⟨entries, entries', made, made', same⟩
  · rw [failed, failed']
    rfl
  · simp only [made, made', Except.map, bare, same, span]

theorem captures_bare (d : Document) : d.bare.captures = d.captures := by
  have responses : d.bare.responses = d.responses.map .bare := by
    simp only [Document.responses, bare, List.filterMap_map, List.map_filterMap]
    rfl
  have sections : d.bare.responseSections = d.responseSections.map .bare := by
    simp only [responseSections, responses, List.flatMap_map, List.map_flatMap]
    rfl
  rw [captures, captures, sections, List.filter_map, List.map_map]
  rfl

theorem contents_bare (d : Document) : d.bare.contents = d.contents.map .bare := by
  simp only [contents, bare, List.flatMap_map, List.map_flatMap]
  congr 1
  funext e
  cases h : e.response <;> simp [Entry.bare, Request.bare, Response.bare, h]

/-- Two trees with the same headers, regions included, and the same keys, values and raw lines of
sections, and with the same variables captured up to the same lines. They are the same trees but for
bodies, kept lines and the columns where parts end. -/
structure SameData (d d' : Document) : Prop where
  bare : d.bare = d'.bare
  headers : d.contents.map (·.headers) = d'.contents.map (·.headers)
  keyValues : d.contents.map (·.sections.map (·.keyValues)) =
    d'.contents.map (·.sections.map (·.keyValues))
  rawLines : d.contents.map (·.sections.map (·.rawLines)) =
    d'.contents.map (·.sections.map (·.rawLines))
  captures : d.captures = d'.captures

/-- What bare contents show of contents is the same where bare trees are. -/
theorem map_contents_of_bare {β : Type} {f : Content → β} (shown : ∀ c, f c.bare = f c)
    {d d' : Document} (h : d.bare = d'.bare) : d.contents.map f = d'.contents.map f := by
  have same := congrArg (·.contents.map f) h
  simpa only [contents_bare, List.map_map, Function.comp_def, shown] using same

theorem SameData.of_bare {d d' : Document} (h : d.bare = d'.bare) : SameData d d' where
  bare := h
  headers := map_contents_of_bare (fun _ => rfl) h
  keyValues := map_contents_of_bare (fun _ => List.map_map) h
  rawLines := map_contents_of_bare (fun _ => List.map_map) h
  captures := by rw [← captures_bare, h, captures_bare]

/-- Emptying a line that is blank or a comment. -/
theorem map_blanked_set {ls : List String} {i : Nat} {line : String} (hi : ls[i]? = some line)
    (blank : Line.kind line = .blank) : (ls.set i "").map Line.blanked = ls.map Line.blanked := by
  obtain ⟨lt, rfl⟩ := List.getElem?_eq_some_iff.mp hi
  have empty : Line.blanked "" = Line.blanked ls[i] := by
    rw [Line.blanked, Line.blanked, if_pos blank, ite_self]
  rw [List.map_set, empty, ← List.map_set, List.set_getElem_self]

end Document

namespace Line

theorem eq_of_head?_firstWord {cs : List Char} {c : Char} (h : cs ∈ comment)
    (first : (firstWord cs).head? = some c) : c = '#' := by
  obtain ⟨w, word⟩ := List.head?_eq_some_iff.mp first
  have mark := mem_comment_iff.mp h
  rw [dropBlank_eq_firstWord_append, word, List.cons_append, List.head?_cons] at mark
  exact Option.some.inj mark

/-- A comment has none of the forms that are tried before that of key/value lines. -/
theorem plain_of_comment {cs : List Char} (h : cs ∈ comment) :
    cs ∉ form .status ∧ cs ∉ form .method ∧ cs ∉ form .sectionHeader := by
  refine ⟨?_, ?_, ?_⟩
  · intro status
    obtain ⟨_, ⟨_, rfl, major, _, rfl⟩, behind, _, split⟩ :=
      (mem_word_form @solid_of_version).mp status
    have first : (firstWord cs).head? = some 'H' := by
      rw [← split]
      rfl
    exact absurd (eq_of_head?_firstWord h first) (by decide)
  · intro method
    obtain ⟨ne, upper⟩ := (mem_word_form @solid_of_isUpper).mp method
    obtain ⟨c, first⟩ := Option.isSome_iff_exists.mp (List.isSome_head?.mpr ne)
    have capital := upper c (List.mem_of_head? first)
    rw [eq_of_head?_firstWord h first] at capital
    exact absurd capital (by decide)
  · intro header
    have first := head?_of_bracketed (firstWord_of_sectionHeader header)
    exact absurd (eq_of_head?_firstWord h first) (by decide)

theorem kind_of_comment {line : String} (h : line.toList ∈ comment) :
    (kind line = .keyValue ↔ line.toList ∈ form .keyValue) ∧
      (kind line = .blank ↔ line.toList ∉ form .keyValue) := by
  obtain ⟨status, method, header⟩ := plain_of_comment h
  have blank : line.toList ∈ form .blank := (Language.mem_add _ _ _).mpr (.inr h)
  rw [kind_eq_iff, kind_eq_iff]
  simp [LineKind.before, status, method, header, blank]

end Line

namespace Document

/-- A line that starts with `#` is a comment, unless it has the form of a key and a value, which
goes first. With an empty line in the place of a comment, a file is read as before, to the same
data. -/
theorem comments_bring_nothing :
    (∀ line : String, line.toList ∈ Line.comment →
      (Line.kind line = .keyValue ↔ line.toList ∈ Line.form .keyValue) ∧
      (Line.kind line = .blank ↔ line.toList ∉ Line.form .keyValue)) ∧
    ∀ (ls : List String) (d : Document) (i : Nat) (line : String), ofLines ls = .ok d →
      ls[i]? = some line → line.toList ∈ Line.comment → line.toList ∉ Line.form .keyValue →
      ∃ d', ofLines (ls.set i "") = .ok d' ∧ SameData d d' := by
  refine ⟨fun line h => Line.kind_of_comment h, ?_⟩
  intro ls d i line read hi comment noKey
  have blank := (Line.kind_of_comment comment).2.mpr noKey
  -- With all blank lines emptied, the two files are the same.
  have same : (ofLines (ls.set i "")).map bare = (ofLines ls).map bare := by
    rw [← bare_ofLines, map_blanked_set hi blank, bare_ofLines]
  rcases Except.cases_of_map_eq same with ⟨e, failed, _⟩ | ⟨d₀, d', read₀, read', bare⟩
  · rw [read] at failed
    cases failed
  · obtain rfl := Except.ok.inj (read.symm.trans read₀)
    exact ⟨d', read', .of_bare bare.symm⟩

/-- An indented comment in a section of captures, with a colon behind a word. -/
theorem comments_bring_nothing_indented :
    Line.kind " #id: body" = .blank ∧
    ∃ d d', ofLines ["GET /a", "HTTP/1.1 200", "[Captures]", " #id: body", "x: body"] = .ok d ∧
      ofLines ["GET /a", "HTTP/1.1 200", "[Captures]", "", "x: body"] = .ok d' ∧ SameData d d' := by
  have comment : " #id: body".toList ∈ Line.comment := Line.mem_comment_iff.mpr (by decide)
  have noKey : " #id: body".toList ∉ Line.form .keyValue := by
    rw [← Line.isKeyValue_iff]
    decide +kernel
  have read : (ofLines ["GET /a", "HTTP/1.1 200", "[Captures]", " #id: body", "x: body"]).isOk =
      true := by decide +kernel
  obtain ⟨d, h⟩ := exists_of_isOk read
  obtain ⟨d', h', same⟩ := comments_bring_nothing.2 _ d 3 _ h rfl comment noKey
  exact ⟨(comments_bring_nothing.1 _ comment).2.mpr noKey, d, d', h, h', same⟩

/-- Without a blank in front of the colon, a line that starts with `#` is a key with a value, and in
a section of captures the key is a variable. -/
theorem comment_captured : "#id: body".toList ∈ Line.comment ∧
    Line.kind "#id: body" = .keyValue ∧
    (ofLines ["GET /a", "HTTP/1.1 200", "[Captures]", "#id: body"]).toOption.map
      (·.variablesAt 4) = some ["#id"] ∧
    (ofLines ["GET /a", "HTTP/1.1 200", "[Captures]", ""]).toOption.map (·.variablesAt 4) =
      some [] := by
  refine ⟨Line.mem_comment_iff.mpr (by decide), ?_, ?_, ?_⟩
  all_goals decide +kernel

end Document

end HurlAssist
