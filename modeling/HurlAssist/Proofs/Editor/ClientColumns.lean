import HurlAssist.Proofs.Document.Contents
import HurlAssist.Proofs.Document.JoinedLines
import HurlAssist.Proofs.Document.LineForms
import HurlAssist.Proofs.Editor.FilterOffers

/-!
The columns that an editor sends. They are numbers of code units of UTF-16, but are taken for
numbers of characters. So an answer is the one for the character in front of the cursor as long as
each character in front of it takes one code unit (`Editor.Server.answers_for_character_iff`).
-/

namespace HurlAssist

open LineRange

namespace Text

/-- The character takes two code units of UTF-16, where others take one. -/
def isWide (c : Char) : Bool := 0x10000 ≤ c.toNat

/-- The number of code units that a text takes in UTF-16. -/
def units : List Char → Nat
  | [] => 0
  | c :: cs => (if isWide c then 2 else 1) + units cs

theorem units_eq (cs : List Char) : units cs = cs.length + cs.countP isWide := by
  induction cs with
  | nil => rfl
  | cons c cs ih =>
    rw [units, ih, List.length_cons, List.countP_cons]
    split <;> omega

theorem units_of_narrow {cs : List Char} (narrow : ∀ c ∈ cs, isWide c = false) :
    units cs = cs.length := by
  rw [units_eq, List.countP_eq_zero.mpr fun c hc => by simp [narrow c hc], Nat.add_zero]

theorem isWide_of_isBlank {c : Char} (h : isBlank c = true) : isWide c = false := by
  simp only [isBlank, Bool.or_eq_true, Bool.and_eq_true, decide_eq_true_eq, beq_iff_eq] at h
  simp only [isWide, decide_eq_false_iff_not]
  omega

theorem isWide_of_isUpper {c : Char} (h : Line.isUpper c = true) : isWide c = false := by
  simp only [Line.isUpper, Bool.and_eq_true, decide_eq_true_eq] at h
  have below : c.toNat ≤ 90 := h.2
  simp only [isWide, decide_eq_false_iff_not]
  omega

theorem take_firstWord (cs : List Char) :
    cs.take (indent cs + (firstWord cs).length) = cs.takeWhile isBlank ++ firstWord cs := by
  have parts := congrArg (List.take (indent cs + (firstWord cs).length)) (eq_blanks_append_words cs)
  refine parts.trans (List.take_left' ?_)
  rw [List.length_append, indent]

/-- The characters up to the end of a method take one code unit each. -/
theorem isWide_of_mem_method {text : String} (method : Line.kind text = .method) {c : Char}
    (hc : c ∈ text.toList.take (indent text.toList + (firstWord text.toList).length)) :
    isWide c = false := by
  have isMethod := (Line.isMethod_iff text).mpr (method ▸ (Line.mem_form_kind text).1)
  have capitals : (firstWord text.toList).all Line.isUpper = true :=
    (Bool.and_eq_true_iff.mp isMethod).2
  rw [take_firstWord] at hc
  rcases List.mem_append.mp hc with blank | capital
  · exact isWide_of_isBlank (List.mem_takeWhile_imp blank)
  · exact isWide_of_isUpper (List.all_eq_true.mp capitals c capital)

theorem ne_of_isWide {a c : Char} (wide : isWide a = true) (narrow : isWide c = false) : a ≠ c := by
  rintro rfl
  rw [wide] at narrow
  cases narrow

/-- A line of a wide character and a quote is body text. -/
theorem kind_of_isWide {a : Char} (wide : isWide a = true) :
    Line.kind (String.ofList [a, '"']) = .body := by
  have letter : a ≠ 'H' := ne_of_isWide wide (by decide)
  have bracket : a ≠ '[' := ne_of_isWide wide (by decide)
  have colon : a ≠ ':' := ne_of_isWide wide (by decide)
  have hash : a ≠ '#' := ne_of_isWide wide (by decide)
  have blank : isBlank a = false :=
    Bool.eq_false_iff.mpr fun h => ne_of_isWide wide (isWide_of_isBlank h) rfl
  have upper : Line.isUpper a = false :=
    Bool.eq_false_iff.mpr fun h => ne_of_isWide wide (isWide_of_isUpper h) rfl
  have quote : isBlank '"' = false := by decide
  have word : firstWord [a, '"'] = [a, '"'] := by simp [firstWord, dropBlank, blank, quote]
  have whole : trim [a, '"'] = [a, '"'] := by simp [trim, trimEnd, dropBlank, blank, quote]
  simp [Line.kind, Line.isStatus, Line.isMethod, Line.sectionName?, Line.isKeyValue, Line.cutAt,
    Line.isBlankOrComment, Line.afterHttp, dropBlank, word, whole, letter, bracket, colon, hash,
    blank, upper]

end Text

/-- The places that completion is meant for, by the character in front of the cursor: it ends the
method of a request, it is on the target of one, or it is in a section. -/
inductive Document.MeantAt (d : Document) (p : Point) : Prop
  | method {e} (he : e ∈ d.entries) (ends : e.request.method.span.stop = ⟨p.line, p.col + 1⟩) :
      MeantAt d p
  | target (on : d.onTarget p = true) : MeantAt d p
  | section_ {c s} (hc : c ∈ d.contents) (hs : s ∈ c.sections)
      (spans : s.span.spansLine p.line = true) : MeantAt d p

namespace Editor

open Text

/-- A cursor behind some characters of a line stands, in code units, for the last of them, and as
much further right as there are wide characters among them. -/
theorem Cursor.point_units (line : Nat) {before : List Char} (ne : before ≠ []) :
    Cursor.point ⟨line, units before⟩ = ⟨line, before.length - 1 + before.countP isWide⟩ := by
  have positive := List.length_pos_of_ne_nil ne
  simp only [Cursor.point, units_eq, Point.mk.injEq, true_and]
  omega

theorem Cursor.point_units_eq_iff (line : Nat) {before : List Char} (ne : before ≠ []) :
    Cursor.point ⟨line, units before⟩ = ⟨line, before.length - 1⟩ ↔
      ∀ c ∈ before, isWide c = false := by
  rw [Cursor.point_units line ne]
  simp only [Point.mk.injEq, true_and, Nat.add_eq_left, List.countP_eq_zero, Bool.not_eq_true]

/-- The paths of the API are offered on targets, and nowhere else. -/
theorem path_mem_complete {d : Document} {api : Api.Definition} {p : Point} {path : String} :
    .plain .path path ∈ complete d api p ↔ d.onTarget p = true ∧ path ∈ api.paths := by
  rw [mem_complete]
  simp [Completion.plain, Completion.ofVariable, Completion.ofFilter]

namespace Server

/-- A server sees a text with this document, and a line of the text is made of these characters in
front of the cursor and behind it. -/
structure Place (disk : Disk Id) (s : Server) (url : Url) (d : Document) (line : Nat)
    (before after : List Char) : Prop where
  seen : ∃ text, s.view? disk url = pure (some (.ofText text)) ∧ Document.parse text = .ok d ∧
    (Text.lines text)[line]? = some (String.ofList (before ++ after))
  notFirst : before ≠ []

/-- Asked about the cursor behind these characters, the server answers for the last of them. -/
def AnswersFor (disk : Disk Id) (s : Server) (url : Url) (d : Document) (line : Nat)
    (before : List Char) : Prop :=
  (s.completions? disk url ⟨line, units before⟩).run =
    some (complete d s.api ⟨line, before.length - 1⟩)

namespace Place

variable {disk : Disk Id} {s : Server} {url : Url} {d : Document} {line : Nat}
  {before after : List Char} (place : Place disk s url d line before after)

include place

theorem completions? (c : Cursor) :
    (s.completions? disk url c).run = some (complete d s.api c.point) := by
  obtain ⟨text, view, h, _⟩ := place.seen
  rw [completions?_of_parse view h]
  rfl

theorem answersFor (narrow : ∀ c ∈ before, isWide c = false) :
    AnswersFor disk s url d line before := by
  rw [AnswersFor, place.completions?, units_of_narrow narrow]
  rfl

/-- Up to the end of a method no character is wide. -/
theorem narrow_of_method {e : Entry} (he : e ∈ d.entries)
    (ends : e.request.method.span.stop = ⟨line, before.length⟩) :
    ∀ c ∈ before, isWide c = false := by
  obtain ⟨text, _, h, here⟩ := place.seen
  obtain ⟨l, method, written⟩ := Document.exists_methodLine h he
  rw [written.method] at ends
  simp only [Span.onLine, Point.mk.injEq] at ends
  obtain ⟨sameLine, col⟩ := ends
  rw [Nat.max_eq_left (Nat.le_add_right _ _)] at col
  have whole : l.toList = before ++ after := by
    have found := method.here
    rw [sameLine, here] at found
    rw [← Option.some.inj found, String.toList_ofList]
  intro c hc
  refine isWide_of_mem_method method.kind ?_
  rw [col, whole, List.take_left]
  exact hc

/-- A column that is moved right stays on a target unless it leaves the line. -/
theorem onTarget_iff (on : d.onTarget ⟨line, before.length - 1⟩ = true) (n : Nat) :
    d.onTarget ⟨line, before.length - 1 + n⟩ = true ↔ n ≤ after.length + 1 := by
  obtain ⟨text, _, h, here⟩ := place.seen
  obtain ⟨l, method, start, _⟩ := (Document.onTarget_iff h _).mp on
  have positive := List.length_pos_of_ne_nil place.notFirst
  have length : l.length = before.length + after.length := by
    obtain rfl := Option.some.inj (here.symm.trans method.here)
    simp
  rw [Document.onTarget_iff h]
  constructor
  · rintro ⟨l', method', _, stop⟩
    obtain rfl := Option.some.inj (method.here.symm.trans method'.here)
    dsimp only at stop
    omega
  · intro le
    refine ⟨l, method, Nat.le_trans start (Nat.le_add_right _ _), ?_⟩
    dsimp only
    omega

end Place

/-- A line of body text can be all of a section of a file. -/
theorem exists_section_of_body {l : String} (whole : IsLine l) (body : Line.kind l = .body) :
    ∃ text d, Document.parse text = .ok d ∧ (Text.lines text)[3]? = some l ∧
      ∃ sec ∈ d.responseSections, sec.Has 3 ∧ sec.name.text = "Asserts" := by
  have read : ((Document.ofLines ["GET /a", "HTTP/1.1 200", "[Asserts]", "x"]).toOption.any
      fun d => d.responseSections.any fun s => s.name.text == "Asserts" &&
        s.span.start.line == 2 && s.span.stop.line == 3) = true := by
    decide +kernel
  obtain ⟨d, h, sec, hs, name, has⟩ := Document.exists_section_of_any read
  -- the line takes the place of the last one, which is body text as well
  have exchanged : Exchanged ["GET /a", "HTTP/1.1 200", "[Asserts]", "x"]
      (["GET /a", "HTTP/1.1 200", "[Asserts]", "x"].set 3 l) 3 :=
    .of_set rfl (body.trans (by decide)) (by decide)
  obtain ⟨d', h'⟩ := exchanged.exists_ok h
  obtain ⟨sec', hs', lines, name'⟩ := exchanged.exists_section h h' hs
  let text := joined "GET /a" [(.feed, "HTTP/1.1 200"), (.feed, "[Asserts]"), (.feed, l)]
  have cut : Text.lines text = ["GET /a", "HTTP/1.1 200", "[Asserts]", l] := by
    apply lines_joined
    simp only [List.map_cons, List.map_nil, List.forall_mem_cons]
    exact ⟨by decide, by decide, by decide, whole, nofun⟩
  have has' : sec'.Has 3 := (lines 3).mpr (has 3 (by decide) (by decide))
  refine ⟨text, d', ?_, ?_, sec', hs', has', name'.trans name⟩
  · rw [Document.parse, cut]
    exact h'
  · rw [cut]
    rfl

/-- Behind a wide character with a quote behind it, the answer is the one for the quote. -/
theorem exists_wrong_place {a : Char} (wide : isWide a = true) : ∃ disk s url d line,
    Place disk s url d line [a] ['"'] ∧ d.MeantAt ⟨line, 0⟩ ∧
      ¬ AnswersFor disk s url d line [a] := by
  have quote : a ≠ '"' := ne_of_isWide wide (by decide)
  have feed : '\n' ≠ a := (ne_of_isWide wide (by decide)).symm
  have whole : IsLine (String.ofList [a, '"']) := by
    constructor <;> simp [feed]
  obtain ⟨text, d, h, here, sec, hs, has, name⟩ :=
    exists_section_of_body whole (kind_of_isWide wide)
  have other : sec.name.text ≠ "Captures" := by
    rw [name]
    decide
  let url : Url := ⟨"file:///a.hurl", none⟩
  let s : Server := ({} : Server).handle (.opened url text)
  have place : Place ({} : Tree).disk s url d 3 [a] ['"'] :=
    ⟨⟨text, view?_opened _ rfl, h, here⟩, List.cons_ne_nil a []⟩
  obtain ⟨c, hc, hsc⟩ := Document.exists_content_of_mem_responseSections hs
  have spans : sec.span.spansLine 3 = true := Span.spansLine_iff.mpr ⟨Nat.le_of_lt has.1, has.2⟩
  refine ⟨_, s, url, d, 3, place, .section_ hc hsc spans, ?_⟩
  intro right
  have two : units [a] = 2 := by simp [units, wide]
  rw [AnswersFor, place.completions?, two] at right
  have same := congrArg Completion.filters (Option.some.inj right)
  have one : (⟨3, [a].length - 1⟩ : Point) = Cursor.point ⟨3, 1⟩ := rfl
  rw [one, filters_of_has h hs other has here, filters_of_has h hs other has here,
    filters_eq_iff] at same
  simp [quote] at same

/-- A cursor behind some characters of a line is taken for the last of them, moved right by as many
columns as there are wide characters among them: the column is right exactly if there are none. So
of a set of characters, the answers in all places that completion is meant for, with only characters
of the set in front, are those for the character in front of the cursor, if and only if no character
of the set is wide. At the end of a method, and wherever else no wide character stands in front, the
answer is the one for that character. In a target, where all paths of the API should be offered,
they are as long as at most one wide character more stands in front of the cursor than characters
behind it. -/
theorem answers_for_character_iff (A : Char → Prop) :
    (∀ line before, before ≠ [] →
      Cursor.point ⟨line, units before⟩ = ⟨line, before.length - 1 + before.countP isWide⟩ ∧
      (Cursor.point ⟨line, units before⟩ = ⟨line, before.length - 1⟩ ↔
        ∀ c ∈ before, isWide c = false)) ∧
    ((∀ disk s url d line before after, Place disk s url d line before after →
        (∀ c ∈ before, A c) → d.MeantAt ⟨line, before.length - 1⟩ →
        AnswersFor disk s url d line before) ↔
      ∀ c, A c → isWide c = false) ∧
    (∀ disk s url d line before after, Place disk s url d line before after →
      (∀ c ∈ before, isWide c = false) ∨
        (∃ e ∈ d.entries, e.request.method.span.stop = ⟨line, before.length⟩) →
      AnswersFor disk s url d line before) ∧
    ∀ disk s url d line before after, Place disk s url d line before after →
      d.onTarget ⟨line, before.length - 1⟩ = true →
      ∃ items, (s.completions? disk url ⟨line, units before⟩).run = some items ∧
        ∀ path ∈ s.api.paths, .plain .path path ∈ items ↔
          before.countP isWide ≤ after.length + 1 := by
  refine ⟨?_, ?_, ?_, ?_⟩
  · intro line before ne
    exact ⟨Cursor.point_units line ne, Cursor.point_units_eq_iff line ne⟩
  · constructor
    · intro right c hc
      rw [Bool.eq_false_iff]
      intro wide
      obtain ⟨disk, s, url, d, line, place, meant, wrong⟩ := exists_wrong_place wide
      exact wrong (right disk s url d line [c] _ place (by simpa using hc) meant)
    · intro narrow disk s url d line before after place among _
      exact place.answersFor fun c hc => narrow c (among c hc)
  · rintro disk s url d line before after place (narrow | ⟨e, he, ends⟩)
    · exact place.answersFor narrow
    · exact place.answersFor (place.narrow_of_method he ends)
  · intro disk s url d line before after place on
    refine ⟨_, place.completions? _, ?_⟩
    intro path hpath
    rw [path_mem_complete, Cursor.point_units line place.notFirst, place.onTarget_iff on]
    exact and_iff_left hpath

/-- In a target, behind a letter with an accent, and behind a wide character that follows it. -/
theorem answers_for_character_iff_target :
    let text := "GET /é😀"
    let disk := ({} : Tree).disk
    let url : Url := ⟨"file:///a.hurl", none⟩
    let s : Server := ({ api := ⟨[⟨"/a", .null⟩]⟩ } : Server).handle (.opened url text)
    Cursor.point ⟨0, 8⟩ = ⟨0, 7⟩ ∧
    (∃ d, Document.parse text = .ok d ∧
      (s.completions? disk url ⟨0, 6⟩).run = some (complete d s.api ⟨0, 5⟩)) ∧
    ∃ items, (s.completions? disk url ⟨0, 8⟩).run = some items ∧ .plain .path "/a" ∈ items := by
  intro text disk url s
  obtain ⟨columns, _, answers, paths⟩ := answers_for_character_iff fun c => isWide c = false
  have read : (Document.parse text).toOption.any (·.onTarget ⟨0, 6⟩) = true := by decide +kernel
  obtain ⟨d, h, on⟩ := exists_of_any read
  have here : (Text.lines text)[0]? = some text := by decide +kernel
  have view : s.view? disk url = pure (some (.ofText text)) := view?_opened disk rfl
  have accent : Place disk s url d 0 ['G', 'E', 'T', ' ', '/', 'é'] ['😀'] :=
    ⟨⟨text, view, h, here⟩, List.cons_ne_nil _ _⟩
  have wide : Place disk s url d 0 ['G', 'E', 'T', ' ', '/', 'é', '😀'] [] :=
    ⟨⟨text, view, h, here⟩, List.cons_ne_nil _ _⟩
  have sixth : units ['G', 'E', 'T', ' ', '/', 'é'] = 6 := by decide
  have eighth : units ['G', 'E', 'T', ' ', '/', 'é', '😀'] = 8 := by decide
  have column := (columns 0 _ wide.notFirst).1
  have answer := answers _ _ _ _ _ _ _ accent (.inl (by simp [isWide]))
  obtain ⟨items, offered, path⟩ := paths _ _ _ _ _ _ _ wide on
  rw [eighth] at column offered
  rw [AnswersFor, sixth] at answer
  exact ⟨column, ⟨d, h, answer⟩, items, offered, (path "/a" List.mem_cons_self).mpr (by decide)⟩

/-- At the end of a target with two wide characters, a path can be completed. But the column that
the server goes by is two further right, where it finds nothing. -/
theorem path_missed_behind_wide :
    let text := "GET /😀😀"
    let url : Url := ⟨"file:///a.hurl", none⟩
    let s : Server := ({ api := ⟨[⟨"/a", .null⟩]⟩ } : Server).handle (.opened url text)
    (Document.parse text).toOption.map (complete · s.api ⟨0, text.toList.length - 1⟩) =
      some [.plain .path "/a"] ∧
    (s.completions? ({} : Tree).disk url ⟨0, units text.toList⟩).run = some [] := by
  decide +kernel

end Server

end Editor

end HurlAssist
