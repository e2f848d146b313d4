import HurlAssist.Proofs.Document.LineExchange
import HurlAssist.Proofs.Editor.Offers
import HurlAssist.Proofs.EntryPoints

/-!
The filters that a server offers at a cursor in a section of a response. They depend on the quotes
in front of the cursor, and at the start of a line on the first character of the line
(`Editor.Server.filters_by_text_before`).
-/

namespace HurlAssist

open LineRange

namespace Document

variable {ls : List String} {d : Document} {s : Section}

/-- In a section that is not called `Captures`, quotes decide alone whether a filter can be
written. -/
theorem takesFilter_of_has (h : ofLines ls = .ok d) (hs : s ∈ d.responseSections)
    (other : s.name.text ≠ "Captures") {p : Point} (has : s.Has p.line) {t : String}
    (here : ls[p.line]? = some t) :
    d.takesFilter p = true ↔ (t.toList.take (p.col + 1)).count '"' % 2 = 0 := by
  rw [← insideQuotes_eq_false, takesFilter_eq_true h]
  constructor
  · rintro ⟨_, _, _, text, here', quotes, _⟩
    obtain rfl := Option.some.inj (here.symm.trans here')
    exact quotes
  · intro quotes
    exact ⟨s, hs, has, t, here, quotes, fun captures => absurd (Section.isCaptures_iff.mp captures)
      other⟩

end Document

namespace Editor

namespace Completion

def isFilter (item : Completion) : Bool := item.kind == .filter

/-- The filters among items. -/
def filters (items : List Completion) : List Completion := items.filter isFilter

/-- At a point either all filters are offered or none is. -/
theorem filters_complete (d : Document) (api : Api.Definition) (p : Point) :
    filters (complete d api p) =
      if d.takesFilter p then Filter.catalog.map ofFilter else [] := by
  have captured : ((d.variablesAt p.line).map ofVariable).filter isFilter = [] :=
    filter_of_other isFilter (f := ofVariable) (fun _ => rfl) true _
  have kept (offered : Bool) :
      (if offered then Filter.catalog.map ofFilter else []).filter isFilter =
        if offered then Filter.catalog.map ofFilter else [] := by
    cases offered with
    | true => simp [isFilter, ofFilter]
    | false => rfl
  simp only [filters, complete, List.filter_append, captured, kept,
    filter_of_other isFilter (f := plain .method) (fun _ => rfl),
    filter_of_other isFilter (f := plain .sectionTag) (fun _ => rfl),
    filter_of_other isFilter (f := plain .path) (fun _ => rfl), List.nil_append, List.append_nil]

end Completion

/-- The quotes that are counted for a cursor are those in front of it, except at the start of a
line, where the first character is counted. -/
theorem even_quotes_at_point (cs : List Char) (p : Nat) :
    (cs.take (p - 1 + 1)).count '"' % 2 = 0 ↔
      (cs.take p).count '"' % 2 = 0 ∧ ¬ (p = 0 ∧ cs.head? = some '"') := by
  cases p with
  | zero =>
    cases cs with
    | nil => simp
    | cons c cs => by_cases quote : c = '"' <;> simp [quote]
  | succ p => simp

namespace Server

variable {m : Type → Type} [Monad m] [LawfulMonad m] {disk : Disk m} {s : Server} {url : Url}
  {text : String} {d : Document} {sec : Section} {line : Nat} {t : String}

theorem completions?_of_parse (view : s.view? disk url = pure (some (.ofText text)))
    (h : Document.parse text = .ok d) (c : Cursor) :
    s.completions? disk url c = pure (some (complete d s.api c.point)) := by
  have tree : (View.ofText text).tree = (Document.parse text).toOption := rfl
  rw [completions?_of_view view, View.offered, tree, h]
  rfl

/-- The filters on a line of a section that is not called `Captures`. -/
theorem filters_of_has (h : Document.parse text = .ok d) (hs : sec ∈ d.responseSections)
    (other : sec.name.text ≠ "Captures") (has : sec.Has line)
    (here : (Text.lines text)[line]? = some t) (api : Api.Definition) (p : Nat) :
    Completion.filters (complete d api (Cursor.point ⟨line, p⟩)) =
      if (t.toList.take p).count '"' % 2 = 0 ∧ ¬ (p = 0 ∧ t.toList.head? = some '"')
      then Filter.catalog.map .ofFilter else [] := by
  have takes : d.takesFilter (Cursor.point ⟨line, p⟩) = true ↔ _ :=
    (Document.takesFilter_of_has h hs other has here).trans (even_quotes_at_point t.toList p)
  simp only [Completion.filters_complete, takes]

theorem filters_eq_iff {P Q : Prop} [Decidable P] [Decidable Q] :
    (if P then Filter.catalog.map Completion.ofFilter else []) =
      (if Q then Filter.catalog.map Completion.ofFilter else []) ↔ (P ↔ Q) := by
  by_cases hP : P <;> by_cases hQ : Q <;> simp [hP, hQ, Filter.catalog]

/-- On a line of a response section that is not called `Captures`, a server offers all filters or
none. It offers them if the quotes in front of the cursor are even in number, but not at the start
of a line that starts with a quote, though no quote stands in front of the cursor there. So they are
offered as before if the line is changed behind the cursor and stays of its kind, except that at the
start of a line they are only if both lines start with a quote or neither does. -/
theorem filters_by_text_before (view : s.view? disk url = pure (some (.ofText text)))
    (h : Document.parse text = .ok d) (hs : sec ∈ d.responseSections)
    (other : sec.name.text ≠ "Captures") (has : sec.Has line)
    (here : (Text.lines text)[line]? = some t) (p : Nat) :
    ∃ items, s.completions? disk url ⟨line, p⟩ = pure (some items) ∧
      Completion.filters items =
        (if (t.toList.take p).count '"' % 2 = 0 ∧ ¬ (p = 0 ∧ t.toList.head? = some '"')
          then Filter.catalog.map .ofFilter else []) ∧
      ∀ (s' : Server) (url' : Url) (text' t' : String),
        s'.view? disk url' = pure (some (.ofText text')) →
        Text.lines text' = (Text.lines text).set line t' → Line.kind t' = Line.kind t →
        t'.toList.take p = t.toList.take p →
        ∃ items', s'.completions? disk url' ⟨line, p⟩ = pure (some items') ∧
          (Completion.filters items' = Completion.filters items ↔
            (p = 0 → (t'.toList.head? = some '"' ↔ t.toList.head? = some '"'))) := by
  refine ⟨_, completions?_of_parse view h _, filters_of_has h hs other has here s.api p, ?_⟩
  intro s' url' text' t' view' edited kind before
  obtain ⟨k, known, plain⟩ := (Document.section_laidOut h hs).plain line has
  rw [kindAt?, here] at known
  obtain rfl := Option.some.inj known
  have exchanged : Exchanged (Text.lines text) (Text.lines text') line :=
    edited ▸ Exchanged.of_set here kind plain
  obtain ⟨d', h'⟩ := exchanged.exists_ok h
  obtain ⟨sec', hs', lines, name⟩ := exchanged.exists_section h h' hs
  have here' : (Text.lines text')[line]? = some t' := by
    rw [edited]
    exact List.getElem?_set_self (List.getElem?_eq_some_iff.mp here).1
  refine ⟨_, completions?_of_parse view' h' _, ?_⟩
  rw [filters_of_has h' hs' (name ▸ other) ((lines line).mpr has) here',
    filters_of_has h hs other has here, filters_eq_iff, before]
  cases p with
  | zero => simp only [List.take_zero, List.count_nil, Nat.zero_mod, true_and, not_iff_not,
      true_imp_iff]
  | succ p => simp

/-- Behind an opening quote, with another character and a closing quote put in behind the cursor. -/
theorem filters_by_text_before_quoted :
    let text := "GET /a\nHTTP/1.1 200\n[Asserts]\nbody == \"a"
    let edited := "GET /a\nHTTP/1.1 200\n[Asserts]\nbody == \"b\" c"
    let disk := ({} : Tree).disk
    let url : Url := ⟨"file:///a.hurl", some (.ofText "/a.hurl")⟩
    let server (text : String) : Server := ({} : Server).handle (.opened url text)
    ∃ items, (server text).completions? disk url ⟨3, 9⟩ = pure (some items) ∧
      Completion.filters items = [] ∧
      ∃ items', (server edited).completions? disk url ⟨3, 9⟩ = pure (some items') ∧
        Completion.filters items' = Completion.filters items := by
  intro text edited disk url server
  have read : ((Document.parse text).toOption.any fun d => d.responseSections.any fun s =>
      s.name.text == "Asserts" && s.span.start.line == 2 && s.span.stop.line == 3) = true := by
    decide +kernel
  obtain ⟨d, h, sec, hs, name, has⟩ := Document.exists_section_of_any read
  have other : sec.name.text ≠ "Captures" := by
    rw [name]
    decide
  have view (text : String) : (server text).view? disk url = pure (some (.ofText text)) :=
    view?_opened disk rfl
  have here : (Text.lines text)[3]? = some "body == \"a" := by decide +kernel
  obtain ⟨items, answer, filters, after⟩ :=
    filters_by_text_before (view text) h hs other (has 3 (by decide) (by decide)) here 9
  obtain ⟨items', answer', same⟩ := after (server edited) url edited "body == \"b\" c" (view edited)
    (by decide +kernel) (by decide +kernel) (by decide +kernel)
  refine ⟨items, answer, filters.trans (if_neg (by decide +kernel)), items', answer', ?_⟩
  exact same.mpr nofun

/-- At the start of a line that starts with a quote no quote stands in front of the cursor, but no
filters are offered. They are if another character takes the place of the one behind the cursor. -/
theorem quote_behind_cursor_counted :
    let text := "GET /a\nHTTP/1.1 200\n[Asserts]\n\"a\" == 1"
    let edited := "GET /a\nHTTP/1.1 200\n[Asserts]\nxa\" == 1"
    let disk := ({} : Tree).disk
    let url : Url := ⟨"file:///a.hurl", some (.ofText "/a.hurl")⟩
    let server (text : String) : Server := ({} : Server).handle (.opened url text)
    ((Document.parse text).toOption.any fun d => d.responseSections.any fun s =>
      s.name.text == "Asserts" && s.span.start.line == 2 && s.span.stop.line == 3) = true ∧
    ("\"a\" == 1".toList.take 0).count '"' % 2 = 0 ∧
    ((server text).completions? disk url ⟨3, 0⟩).run.map Completion.filters = some [] ∧
    Text.lines edited = (Text.lines text).set 3 "xa\" == 1" ∧
    Line.kind "xa\" == 1" = Line.kind "\"a\" == 1" ∧
    ((server edited).completions? disk url ⟨3, 0⟩).run.map Completion.filters =
      some (Filter.catalog.map .ofFilter) := by
  intro text edited disk url server
  have offered {text : String} {d : Document} (h : Document.parse text = .ok d) :
      ((server text).completions? disk url ⟨3, 0⟩).run.map Completion.filters =
        some (if d.takesFilter ⟨3, 0⟩ then Filter.catalog.map .ofFilter else []) := by
    rw [completions?_of_parse (view?_opened disk rfl) h]
    exact congrArg some (Completion.filters_complete d _ _)
  have refused : (Document.parse text).toOption.any (!·.takesFilter ⟨3, 0⟩) = true := by
    decide +kernel
  have taken : (Document.parse edited).toOption.any (·.takesFilter ⟨3, 0⟩) = true := by
    decide +kernel
  obtain ⟨d, h, refused⟩ := exists_of_any refused
  obtain ⟨d', h', taken⟩ := exists_of_any taken
  refine ⟨by decide +kernel, rfl, ?_, by decide +kernel, by decide +kernel, ?_⟩
  · rw [offered h, if_neg (by simpa using refused)]
  · rw [offered h', if_pos taken]

end Server

end Editor

end HurlAssist
