import HurlAssist.CommandLine
import HurlAssist.Disk.Tree
import HurlAssist.Editor.Server
import HurlAssist.Proofs.Text.Octets

/-!
The ways in which a text comes to the program: an editor opens it, the server reads it from disk, or a
command reads it from a file or from its input. All of them see the same document
(`CommandLine.text_seen_alike`).
-/

namespace HurlAssist

variable {m : Type → Type} [Monad m] {disk : Disk m} {text : String}

/-- The text lies on disk, where the URI or the path leads to. -/
def Disk.Holds (disk : Disk m) (uri text : String) : Prop :=
  disk.read (.ofUri uri) = pure (.ok (Octets.ofText text))

theorem decodeText_ofText (text : String) : decodeText (Octets.ofText text) = .ok text := by
  rw [decodeText, Octets.text?_ofText]

theorem Disk.Holds.readLines [LawfulMonad m] {uri : String} (h : disk.Holds uri text) :
    disk.readLines (.ofUri uri) = pure (.ok (Text.lines text)) := by
  have stored : disk.read (.ofUri uri) = pure (.ok (Octets.ofText text)) := h
  have decoded : (Except.ok (Octets.ofText text)).bind decodeText = .ok text :=
    decodeText_ofText text
  simp only [Disk.readLines, Disk.readText, stored, pure_bind, decoded]

namespace Editor

namespace Completion

def isVariable (item : Completion) : Bool := item.kind == .capturedVariable

/-- The labels of the variables among items. -/
def variableLabels (items : List Completion) : List String :=
  (items.filter isVariable).map Completion.label

theorem filter_of_other {α : Type} (q : Completion → Bool) {f : α → Completion}
    (other : ∀ a, q (f a) = false) (offered : Bool) (as : List α) :
    (if offered then as.map f else []).filter q = [] := by
  cases offered with
  | true => simp [other]
  | false => rfl

/-- Wherever on a line items are asked for, the variables among them are those that the line
knows. -/
theorem variableLabels_complete (d : Document) (api : Api.Definition) (p : Point) :
    variableLabels (complete d api p) = d.variablesAt p.line := by
  have kept : ((d.variablesAt p.line).map ofVariable).filter isVariable =
      (d.variablesAt p.line).map ofVariable := by
    simp [isVariable, ofVariable]
  have labels : label ∘ ofVariable = id := rfl
  simp only [variableLabels, complete, List.filter_append, kept,
    filter_of_other isVariable (f := plain .method) (fun _ => rfl),
    filter_of_other isVariable (f := plain .sectionTag) (fun _ => rfl),
    filter_of_other isVariable (f := plain .path) (fun _ => rfl),
    filter_of_other isVariable (f := ofFilter) (fun _ => rfl),
    List.nil_append, List.append_nil, List.map_map, labels, List.map_id]

end Completion

/-- The items that are offered at a cursor, if the document has a tree. -/
def View.offered (v : View) (api : Api.Definition) (c : Cursor) : Option (List Completion) :=
  v.tree.map fun d => complete d api c.point

namespace Server

variable {s : Server} {url : Url} {v : View}

/-- A text that is opened is seen, if nothing was known before. -/
theorem view?_opened (disk : Disk m) (fresh : s.documents.get? url = none) :
    (s.handle (.opened url text)).view? disk url = pure (some (.ofText text)) := by
  have known : (s.handle (.opened url text)).documents.get? url = some (.ofText text) := by
    show (s.documents.update url text).get? url = _
    rw [Documents.update, Documents.get?_store, if_pos rfl, fresh]
    simp [View.replacing]
  rw [view?, known]

/-- Servers with the same API that see the same of a document answer requests about it alike. -/
theorem answers_of_view {t : Server} (api : s.api = t.api)
    (view : s.view? disk url = t.view? disk url) (c : Cursor) :
    s.completions? disk url c = t.completions? disk url c ∧
      s.signature? disk url c = t.signature? disk url c := by
  rw [completions?, completions?, signature?, signature?, view, api]
  exact ⟨rfl, rfl⟩

variable [LawfulMonad m]

/-- A text that is not open is seen as it lies on disk. -/
theorem view?_of_holds (absent : s.documents.get? url = none) (h : disk.Holds url.text text) :
    s.view? disk url = pure (some (.ofText text)) := by
  rw [view?, absent]
  simp only [h.readLines, pure_bind]
  rfl

theorem completions?_of_view (view : s.view? disk url = pure (some v)) (c : Cursor) :
    s.completions? disk url c = pure (v.offered s.api c) := by
  rw [completions?, view, pure_bind]
  rfl

end Server

end Editor

namespace CommandLine

open Editor

/-- The file that the command is about. -/
def Command.file? : Command → Option String
  | .tree file _ => some file
  | .captures file _ => some file
  | _ => none

/-- The argument of a command stands for the text: it leads to a file with the text, or it is a hyphen
and the text is the standard input. -/
inductive StandsFor (disk : Disk m) (input : m Octets) (text : String) : String → Prop where
  | file {f} (named : f ≠ "-") (holds : disk.Holds f text) : StandsFor disk input text f
  | input (comes : input = pure (Octets.ofText text)) : StandsFor disk input text "-"

variable [LawfulMonad m] {input : m Octets} {file : String}

theorem StandsFor.readLines (h : StandsFor disk input text file) :
    readLines disk input file = pure (.ok (Text.lines text)) := by
  cases h with
  | file named holds =>
    rw [CommandLine.readLines, if_neg named, holds.readLines, pure_bind]
  | input comes =>
    rw [CommandLine.readLines, if_pos rfl, comes, pure_bind, decodeText_ofText]

theorem StandsFor.readDocument (h : StandsFor disk input text file) :
    readDocument disk input file = pure ((Document.parse text).mapError .malformed) := by
  rw [CommandLine.readDocument, h.readLines, pure_bind, Document.parse]
  dsimp only
  cases Document.ofLines (Text.lines text) <;> rfl

/-- Exit code one is what comes of a text that does not parse, and of no other. -/
theorem outcome_parsed (print : Document → String) (parsed : Except ParseError Document) :
    ((outcome print (parsed.mapError .malformed)).exitCode = 1 ↔ parsed.toOption = none) ∧
    (parsed.toOption = none → (outcome print (parsed.mapError .malformed)).output = "") := by
  cases parsed with
  | ok d => simp [outcome, Except.mapError, Except.toOption]
  | error e => simp [outcome, Except.mapError, Except.toOption, Failure.exitCode]

/-- For a line, a command prints the variables that are offered anywhere on it, each with a line
feed behind it. -/
theorem StandsFor.captures_offered (h : StandsFor disk input text file) (api : Api.Definition)
    (line : Nat) :
    ∃ o, run disk input (.captures file (some line)) = pure o ∧ ∀ character, o.output =
      String.join ((Completion.variableLabels
        (((View.ofText text).offered api ⟨line, character⟩).getD [])).map (· ++ "\n")) := by
  refine ⟨_, by rw [run, h.readDocument, pure_bind], ?_⟩
  intro character
  have tree : (View.ofText text).tree = (Document.parse text).toOption := rfl
  rw [View.offered, tree]
  cases Document.parse text with
  | error e => rfl
  | ok d =>
    show printed (d.variablesAt line) =
      String.join ((Completion.variableLabels (complete d api _)).map (· ++ "\n"))
    rw [Completion.variableLabels_complete]
    rfl

/-- A command about a text prints something about its document, whatever that is. -/
theorem StandsFor.run_eq (h : StandsFor disk input text file) {command : Command}
    (about : command.file? = some file) :
    ∃ print, run disk input command =
      pure (outcome print ((Document.parse text).mapError .malformed)) := by
  cases command with
  | tree f compact =>
    cases about
    exact ⟨treeOutput compact, by rw [run, h.readDocument, pure_bind]⟩
  | captures f line =>
    cases about
    exact ⟨capturesOutput line, by rw [run, h.readDocument, pure_bind]⟩
  | lsp => cases about
  | version => cases about

/-- A command about a text fails with exit code one, and without output, if nothing is offered for
the text, and only then. -/
theorem StandsFor.fails_iff (h : StandsFor disk input text file) (api : Api.Definition)
    {command : Command} (about : command.file? = some file) :
    ∃ o, run disk input command = pure o ∧
      ∀ c, (o.exitCode = 1 ↔ (View.ofText text).offered api c = none) ∧
        ((View.ofText text).offered api c = none → o.output = "") := by
  obtain ⟨print, run⟩ := h.run_eq about
  refine ⟨_, run, ?_⟩
  intro c
  rw [View.offered, Option.map_eq_none_iff]
  exact outcome_parsed print (Document.parse text)

/-- A text is seen alike wherever it comes from. Two servers with the same API answer all requests
about it alike, if it was just opened in the one and is read from disk by the other. The items that
they offer settle what commands do, be it with a file or with their input: what is printed for a
line are the variables among the items offered anywhere on it, in their order and each with a line
feed behind it, and a command fails with exit code one, without output, exactly if no items are
offered. -/
theorem text_seen_alike {opened closed : Server} {url : Url} (api : opened.api = closed.api)
    (fresh : opened.documents.get? url = none) (absent : closed.documents.get? url = none)
    (stored : disk.Holds url.text text) (input : m Octets) :
    (∀ c, (opened.handle (.opened url text)).completions? disk url c =
        closed.completions? disk url c ∧
      (opened.handle (.opened url text)).signature? disk url c =
        closed.signature? disk url c) ∧
    ∃ items : Cursor → Option (List Completion),
      (∀ c, closed.completions? disk url c = pure (items c)) ∧
      ∀ file, StandsFor disk input text file →
        (∀ line, ∃ o, run disk input (.captures file (some line)) = pure o ∧
          ∀ character, o.output =
            String.join ((Completion.variableLabels
              ((items ⟨line, character⟩).getD [])).map (· ++ "\n"))) ∧
        ∀ command : Command, command.file? = some file →
          ∃ o, run disk input command = pure o ∧
            ∀ c, (o.exitCode = 1 ↔ items c = none) ∧ (items c = none → o.output = "") := by
  have viewOpened : (opened.handle (.opened url text)).view? disk url = pure (some (.ofText text)) :=
    Server.view?_opened disk fresh
  have viewClosed := Server.view?_of_holds absent stored
  constructor
  · exact Server.answers_of_view api (viewOpened.trans viewClosed.symm)
  · refine ⟨(View.ofText text).offered closed.api, Server.completions?_of_view viewClosed, ?_⟩
    intro file stands
    constructor
    · intro line
      exact stands.captures_offered closed.api line
    · intro command about
      exact stands.fails_iff closed.api about

/-- A text with a carriage return and without a line end at its end, in a file and as input. On its
last line a variable is known. -/
theorem text_seen_alike_here :
    let text := "GET /a\r\nHTTP/1.1 200\n[Captures]\nid: body\nGET /b"
    let place := ["w", "a.hurl"].map Octets.ofText
    let disk := (({} : Tree).put place (.file (Octets.ofText text))).disk
    let input : Id Octets := pure (Octets.ofText text)
    let url : Url := ⟨"file:///w/a.hurl", some (.ofText "/w/a.hurl")⟩
    let server : Server := {}
    (∀ c, (server.handle (.opened url text)).signature? disk url c = server.signature? disk url c) ∧
    ∃ items : Cursor → Option (List Completion),
      (∀ c, server.completions? disk url c = pure (items c)) ∧
      (∀ file ∈ ["/w/a.hurl", "-"], ∃ o, run disk input (.captures file (some 4)) = pure o ∧
        o.output = "id\n" ∧ ∀ character, o.output = String.join
          ((Completion.variableLabels ((items ⟨4, character⟩).getD [])).map (· ++ "\n"))) ∧
      ∃ o, run disk input (.tree "-" true) = pure o ∧
        ∀ c, (o.exitCode = 1 ↔ items c = none) ∧ (items c = none → o.output = "") := by
  intro text place disk input url server
  have asUrl : Path.ofUri "file:///w/a.hurl" = .ofText "/w/a.hurl" := by decide +kernel
  have asPath : Path.ofUri "/w/a.hurl" = .ofText "/w/a.hurl" := by decide +kernel
  have content : disk.read (.ofText "/w/a.hurl") = pure (.ok (Octets.ofText text)) := rfl
  have stored : disk.Holds url.text text := by
    rw [Disk.Holds, asUrl, content]
  have file : StandsFor disk input text "/w/a.hurl" := by
    refine .file (by decide) ?_
    rw [Disk.Holds, asPath, content]
  have hyphen : StandsFor disk input text "-" := .input rfl
  have absent : server.documents.get? url = none := rfl
  obtain ⟨alike, items, offered, commands⟩ := text_seen_alike rfl absent absent stored input
  have labels : (server.completions? disk url ⟨4, 0⟩).run.map Completion.variableLabels =
      some ["id"] := by decide +kernel
  have known : Completion.variableLabels ((items ⟨4, 0⟩).getD []) = ["id"] := by
    rw [offered] at labels
    obtain ⟨list, here, labels⟩ := Option.map_eq_some_iff.mp labels
    replace here : items ⟨4, 0⟩ = some list := here
    rw [here, Option.getD_some, labels]
  have listed (f : String) (h : StandsFor disk input text f) :
      ∃ o, run disk input (.captures f (some 4)) = pure o ∧ o.output = "id\n" ∧
        ∀ character, o.output = String.join
          ((Completion.variableLabels ((items ⟨4, character⟩).getD [])).map (· ++ "\n")) := by
    obtain ⟨o, run, output⟩ := (commands f h).1 4
    refine ⟨o, run, ?_, output⟩
    rw [output 0, known]
    rfl
  refine ⟨fun c => (alike c).2, items, offered, ?_, (commands "-" hyphen).2 (.tree "-" true) rfl⟩
  rintro f hf
  simp only [List.mem_cons, List.not_mem_nil, or_false] at hf
  rcases hf with rfl | rfl
  · exact listed "/w/a.hurl" file
  · exact listed "-" hyphen

end CommandLine

end HurlAssist
