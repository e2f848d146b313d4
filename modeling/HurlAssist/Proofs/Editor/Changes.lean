import HurlAssist.Proofs.Editor.OpenDocuments

/-!
Several changes in one message. Sent one by one, the last text that parses is what the server knows
of the document. Sent in one message, the first text is all that the server looks at, so the two ways
differ as soon as a later text is the one that counts (`Server.changed_eq_changedSingly_iff`).
-/

namespace HurlAssist.Editor

namespace View

/-- What is known after one text more: the text if it parses, else what was known, and only if that
is nothing the text without its tree. -/
theorem replacing_ofText (text : String) (known : Option View) :
    (ofText text).replacing known =
      if parses text then ofText text else known.getD (ofText text) := by
  cases parsed : parses text with
  | true =>
    obtain ⟨d, _, view⟩ := ofText_of_parses parsed
    rw [view]
    rfl
  | false =>
    rw [ofText_of_fails parsed]
    rfl

theorem ofText_eq_iff {t u : String} : ofText t = ofText u ↔ Text.lines t = Text.lines u :=
  ⟨congrArg View.lines, congrArg ofLines⟩

/-- A text that parses is all that is known after another text only if the two have the same lines,
or if it was known before and the other one does not parse. -/
theorem replacing_eq_ofText_iff {t text : String} {known : Option View} (parsed : parses t = true) :
    (ofText text).replacing known = ofText t ↔
      Text.lines t = Text.lines text ∨ parses text = false ∧ known = some (ofText t) := by
  rw [replacing_ofText]
  cases parsed' : parses text with
  | true =>
    rw [if_pos rfl, ofText_eq_iff, eq_comm]
    simp
  | false =>
    obtain ⟨d, _, view⟩ := ofText_of_parses parsed
    have ne : ofText t ≠ ofText text := by
      intro same
      have tree := congrArg View.tree same
      rw [view, ofText_of_fails parsed'] at tree
      cases tree
    have ne' : Text.lines t ≠ Text.lines text := mt ofText_eq_iff.mpr ne
    cases known with
    | none => simp [ne', ne.symm]
    | some v => simp [ne']

end View

namespace Server

/-- What the server knows after each of these texts came in a message of its own. -/
def changedSingly (s : Server) (url : Url) (texts : List String) : Server :=
  texts.foldl (fun s text => s.handle (.changed url [text])) s

variable {s : Server} {url u : Url} {text : String} {later : List String}

/-- A message with changes tells the server its first text. -/
theorem get?_changed : (s.handle (.changed url (text :: later))).documents.get? u =
    if u.text = url.text then some ((View.ofText text).replacing (s.documents.get? u))
    else s.documents.get? u :=
  Documents.get?_store ..

theorem get?_changedSingly_of_ne (other : u.text ≠ url.text) (texts : List String) :
    (s.changedSingly url texts).documents.get? u = s.documents.get? u := by
  induction texts generalizing s with
  | nil => rfl
  | cons text texts ih =>
    show ((s.handle (.changed url [text])).changedSingly url texts).documents.get? u = _
    rw [ih, get?_changed, if_neg other]

/-- Of a document that is known, the last text that parses is known in the end. -/
theorem get?_changedSingly_of_known {v : View} (known : s.documents.get? url = some v)
    (texts : List String) :
    (s.changedSingly url texts).documents.get? url =
      ((texts.filter parses).getLast?.map View.ofText).or (some v) := by
  induction texts generalizing s v with
  | nil => exact known
  | cons text texts ih =>
    have next : (s.handle (.changed url [text])).documents.get? url =
        some (if parses text then View.ofText text else v) := by
      rw [get?_changed, if_pos rfl, known, View.replacing_ofText]
      rfl
    refine (ih next).trans ?_
    cases parsed : parses text with
    | true =>
      rw [List.filter_cons_of_pos parsed, List.getLast?_cons]
      cases (texts.filter parses).getLast? <;> rfl
    | false =>
      rw [List.filter_cons_of_neg (by simp [parsed])]
      rfl

theorem get?_changedSingly_cons : (s.changedSingly url (text :: later)).documents.get? url =
    ((later.filter parses).getLast?.map View.ofText).or
      (some ((View.ofText text).replacing (s.documents.get? url))) := by
  have first : (s.handle (.changed url [text])).documents.get? url =
      some ((View.ofText text).replacing (s.documents.get? url)) := by
    rw [get?_changed, if_pos rfl]
  exact get?_changedSingly_of_known first later

/-- All other documents stay as they are, so only the changed one can tell the two ways apart. -/
theorem changed_eq_changedSingly_iff_own :
    (∀ u, (s.handle (.changed url (text :: later))).documents.get? u =
        (s.changedSingly url (text :: later)).documents.get? u) ↔
      (s.handle (.changed url (text :: later))).documents.get? url =
        (s.changedSingly url (text :: later)).documents.get? url := by
  constructor
  · intro same
    exact same url
  · intro same u
    by_cases own : u.text = url.text
    · have byText (ds : Documents) : ds.get? u = ds.get? url := congrArg (ds.lookup ·) own
      rw [byText, byText]
      exact same
    · rw [get?_changed, if_neg own, get?_changedSingly_of_ne own]

/-- One message with several changes comes to the same as a message for each of them exactly if the
last of the later texts that parses has the lines of the first text, or is known already and the
first text does not parse. Under the same condition on the last text, if it parses, that text is
what is known in the end. -/
theorem changed_eq_changedSingly_iff (s : Server) (url : Url) (text : String)
    (later : List String) :
    ((∀ u, (s.handle (.changed url (text :: later))).documents.get? u =
        (s.changedSingly url (text :: later)).documents.get? u) ↔
      ∀ t, (later.filter parses).getLast? = some t → Text.lines t = Text.lines text ∨
        parses text = false ∧ s.documents.get? url = some (View.ofText t)) ∧
    ∀ t d, (text :: later).getLast? = some t → Document.parse t = .ok d →
      ((s.handle (.changed url (text :: later))).documents.get? url =
          some ⟨Text.lines t, some d⟩ ↔
        Text.lines t = Text.lines text ∨
          parses text = false ∧ s.documents.get? url = some ⟨Text.lines t, some d⟩) := by
  constructor
  · rw [changed_eq_changedSingly_iff_own, get?_changed, if_pos rfl, get?_changedSingly_cons]
    cases last : (later.filter parses).getLast? with
    | none => simp
    | some t =>
      have parsed : parses t = true := (List.mem_filter.mp (List.mem_of_getLast? last)).2
      simp [View.replacing_eq_ofText_iff parsed]
  · intro t d last parsed
    have parses' : parses t = true := by
      rw [parses, parsed]
      rfl
    obtain ⟨d', parsed', view⟩ := View.ofText_of_parses parses'
    obtain rfl := Except.ok.inj (parsed.symm.trans parsed')
    rw [get?_changed, if_pos rfl, ← view, Option.some_inj,
      View.replacing_eq_ofText_iff parses']

/-- A document is open, and one message brings two texts that both parse. The server keeps the first
of them, and not the one that the document has now. -/
theorem changed_drops_later_text :
    let url : Url := ⟨"file:///a.hurl", none⟩
    let s := ({} : Server).handle (.opened url "GET /a")
    let atOnce := (s.handle (.changed url ["GET /b", "GET /c"])).documents.get? url
    let singly := (s.changedSingly url ["GET /b", "GET /c"]).documents.get? url
    parses "GET /c" = true ∧ atOnce.map View.lines = some ["GET /b"] ∧
      singly.map View.lines = some ["GET /c"] ∧ atOnce ≠ singly := by
  intro url s atOnce singly
  have first : atOnce.map View.lines = some ["GET /b"] := by decide +kernel
  have last : singly.map View.lines = some ["GET /c"] := by decide +kernel
  refine ⟨by decide +kernel, first, last, ?_⟩
  intro same
  rw [same, last] at first
  revert first
  decide

end Server

end HurlAssist.Editor
