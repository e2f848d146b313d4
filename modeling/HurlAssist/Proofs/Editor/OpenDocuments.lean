import Mathlib.Data.List.DropRight
import HurlAssist.Proofs.Editor.Session

/-!
What a server knows of a document in a session: it follows from the texts that the document got since
it was closed last. The last of them that parses counts. If none does, the first one counts, without
a tree.
-/

namespace HurlAssist.Editor

def parses (text : String) : Bool := (Document.parse text).isOk

theorem View.ofText_of_parses {text : String} (h : parses text = true) :
    ∃ d, Document.parse text = .ok d ∧ ofText text = ⟨Text.lines text, some d⟩ := by
  rw [parses] at h
  cases parsed : Document.parse text with
  | error e =>
    rw [parsed] at h
    cases h
  | ok d =>
    refine ⟨d, rfl, ?_⟩
    rw [Document.parse] at parsed
    rw [ofText, ofLines, parsed]
    rfl

theorem View.ofText_of_fails {text : String} (h : parses text = false) :
    ofText text = ⟨Text.lines text, none⟩ := by
  rw [parses, Document.parse] at h
  rw [ofText, ofLines]
  cases parsed : Document.ofLines (Text.lines text) with
  | error e => rfl
  | ok d =>
    rw [parsed] at h
    cases h

/-- What is known of a document that got these texts since it was closed. -/
structure Known (texts : List String) (known : Option View) : Prop where
  absent : known = none ↔ texts = []
  last : ∀ t, (texts.filter parses).getLast? = some t →
    ∃ d, Document.parse t = .ok d ∧ known = some ⟨Text.lines t, some d⟩
  first : ∀ t, texts.filter parses = [] → texts.head? = some t →
    known = some ⟨Text.lines t, none⟩

namespace Known

theorem closed : Known [] none := by
  constructor
  · exact ⟨fun _ => rfl, fun _ => rfl⟩
  · intro t h
    cases h
  · intro t _ h
    cases h

/-- One text more. -/
theorem add {texts : List String} {known : Option View} (h : Known texts known) (text : String) :
    Known (texts ++ [text]) (some ((View.ofText text).replacing known)) := by
  cases parsed : parses text with
  | true =>
    obtain ⟨d, ok, view⟩ := View.ofText_of_parses parsed
    have filtered : (texts ++ [text]).filter parses = texts.filter parses ++ [text] := by
      simp [parsed]
    rw [view]
    constructor
    · simp
    · intro t ht
      rw [filtered, List.getLast?_concat] at ht
      cases ht
      exact ⟨d, ok, rfl⟩
    · intro t none _
      simp [filtered] at none
  | false =>
    have filtered : (texts ++ [text]).filter parses = texts.filter parses := by
      simp [parsed]
    rw [View.ofText_of_fails parsed]
    cases known with
    | none =>
      obtain rfl := h.absent.mp rfl
      constructor
      · simp
      · intro t ht
        rw [filtered] at ht
        cases ht
      · intro t _ ht
        cases ht
        rfl
    | some v =>
      have ne : texts ≠ [] := fun nil => by cases h.absent.mpr nil
      constructor
      · simp
      · intro t ht
        rw [filtered] at ht
        exact h.last t ht
      · intro t none ht
        rw [filtered] at none
        rw [List.head?_append_of_ne_nil texts ne] at ht
        exact h.first t none ht

end Known

namespace Call

/-- Whether the message closes the document. -/
def closes (url : Url) : Call → Bool
  | closed u => u.text == url.text
  | _ => false

/-- The new text that the message gives the document. -/
def textFor? (url : Url) (c : Call) : Option String :=
  if c.url.text = url.text then c.text? else none

/-- A message that changes nothing about a document: a request, or a message about another one, or a
text that does not parse, if something is known. -/
inductive Spares (s : Server) (url : Url) : Call → Prop where
  | request {c} (silent : c.event? = none) : Spares s url c
  | other {c} (other : c.url.text ≠ url.text) : Spares s url c
  | fails {c t v} (text : c.text? = some t) (fails : parses t = false)
      (known : s.documents.get? url = some v) : Spares s url c

end Call

/-- The texts that a document got in these messages since it was closed last. -/
def textsSince (url : Url) (calls : List Call) : List String :=
  (calls.rtakeWhile fun c => !c.closes url).filterMap (Call.textFor? url)

theorem textsSince_concat (url : Url) (calls : List Call) (c : Call) :
    textsSince url (calls ++ [c]) =
      if c.closes url then [] else textsSince url calls ++ (c.textFor? url).toList := by
  rw [textsSince, List.rtakeWhile_concat]
  cases c.closes url with
  | true => rfl
  | false => cases h : c.textFor? url <;> simp [textsSince, h]

/-- What a message does to what is known of a document. -/
theorem Call.get?_handle (c : Call) (s : Server) (url : Url) :
    (c.handle s).documents.get? url =
      if c.closes url then none
      else
        match c.textFor? url with
        | some text => some ((View.ofText text).replacing (s.documents.get? url))
        | none => s.documents.get? url := by
  have updated (u : Url) (text : String) : (s.documents.update u text).get? url =
      match if u.text = url.text then some text else none with
      | some text => some ((View.ofText text).replacing (s.documents.get? url))
      | none => s.documents.get? url := by
    rw [Documents.update, Documents.get?_store]
    by_cases same : u.text = url.text
    · rw [if_pos same.symm, if_pos same]
    · rw [if_neg (Ne.symm same), if_neg same]
  cases c with
  | opened u text => exact updated u text
  | changed u text => exact updated u text
  | closed u =>
    show (s.documents.close u).get? url = _
    rw [Documents.get?_close]
    by_cases same : u.text = url.text
    · simp [closes, same]
    · simp [closes, textFor?, text?, same, Ne.symm same]
  | completion => simp [handle, event?, closes, textFor?, text?]
  | signature => simp [handle, event?, closes, textFor?, text?]

theorem Call.api_handle (c : Call) (s : Server) : (c.handle s).api = s.api := by
  cases c <;> rfl

/-- Messages leave alone what they do not change. -/
theorem Call.Spares.get?_handle {c : Call} {s : Server} {url : Url} (h : c.Spares s url) :
    (c.handle s).documents.get? url = s.documents.get? url := by
  cases h with
  | request silent => rw [Call.handle, silent]
  | other other =>
    have open' : c.closes url = false := by
      cases c <;> simp_all [closes, Call.url]
    rw [Call.get?_handle, open', textFor?, if_neg other]
    rfl
  | @fails t v text fails known =>
    have open' : c.closes url = false := by
      cases c <;> simp_all [closes, text?]
    rw [Call.get?_handle, open', textFor?, text, known]
    by_cases same : c.url.text = url.text
    · rw [if_pos same]
      show some ((View.ofText t).replacing (some v)) = some v
      rw [View.ofText_of_fails fails]
      rfl
    · rw [if_neg same]
      rfl

section

variable {m : Type → Type} [Monad m]

/-- The answer to a request about a document of which this is known. -/
def Call.answerFrom (api : Api.Definition) (v : View) : Call → Answer m
  | completion _ cursor => .completions (pure (v.tree.map fun d => complete d api cursor.point))
  | signature _ cursor => .signature (pure (signatureAt v.lines v.tree api cursor.point))
  | _ => .silent

/-- A request about a document that is open does not ask the disk. -/
theorem Call.answer_of_known [LawfulMonad m] {s : Server} {c : Call} {v : View} (disk : Disk m)
    (h : s.documents.get? c.url = some v) : c.answer disk s = c.answerFrom s.api v := by
  cases c with
  | opened => rfl
  | changed => rfl
  | closed => rfl
  | completion u cursor =>
    have known : s.documents.get? u = some v := h
    simp [answer, answerFrom, Server.completions?, Server.view?, known]
  | signature u cursor =>
    have known : s.documents.get? u = some v := h
    simp [answer, answerFrom, Server.signature?, Server.view?, known]

end

namespace Session

theorem api_after (server : Server) (calls : List Call) : (after server calls).api = server.api := by
  induction calls using List.reverseRecOn with
  | nil => rfl
  | append_singleton calls c ih => rw [after_concat, Call.api_handle, ih]

/-- After any messages, the texts since a document was closed say what is known of it. -/
theorem known_after (server : Server) (url : Url) (calls : List Call) :
    Known (textsSince url calls) ((after server calls).documents.get? url) := by
  induction calls using List.reverseRecOn with
  | nil => exact .closed
  | append_singleton calls c ih =>
    rw [textsSince_concat, after_concat, Call.get?_handle]
    cases c.closes url with
    | true => exact .closed
    | false =>
      cases c.textFor? url with
      | none =>
        rw [Option.toList_none, List.append_nil]
        exact ih
      | some text => exact ih.add text

variable {m : Type → Type} [Monad m] [LawfulMonad m] {disk : Disk m} {server : Server}
  {s : Session m}

/-- However the handlers of a session come to the documents: in the order in which they do, the
texts since a document was closed last say what is known of it, a request about it is answered from
that alone, and a message that has no say about it leaves it as it is. -/
theorem documents_known (h : Reachable disk server s) :
    (∀ url, Known (textsSince url s.calls) (s.server.documents.get? url)) ∧
    (∀ (i : Nat) (c : Call) (a : Answer m), s.served[i]? = some (c, a) →
      ∃ known, Known (textsSince c.url (s.calls.take i)) known ∧
        ∀ v, known = some v → a = c.answerFrom server.api v) ∧
    ∀ (handler : Handler) (url : Url), handler.call.Spares s.server url →
      (handler.run s.server).documents.get? url = s.server.documents.get? url := by
  refine ⟨?_, ?_, ?_⟩
  · intro url
    rw [h.server_eq]
    exact known_after server url s.calls
  · intro i c a hi
    refine ⟨_, known_after server c.url (s.calls.take i), ?_⟩
    intro v known
    rw [h.answer_eq hi, Call.answer_of_known disk known, api_after]
  · intro handler url spares
    rw [Handler.run_eq_handle]
    exact spares.get?_handle

/-- A text that does not parse is sent first and comes to the documents after one that does. -/
theorem documents_known_overtaken : ∃ (s : Session Id) (url : Url) (d : Document),
    s.calls = [.changed url "GET /", .opened url "GET /\nHTTP/1.1"] ∧
    Document.parse "GET /" = .ok d ∧
    s.server.documents.get? url = some ⟨Text.lines "GET /", some d⟩ := by
  let url : Url := ⟨"file:///a.hurl", none⟩
  let broken := Handler.start (.opened url "GET /\nHTTP/1.1")
  let whole := Handler.start (.changed url "GET /")
  let disk : Disk Id := ⟨fun _ => false, fun _ => .error .notFound⟩
  have first : Reachable disk {} _ := Reachable.start.next (.arrive broken.call)
  have both := first.next (.arrive whole.call)
  have one := both.next (.serve (show _ = [broken] ++ whole :: [] from rfl))
  have none := one.next (.serve (show _ = [] ++ broken :: [] from rfl))
  obtain ⟨d, parsed, known⟩ := ((documents_known none).1 url).last "GET /" (by decide +kernel)
  exact ⟨_, url, d, rfl, parsed, known⟩

end Session

end HurlAssist.Editor
