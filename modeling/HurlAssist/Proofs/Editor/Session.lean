import HurlAssist.Editor.Server

/-!
A session of an editor with the server, whose handlers run at the same time. A handler that got a new
text parses it first. All that a handler asks of the documents, or does to them, it does at once,
while it has them for itself, and handlers come to that in any order.

Main statement: a session comes to the same as handling one message after the other, in the order in
which the handlers had the documents (`Session.Reachable.server_eq`).
-/

namespace HurlAssist.Editor

/-- A message about a document, which has a handler of its own. -/
inductive Call where
  | opened (url : Url) (text : String)
  /-- A change gives the whole new text. -/
  | changed (url : Url) (text : String)
  | closed (url : Url)
  | completion (url : Url) (cursor : Cursor)
  | signature (url : Url) (cursor : Cursor)
  deriving DecidableEq, Repr

namespace Call

def url : Call → Url
  | opened url _ => url
  | changed url _ => url
  | closed url => url
  | completion url _ => url
  | signature url _ => url

/-- The new text of the document. -/
def text? : Call → Option String
  | opened _ text => some text
  | changed _ text => some text
  | _ => none

/-- The event that the message tells the server. Requests tell it nothing. -/
def event? : Call → Option Event
  | opened url text => some (.opened url text)
  | changed url text => some (.changed url [text])
  | closed url => some (.closed url)
  | _ => none

/-- The server after the message. -/
def handle (s : Server) (c : Call) : Server :=
  match c.event? with
  | some e => s.handle e
  | none => s

end Call

/-- What a request gets. Requests for documents that are not open ask the disk. -/
inductive Answer (m : Type → Type) where
  | silent
  | completions (items : m (Option (List Completion)))
  | signature (signature : m (Option Signature))

variable {m : Type → Type} [Monad m]

def Call.answer (disk : Disk m) (s : Server) : Call → Answer m
  | completion url cursor => .completions (s.completions? disk url cursor)
  | signature url cursor => .signature (s.signature? disk url cursor)
  | _ => .silent

/-- A handler that waits for the documents. It has parsed the new text if it got one. -/
structure Handler where
  call : Call
  view? : Option View
  parsed : view? = call.text?.map View.ofText

namespace Handler

def start (c : Call) : Handler := ⟨c, c.text?.map View.ofText, rfl⟩

/-- What the handler does to the server while it has the documents. -/
def run (h : Handler) (s : Server) : Server :=
  match h.view?, h.call with
  | some view, call => { s with documents := s.documents.store call.url view }
  | none, .closed url => { s with documents := s.documents.close url }
  | none, _ => s

/-- Parsing the text before comes to the same as handling the message at once. -/
theorem run_eq_handle (h : Handler) (s : Server) : h.run s = h.call.handle s := by
  obtain ⟨call, view?, parsed⟩ := h
  subst parsed
  cases call <;> rfl

end Handler

/-- The server, the handlers that wait for the documents, and those that have had them, in order. -/
structure Session (m : Type → Type) where
  server : Server
  waiting : List Handler
  served : List (Call × Answer m)

namespace Session

/-- A session with a server that knows no document. -/
def start (server : Server) : Session m := ⟨{ server with documents := [] }, [], []⟩

/-- The messages in the order in which their handlers had the documents. -/
def calls (s : Session m) : List Call := s.served.map Prod.fst

/-- What can happen next: a message comes, or one of the handlers gets the documents. -/
inductive Step (disk : Disk m) : Session m → Session m → Prop where
  | arrive {s} (c : Call) : Step disk s { s with waiting := s.waiting ++ [Handler.start c] }
  | serve {s h before after} (waits : s.waiting = before ++ h :: after) :
      Step disk s ⟨h.run s.server, before ++ after,
        s.served ++ [(h.call, h.call.answer disk s.server)]⟩

inductive Reachable (disk : Disk m) (server : Server) : Session m → Prop where
  | start : Reachable disk server (start server)
  | next {s t} : Reachable disk server s → Step disk s t → Reachable disk server t

/-- The server after these messages, one after the other. -/
def after (server : Server) (calls : List Call) : Server :=
  calls.foldl Call.handle { server with documents := [] }

theorem after_concat (server : Server) (calls : List Call) (c : Call) :
    after server (calls ++ [c]) = c.handle (after server calls) := by
  simp [after]

variable {disk : Disk m} {server : Server} {s : Session m}

/-- Handlers that run at the same time come to the same as one message after the other. -/
theorem Reachable.server_eq (h : Reachable disk server s) : s.server = after server s.calls := by
  induction h with
  | start => rfl
  | next _ step ih =>
    cases step with
    | arrive => exact ih
    | serve waits =>
      simp only [calls, List.map_append, List.map_cons, List.map_nil]
      rw [after_concat, Handler.run_eq_handle, ih]
      rfl

/-- An answer is that of the server after the messages served before. -/
theorem Reachable.answer_eq (h : Reachable disk server s) {i : Nat} {c : Call} {a : Answer m}
    (hi : s.served[i]? = some (c, a)) : a = c.answer disk (after server (s.calls.take i)) := by
  induction h with
  | start => cases hi
  | @next s t reached step ih =>
    cases step with
    | arrive => exact ih hi
    | @serve handler before after waits =>
      have calls : ∀ x, calls ⟨handler.run s.server, before ++ after, s.served ++ [x]⟩ =
          s.calls ++ [x.1] := fun x => List.map_append
      have length : s.calls.length = s.served.length := List.length_map Prod.fst
      rw [calls]
      rcases Nat.lt_or_ge i s.served.length with earlier | last
      · rw [List.getElem?_append_left earlier] at hi
        rw [List.take_append_of_le_length (by omega)]
        exact ih hi
      · rw [List.getElem?_append_right last, List.getElem?_singleton] at hi
        split at hi
        · cases hi
          rw [← length] at last
          rw [List.take_append_of_le_length (by omega), List.take_of_length_le last,
            ← reached.server_eq]
        · cases hi

end Session

end HurlAssist.Editor
