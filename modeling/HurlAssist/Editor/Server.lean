import HurlAssist.Api.Source
import HurlAssist.Config
import HurlAssist.Editor.Completion
import HurlAssist.Editor.Documents
import HurlAssist.Editor.Signature

/-!
The language server. It knows the open documents and an API definition, which it loads once if the
settings name one. A document that is not open is read from disk for each request.
-/

namespace HurlAssist.Editor

inductive LogKind where
  | warning
  | info
  deriving DecidableEq, Repr

/-- The number by which an editor knows the kind. -/
def LogKind.code : LogKind → Nat
  | warning => 2
  | info => 3

/-- A line of the editor's log. -/
structure LogMessage where
  kind : LogKind
  text : String
  deriving DecidableEq, Repr

structure Server where
  api : Api.Definition := .empty
  documents : Documents := []
  /-- Whether the settings say which API definition is used. -/
  readsConfig : Bool := true

/-- What an editor tells the server. -/
inductive Event where
  | opened (url : Url) (text : String)
  /-- The texts that a document had one after the other. -/
  | changed (url : Url) (texts : List String)
  | closed (url : Url)

/-- A place of the cursor: before the character with this number, in this line. -/
structure Cursor where
  line : Nat
  character : Nat
  deriving DecidableEq, Repr

/-- The point that a cursor stands for: the character before it, or the first of the line. -/
def Cursor.point (c : Cursor) : Point := ⟨c.line, c.character - 1⟩

namespace Server

/-- A server for a given API definition, which reads no settings. -/
def withApi (api : Api.Definition) : Server := { api := api, readsConfig := false }

/-- What the server knows after an event. Of the texts of a change the first counts. -/
def handle (s : Server) : Event → Server
  | .opened url text => { s with documents := s.documents.update url text }
  | .changed url texts =>
    match texts with
    | [] => s
    | text :: _ => { s with documents := s.documents.update url text }
  | .closed url => { s with documents := s.documents.close url }

variable {m : Type → Type} [Monad m]

/-- The API definition that the settings name, or what hinders its use. Nothing, if none is named. -/
def configuredApi (disk : Disk m) (env : Config.Environment) :
    m (Except String (Option Api.Definition)) := do
  match ← Config.load disk env with
  | .error e => return .error e.message
  | .ok none => return .ok none
  | .ok (some config) =>
    match config.definition with
    | none => return .ok none
    | some path =>
      match ← Api.Definition.load disk path with
      | .error e => return .error e.message
      | .ok api => return .ok (some api)

/-- What the server says when it is ready. -/
def ready : LogMessage := ⟨.info, "Hurl language server initialized"⟩

/-- The editor has started: the API definition is loaded, and replaces the one before only if all
goes well. -/
def start (disk : Disk m) (env : Config.Environment) (s : Server) :
    m (Server × List LogMessage) := do
  if s.readsConfig then
    match ← configuredApi disk env with
    | .error text => return (s, [⟨.warning, text⟩, ready])
    | .ok none => return (s, [ready])
    | .ok (some api) => return ({ s with api := api }, [ready])
  else return (s, [ready])

/-- What is known of a document, which is read from disk if it is not open. -/
def view? (disk : Disk m) (s : Server) (url : Url) : m (Option View) := do
  match s.documents.get? url with
  | some v => return some v
  | none =>
    match ← disk.readLines (.ofUri url.text) with
    | .ok lines => return some (.ofLines lines)
    | .error _ => return none

/-- What can be completed at a cursor, if the document has a tree. -/
def completions? (disk : Disk m) (s : Server) (url : Url) (c : Cursor) :
    m (Option (List Completion)) := do
  return (← s.view? disk url).bind fun v => v.tree.map fun d => complete d s.api c.point

/-- The signature for a cursor. -/
def signature? (disk : Disk m) (s : Server) (url : Url) (c : Cursor) : m (Option Signature) := do
  return (← s.view? disk url).bind fun v => signatureAt v.lines v.tree s.api c.point

end Server

end HurlAssist.Editor
