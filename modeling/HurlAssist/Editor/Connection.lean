import HurlAssist.Editor.Server
import HurlAssist.Program

/-!
A connection of an editor with the server: requests, each of which is answered, and notifications,
which are not. Nothing but `initialize` is answered before the server is initialized, and nothing
after it has been shut down.
-/

namespace HurlAssist.Editor

/-- Why a request has no result. -/
inductive RpcError where
  | invalidRequest
  | methodNotFound
  | invalidParams
  | notInitialized
  deriving DecidableEq, Repr

def RpcError.code : RpcError → Int
  | invalidRequest => -32600
  | methodNotFound => -32601
  | invalidParams => -32602
  | notInitialized => -32002

def RpcError.message : RpcError → String
  | invalidRequest => "Invalid request"
  | methodNotFound => "Method not found"
  | invalidParams => "Invalid params"
  | notInitialized => "Server not initialized"

inductive Phase where
  | waiting
  | running
  | shutDown
  | ended
  deriving DecidableEq, Repr

structure Connection where
  server : Server := {}
  phase : Phase := .waiting

/-- What the server can do. A changed document is sent as a whole. -/
def capabilities : Json :=
  .object
    [("capabilities", .object
      [("textDocumentSync", .ofNat 1),
        ("completionProvider", .object
          [("resolveProvider", .bool false),
            ("triggerCharacters", .array [.string " ", .string "[", .string "\x7b"])]),
        ("signatureHelpProvider", .object [("triggerCharacters", .array [.string " "])])]),
      ("serverInfo", .object
        [("name", .string Program.name), ("version", .string Program.version)])]

namespace Params

/-- The value of a member of an object. -/
def member? (key : String) : Json → Option Json
  | .object members => members.lookup key
  | _ => none

def text? : Json → Option String
  | .string s => some s
  | _ => none

/-- A whole number from `least` up to `most`. -/
def whole? (least most : Int) : Json → Option Int
  | .number n 0 => if least ≤ n ∧ n ≤ most then some n else none
  | _ => none

/-- A number of things, or of a line or a character, counted from zero. -/
def count? (j : Json) : Option Nat := (whole? 0 0xFFFFFFFF j).map Int.toNat

/-- A number of a version of a document. -/
def version? (j : Json) : Option Int := whole? (-0x80000000) 0x7FFFFFFF j

/-- What a record says for each field: it is an object, in which other members have no meaning and a
field that is left out is null, or an array of exactly the fields in order. -/
def fields? (names : List String) : Json → Option (List Json)
  | .object members => some (names.map fun n => (members.lookup n).getD .null)
  | .array items => if items.length = names.length then some items else none
  | _ => none

/-- A place before a character of a line. -/
def cursor? (j : Json) : Option Cursor := do
  match ← fields? ["line", "character"] j with
  | [line, character] => return ⟨← count? line, ← count? character⟩
  | _ => none

/-- The places where a range starts and ends. -/
def range? (j : Json) : Option (Cursor × Cursor) := do
  match ← fields? ["start", "end"] j with
  | [first, last] => return (← cursor? first, ← cursor? last)
  | _ => none

/-- Whether a value is null or can be read. -/
def isOptional {α : Type} (read : Json → Option α) : Json → Bool
  | .null => true
  | j => (read j).isSome

/-- The text of a change of a document. A range that it applies to has no meaning, since a document
is sent as a whole, but it has to be one. -/
def changedText? (j : Json) : Option String := do
  match ← fields? ["range", "rangeLength", "text"] j with
  | [range, length, text] =>
    if isOptional range? range && isOptional count? length then text? text else none
  | _ => none

/-- The URL of the document that something is about. -/
def url? (params : Json) : Option Url := do
  match ← fields? ["uri"] (← member? "textDocument" params) with
  | [uri] => Url.ofText? (← text? uri)
  | _ => none

/-- A document that is opened, and its text. -/
def opened? (params : Json) : Option Event := do
  match ← fields? ["uri", "languageId", "version", "text"] (← member? "textDocument" params) with
  | [uri, language, version, text] =>
    let url ← Url.ofText? (← text? uri)
    let _ ← text? language
    let _ ← version? version
    return .opened url (← text? text)
  | _ => none

/-- A document that has changed, and the texts that it had one after the other. -/
def changed? (params : Json) : Option Event := do
  match ← fields? ["uri", "version"] (← member? "textDocument" params) with
  | [uri, version] =>
    let url ← Url.ofText? (← text? uri)
    let _ ← version? version
    match ← member? "contentChanges" params with
    | .array changes => return .changed url (← changes.mapM changedText?)
    | _ => none
  | _ => none

/-- What a notification about a document says. -/
def event? (method : String) (params : Json) : Option Event := do
  match method with
  | "textDocument/didOpen" => opened? params
  | "textDocument/didChange" => changed? params
  | "textDocument/didClose" => return .closed (← url? params)
  | _ => none

end Params

/-- A value that may be missing, as JSON. -/
def orNull {α : Type} (f : α → Json) : Option α → Json
  | none => .null
  | some a => f a

namespace Connection

variable {m : Type → Type} [Monad m]

/-- The answer to a request about a place in a document. -/
def answerAt (params : Json) (answer : Url → Cursor → m Json) : m (Except RpcError Json) := do
  match Params.url? params, (Params.member? "position" params).bind Params.cursor? with
  | some url, some cursor => return .ok (← answer url cursor)
  | _, _ => return .error .invalidParams

/-- The answer to a request of a running server. -/
def answer (disk : Disk m) (s : Server) (method : String) (params : Json) :
    m (Except RpcError Json) := do
  match method with
  | "textDocument/completion" =>
    answerAt params fun url cursor => do
      return orNull (fun items => .array (items.map Completion.toJson))
        (← s.completions? disk url cursor)
  | "textDocument/signatureHelp" =>
    answerAt params fun url cursor => do
      return orNull Signature.toJson (← s.signature? disk url cursor)
  | _ => return .error .methodNotFound

/-- Answers a request. -/
def request (disk : Disk m) (c : Connection) (method : String) (params : Json) :
    m (Connection × Except RpcError Json) := do
  match c.phase with
  | .waiting =>
    if method = "initialize" then return ({ c with phase := .running }, .ok capabilities)
    else return (c, .error .notInitialized)
  | .running =>
    if method = "shutdown" then return ({ c with phase := .shutDown }, .ok .null)
    else if method = "initialize" then return (c, .error .invalidRequest)
    else return (c, ← answer disk c.server method params)
  | .shutDown => return (c, .error .invalidRequest)
  | .ended => return (c, .error .invalidRequest)

/-- Takes a notification in. What is not understood is passed over. -/
def notify (disk : Disk m) (env : Config.Environment) (c : Connection) (method : String)
    (params : Json) : m (Connection × List LogMessage) := do
  if method = "exit" then return ({ c with phase := .ended }, [])
  else if c.phase = .running then
    if method = "initialized" then
      let (server, log) ← c.server.start disk env
      return ({ c with server := server }, log)
    else
      match Params.event? method params with
      | some e => return ({ c with server := c.server.handle e }, [])
      | none => return (c, [])
  else return (c, [])

end Connection

end HurlAssist.Editor
