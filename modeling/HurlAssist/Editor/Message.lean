import HurlAssist.Editor.Connection
import HurlAssist.Json.Read

/-!
The messages of a connection. Each is a JSON object after a header that gives its length in octets.
-/

namespace HurlAssist.Editor

namespace Message

def lineEnd : Octets := Octets.ofText "\r\n"

/-- The octets before an empty line, and those after it. -/
def splitHeader? : Octets → Option (Octets × Octets)
  | [] => none
  | b :: rest =>
    let mark := lineEnd ++ lineEnd
    if mark.isPrefixOf (b :: rest) then some ([], (b :: rest).drop mark.length)
    else (splitHeader? rest).map fun r => (b :: r.1, r.2)

/-- The name and the value of a line of a header. -/
def headerField (line : String) : String × String :=
  let name := line.toList.takeWhile (· ≠ ':')
  let value := Text.trim (line.toList.drop (name.length + 1))
  (String.ofList (name.map Char.toLower), String.ofList value)

/-- The length that a header gives. -/
def contentLength? (header : Octets) : Option Nat :=
  (((Text.lines header.shown).map headerField).lookup "content-length").bind String.toNat?

/-- What the octets start with. -/
inductive Start where
  /-- A message that is not complete. -/
  | incomplete
  /-- A header without a length; and what follows it. -/
  | noMessage (rest : Octets)
  | message (body rest : Octets)

def start (os : Octets) : Start :=
  match splitHeader? os with
  | none => .incomplete
  | some (header, rest) =>
    match contentLength? header with
    | none => .noMessage rest
    | some n => if rest.length < n then .incomplete else .message (rest.take n) (rest.drop n)

/-- A message with its header. -/
def framed (j : Json) : String :=
  let body := j.compact
  "Content-Length: " ++ toString body.utf8ByteSize ++ "\r\n\r\n" ++ body

/-- A message of the given members. -/
def ofMembers (members : List (String × Json)) : Json :=
  .object (("jsonrpc", .string "2.0") :: members)

/-- The answer to the request with this identity. -/
def response (id : Json) : Except RpcError Json → Json
  | .ok result => ofMembers [("result", result), ("id", id)]
  | .error e =>
    ofMembers
      [("error", .object [("code", .ofInt e.code), ("message", .string e.message)]), ("id", id)]

/-- A line for the log, as the editor is told of it. -/
def ofLog (l : LogMessage) : Json :=
  ofMembers
    [("method", .string "window/logMessage"),
      ("params", .object [("type", .ofNat l.kind.code), ("message", .string l.text)])]

end Message

namespace Connection

variable {m : Type → Type} [Monad m]

/-- Takes a message in, and gives those to be sent. -/
def receive (disk : Disk m) (env : Config.Environment) (c : Connection) (message : Json) :
    m (Connection × List Json) := do
  let params := (Params.member? "params" message).getD .null
  match (Params.member? "method" message).bind Params.text? with
  | none => return (c, [])
  | some method =>
    match Params.member? "id" message with
    | some id =>
      let (c, result) ← c.request disk method params
      return (c, [Message.response id result])
    | none =>
      let (c, log) ← c.notify disk env method params
      return (c, log.map Message.ofLog)

/-- Takes a message in as it came. -/
def receiveOctets (disk : Disk m) (env : Config.Environment) (c : Connection) (body : Octets) :
    m (Connection × List Json) := do
  match (body.text?).bind Json.ofText? with
  | some message => c.receive disk env message
  | none => return (c, [])

end Connection

end HurlAssist.Editor
