import HurlAssist.Document.Basic
import HurlAssist.Json.Basic

/-!
A document as a JSON value, every region with it. What is absent is `null`, and keys with their
values are a list of pairs, which keeps their order.
-/

namespace HurlAssist

def Span.toJson (s : Span) : Json :=
  .object
    [("start_line", .ofNat s.start.line), ("start_col", .ofNat s.start.col),
     ("end_line", .ofNat s.stop.line), ("end_col", .ofNat s.stop.col)]

/-- A region, or `null` if there is none. -/
def spanJson (s : Option Span) : Json := (s.map Span.toJson).getD .null

def linesJson (ls : List String) : Json := .array (ls.map .string)

def KeyValues.toJson (kvs : KeyValues) : Json :=
  .array (kvs.toList.map fun p => .array [.string p.1, .string p.2])

/-- A word under the name that its text goes by. -/
def Word.toJson (label : String) (w : Word) : Json :=
  .object [(label, .string w.text), ("range", w.span.toJson)]

def Headers.toJson (h : Headers) : Json :=
  .object [("values", h.values.toJson), ("range", spanJson h.span)]

def Body.toJson (b : Body) : Json :=
  .object [("lines", linesJson b.lines), ("range", spanJson b.span)]

def Section.toJson (s : Section) : Json :=
  .object
    [("name", s.name.toJson "value"), ("key_values", s.keyValues.toJson),
     ("raw_lines", linesJson s.rawLines), ("lines", linesJson s.lines),
     ("range", s.span.toJson)]

def Content.members (c : Content) : List (String × Json) :=
  [("headers", c.headers.toJson), ("sections", .array (c.sections.map Section.toJson)),
   ("body", c.body.toJson)]

def Request.toJson (r : Request) : Json :=
  .object <|
    [("method", r.method.toJson "name"), ("target", r.target.toJson "value")] ++
    r.content.members ++ [("range", r.span.toJson)]

def Response.toJson (r : Response) : Json :=
  .object <|
    [("version", .string r.version), ("status", .ofInt r.status)] ++
    r.content.members ++ [("range", r.span.toJson)]

def Entry.toJson (e : Entry) : Json :=
  .object
    [("request", e.request.toJson),
     ("response", (e.response.map Response.toJson).getD .null),
     ("range", e.span.toJson)]

def Document.toJson (d : Document) : Json :=
  .object [("entries", .array (d.entries.map Entry.toJson)), ("range", d.span.toJson)]

end HurlAssist
