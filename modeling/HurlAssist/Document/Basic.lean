import HurlAssist.Span
import HurlAssist.Document.KeyValues

/-!
A request file as a tree: entries of a request and the response it expects, each with headers,
sections and a body, and each with the region of the file it was read from.
-/

namespace HurlAssist

/-- A word of the file and where it stands. -/
structure Word where
  text : String
  span : Span
  deriving DecidableEq, Repr, Inhabited

/-- The key/value lines right under a request or status line. -/
structure Headers where
  values : KeyValues
  /-- From the first to the last header line, if there is one. -/
  span : Option Span
  deriving DecidableEq, Repr, Inhabited

/-- Body text, line by line as it stands in the file. -/
structure Body where
  lines : List String
  /-- Where the body stands, if there is one. -/
  span : Option Span
  deriving DecidableEq, Repr, Inhabited

namespace Body

def none : Body := ⟨[], .none⟩

def isEmpty (b : Body) : Bool := b.lines.isEmpty

/-- The body's lines with a line feed between any two. -/
def text (b : Body) : String := "\n".intercalate b.lines

end Body

/-- A `[Name]` header and the lines that belong to it. -/
structure Section where
  name : Word
  keyValues : KeyValues
  /-- The lines that are neither key/value lines nor blank lines or comments. -/
  rawLines : List String
  /-- Every line after the header. The first of them is the line after the header's. -/
  lines : List String
  span : Span
  deriving DecidableEq, Repr, Inhabited

namespace Section

/-- The name of the section whose keys are captured variables. -/
def capturesName : String := "Captures"

/-- The name of the section that holds assertions. -/
def assertsName : String := "Asserts"

def isCaptures (s : Section) : Bool := s.name.text == capturesName

/-- The text of a line of the file, if it is one of this section's lines below its header. -/
def line? (s : Section) (line : Nat) : Option String :=
  if s.span.start.line < line then s.lines[line - (s.span.start.line + 1)]? else none

end Section

/-- What stands under a request line or a status line. -/
structure Content where
  headers : Headers
  sections : List Section
  body : Body
  deriving DecidableEq, Repr, Inhabited

structure Request where
  method : Word
  /-- Everything after the method on the request line. -/
  target : Word
  content : Content
  span : Span
  deriving DecidableEq, Repr, Inhabited

structure Response where
  version : String
  /-- The status as written, 0 if it is no integer. -/
  status : Int
  content : Content
  span : Span
  deriving DecidableEq, Repr, Inhabited

/-- A request and the response it expects, if any. -/
structure Entry where
  request : Request
  response : Option Response
  span : Span
  deriving DecidableEq, Repr, Inhabited

/-- A whole request file. -/
structure Document where
  entries : List Entry
  span : Span
  deriving DecidableEq, Repr, Inhabited

namespace Document

/-- The responses, in the order of the file. -/
def responses (d : Document) : List Response := d.entries.filterMap Entry.response

/-- The sections of all responses, in the order of the file. -/
def responseSections (d : Document) : List Section := d.responses.flatMap (·.content.sections)

end Document

end HurlAssist
