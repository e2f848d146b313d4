import HurlAssist.Document.Captures

/-!
What a point of a request file is on. An editor's cursor stands between two characters; the point
to ask about is that of the character before the cursor.
-/

namespace HurlAssist

/-- The length of the shortest method. -/
def shortestMethod : Nat := 3

/-- Whether the column lies in a double-quoted string: the quotes up to and including the column
are odd in number. A backslash has no effect. -/
def insideQuotes (text : String) (col : Nat) : Bool :=
  (text.toList.take (col + 1)).count '"' % 2 == 1

/-- Whether the column is right of the first colon. -/
def rightOfColon (text : String) (col : Nat) : Bool :=
  match text.toList.findIdx? (· == ':') with
  | none => false
  | some colon => colon < col

namespace Document

/-- Whether the point is on the method of a request. The start of the first line always is, so
that methods can be offered in an empty file. -/
def onMethod (d : Document) (p : Point) : Bool :=
  (p.line == 0 && p.col ≤ shortestMethod) ||
  d.entries.any fun e => e.request.method.span.contains p

/-- Whether the point is on the target of a request. -/
def onTarget (d : Document) (p : Point) : Bool :=
  d.entries.any fun e => e.request.target.span.contains p

/-- Whether the point is where the name of a response section is written: at the start of the line
after a status line, or on the name of a section that a response has. -/
def onSectionName (d : Document) (p : Point) : Bool :=
  (d.responses.any fun r => p.line == r.span.start.line + 1 && p.col ≤ 1) ||
  d.responseSections.any fun s => s.name.span.contains p

/-- The response section that has the line below its header. -/
def sectionAt? (d : Document) (line : Nat) : Option Section :=
  ((d.responses.filter fun r => r.span.start.line < line).flatMap (·.content.sections)).find?
    fun s => s.span.start.line < line && line ≤ s.span.stop.line

/-- Whether a filter can be written at the point: in a response section below its header, outside
of double quotes, and in `[Captures]` right of the colon that ends the variable's name. -/
def takesFilter (d : Document) (p : Point) : Bool :=
  match d.sectionAt? p.line with
  | none => false
  | some s =>
    match s.line? p.line with
    | none => false
    | some text => (!s.isCaptures || rightOfColon text p.col) && !insideQuotes text p.col

/-- The request whose method stands on the line. -/
def requestAt? (d : Document) (line : Nat) : Option Request :=
  (d.entries.map Entry.request).find? fun r => r.method.span.start.line == line

/-- The entry that has the line. -/
def entryAt? (d : Document) (line : Nat) : Option Entry :=
  d.entries.find? fun e => e.span.spansLine line

end Document

end HurlAssist
