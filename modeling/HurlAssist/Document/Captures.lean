import HurlAssist.Document.Basic

/-!
Which captured variables are known where. The keys of a response's `[Captures]` section are
variables on every line below the section.
-/

namespace HurlAssist

/-- The variables that one `[Captures]` section brings. -/
structure Capture where
  /-- The last line of the section: the variables are known below it. -/
  useAfter : Nat
  /-- The variables, in the order in which the section names them. -/
  brings : List String
  deriving DecidableEq, Repr

namespace Capture

/-- The captures whose variables are known on a line. -/
def before (line : Nat) (cs : List Capture) : List Capture := cs.filter fun c => c.useAfter < line

/-- The names in order, each where it first stands. -/
def distinct (names : List String) : List String :=
  names.foldl (fun seen name => if seen.contains name then seen else seen ++ [name]) []

/-- The variables of all these captures, each once. -/
def names (cs : List Capture) : List String := distinct (cs.flatMap brings)

/-- The variables that a section brings. -/
def ofSection (s : Section) : Capture := ⟨s.span.stop.line, s.keyValues.keys⟩

/-- The line that lists a capture. -/
def listing (c : Capture) : String :=
  "after line " ++ toString c.useAfter ++ ": " ++ ", ".intercalate c.brings

end Capture

namespace Document

/-- The `[Captures]` sections of all responses, in the order of the file. -/
def captures (d : Document) : List Capture :=
  (d.responseSections.filter Section.isCaptures).map Capture.ofSection

/-- The variables known on a line. -/
def variablesAt (d : Document) (line : Nat) : List String :=
  Capture.names (Capture.before line d.captures)

end Document

end HurlAssist
