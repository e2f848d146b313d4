import HurlAssist.Api.Definition
import HurlAssist.Document.Query
import HurlAssist.Filter

/-!
What an editor offers at a point of a request file: methods, section headers, captured variables,
filters and the paths of the API, in this order, each where it can be written.
-/

namespace HurlAssist.Editor

inductive CompletionKind where
  | method
  | sectionTag
  | capturedVariable
  | filter
  | path
  deriving DecidableEq, Repr

/-- The number by which an editor knows the kind. -/
def CompletionKind.code : CompletionKind → Nat
  | method => 2
  | filter => 3
  | capturedVariable => 6
  | path => 12
  | sectionTag => 20

structure Completion where
  label : String
  kind : CompletionKind
  insertText : String
  detail : Option String := none
  documentation : Option String := none
  deriving DecidableEq, Repr

namespace Completion

def methods : List String :=
  ["GET", "POST", "PUT", "PATCH", "HEAD", "DELETE", "CONNECT", "TRACE", "OPTIONS"]

def sectionTags : List String :=
  [Section.capturesName, Section.assertsName].map fun name => "[" ++ name ++ "]"

/-- An item that inserts its label. -/
def plain (kind : CompletionKind) (label : String) : Completion :=
  { label := label, kind := kind, insertText := label }

/-- A variable, which is inserted between double braces. -/
def ofVariable (name : String) : Completion :=
  { label := name, kind := .capturedVariable, insertText := "\x7b\x7b" ++ name ++ "\x7d\x7d" }

def ofFilter (f : Filter) : Completion :=
  { label := f.name, kind := .filter, insertText := f.name,
    detail := some f.type, documentation := some f.description }

/-- The item as an editor reads it. What it does not have is left out. -/
def toJson (c : Completion) : Json :=
  .object <|
    [("label", .string c.label), ("kind", .ofNat c.kind.code),
      ("insertText", .string c.insertText)] ++
    (c.detail.map fun s => ("detail", Json.string s)).toList ++
    (c.documentation.map fun s => ("documentation", Json.string s)).toList

end Completion

/-- The items offered at a point. -/
def complete (d : Document) (api : Api.Definition) (p : Point) : List Completion :=
  (if d.onMethod p then Completion.methods.map (.plain .method) else []) ++
  (if d.onSectionName p then Completion.sectionTags.map (.plain .sectionTag) else []) ++
  (d.variablesAt p.line).map .ofVariable ++
  (if d.takesFilter p then Filter.catalog.map .ofFilter else []) ++
  (if d.onTarget p then api.paths.map (.plain .path) else [])

end HurlAssist.Editor
