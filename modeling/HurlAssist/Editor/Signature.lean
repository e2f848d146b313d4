import HurlAssist.Api.Definition
import HurlAssist.Document.Query
import HurlAssist.Editor.Symbol
import HurlAssist.Filter

/-!
What an editor shows about the word at a point: the type of a filter, or the documentation of the
operation that a request line calls.
-/

namespace HurlAssist.Editor

structure SignatureParameter where
  label : String
  documentation : Option String
  deriving DecidableEq, Repr

structure Signature where
  label : String
  documentation : String
  parameters : List SignatureParameter
  deriving DecidableEq, Repr

namespace Signature

def ofFilter (f : Filter) : Signature := ⟨f.name, f.description, [⟨f.input, none⟩]⟩

/-- Parameters without a name or without a description are left out. -/
def ofOperation (op : Api.Operation) : Signature where
  label := op.method ++ " " ++ op.path
  documentation := "Summary: " ++ op.detail.summary ++ "\nDescription: " ++ op.detail.description
  parameters :=
    (op.detail.parameters.filter fun p => p.name != "" && p.description != "").map fun p =>
      ⟨p.name, some p.description⟩

/-- The signature as an editor reads it. -/
def toJson (s : Signature) : Json :=
  .object [("signatures", .array [.object
    [("label", .string s.label), ("documentation", .string s.documentation),
      ("parameters", .array (s.parameters.map fun p => .object <|
        ("label", .string p.label) ::
          (p.documentation.map fun t => ("documentation", Json.string t)).toList))]])]

end Signature

/-- The signature for a point: of the filter whose name stands there, else of the operation that
the request line calls, if the point is on its method or target. Without a document there are only
filters. -/
def signatureAt (lines : List String) (d : Option Document) (api : Api.Definition) (p : Point) :
    Option Signature :=
  match Filter.lookup (symbolAt lines p) with
  | some f => some (.ofFilter f)
  | none =>
    match d with
    | none => none
    | some d =>
      if d.onMethod p || d.onTarget p then
        (d.requestAt? p.line).map fun r => .ofOperation (api.operation r.method.text r.target.text)
      else none

end HurlAssist.Editor
