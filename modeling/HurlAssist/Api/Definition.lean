import HurlAssist.Api.Operation
import HurlAssist.Api.Template
import HurlAssist.Text.Case
import HurlAssist.Text.Quoted

/-!
API definitions: path templates with what is documented for each, in the order of the definition.
A lookup takes the longest template that matches, and of equally long ones the first. What stands
under a template is decoded at the lookup, so that a mistake in one operation does no harm to the
others.
-/

namespace HurlAssist.Api

/-- A path template and what stands under it. -/
structure PathItem where
  template : String
  content : Json
  deriving DecidableEq, Repr, Inhabited

structure Definition where
  items : List PathItem
  deriving DecidableEq, Repr, Inhabited

/-- The answer to a lookup. -/
structure Operation where
  /-- The method as it was asked for. -/
  method : String
  /-- The template that matched, or the path that was asked for. -/
  path : String
  detail : Detail
  deriving DecidableEq, Repr

/-- The members of a path item that are operations. -/
def operationKeys : List String :=
  ["get", "put", "post", "delete", "options", "head", "patch", "trace", "connect"]

/-- Why a lookup has nothing to show. -/
inductive Undocumented where
  | noTemplate
  | malformed
  /-- The template has other methods. -/
  | noMethod (template method : String) (documented : List String)

def Undocumented.message : Undocumented → String
  | noTemplate => "Path not found in provided openapi spec"
  | malformed => "Documentation of is malformed json/yaml"
  | noMethod template method documented =>
    template ++ ": undocumented method " ++ Text.toUpper method ++
    ". The following methods are documented for this path " ++
    ",".intercalate (documented.map Text.toUpper) ++ "."

namespace Operation

/-- The summary of every operation that is not documented. -/
def undocumentedSummary : String := "Operation not documented"

def undocumented (method path : String) (reason : Undocumented) : Operation :=
  ⟨method, path, ⟨undocumentedSummary, reason.message, []⟩⟩

def isDocumented (op : Operation) : Bool := op.detail.summary != undocumentedSummary

end Operation

namespace PathItem

/-- The answer for a method at this template. -/
def operation (item : PathItem) (method : String) : Operation :=
  match item.content with
  | .object members =>
    match members.lookup (Text.toLower method) with
    | none =>
      .undocumented method item.template <|
        .noMethod item.template method ((members.map Prod.fst).filter operationKeys.contains)
    | some content =>
      match Detail.ofJson? content with
      | some detail => ⟨method, item.template, detail⟩
      | none => .undocumented method item.template .malformed
  | _ => .undocumented method item.template .malformed

end PathItem

namespace Definition

/-- The definition that documents nothing. -/
def empty : Definition := ⟨[]⟩

/-- The definition of these paths. Every template can be searched for, however large it is. None is
skipped because a pattern for it cannot be made. -/
def ofPaths (paths : List (String × Json)) : Definition := ⟨paths.map fun p => ⟨p.1, p.2⟩⟩

/-- The path templates. -/
def paths (d : Definition) : List String := d.items.map PathItem.template

def isEmpty (d : Definition) : Bool := d.items.isEmpty

/-- The better of two choices for a path: the second only if it is longer and matches. All templates
take part, since each of them can be searched for. -/
def choose (path : String) (best : Option PathItem) (item : PathItem) : Option PathItem :=
  let longer :=
    match best with
    | none => true
    | some b => b.template.utf8ByteSize < item.template.utf8ByteSize
  if longer && templateMatches item.template path then some item else best

/-- The item for a path: the longest that matches, counted in bytes, of equals the first. -/
def find? (d : Definition) (path : String) : Option PathItem :=
  d.items.foldl (choose path) none

/-- What is documented for a method on a path. -/
def operation (d : Definition) (method path : String) : Operation :=
  match d.find? path with
  | none => .undocumented method path .noTemplate
  | some item => item.operation method

/-- The definition as text for a reader who looks for mistakes. -/
def describe (d : Definition) : String :=
  "ApiSpec \x7b paths: [" ++ ", ".intercalate (d.paths.map Text.quoted) ++ "] \x7d"

end Definition

end HurlAssist.Api
