import HurlAssist.Json.Basic

/-!
What an API definition says of one operation: a summary, a description and the parameters. An
operation and a parameter are objects with named members or arrays of the members in order.
Members that are missing are empty, others than the known ones do not matter, and a known member
of the wrong type makes the whole operation malformed.
-/

namespace HurlAssist.Api

structure Parameter where
  name : String
  /-- Where the parameter goes, such as `path` or `query`. -/
  location : String
  description : String
  deriving DecidableEq, Repr, Inhabited

structure Detail where
  summary : String
  description : String
  parameters : List Parameter
  deriving DecidableEq, Repr, Inhabited

/-- The members of a value by their names, or by their order if the value is an array. Too long an
array has none. -/
def members? (names : List String) : Json → Option (List (Option Json))
  | .object members => some (names.map fun name => members.lookup name)
  | .array items =>
    if names.length < items.length then none
    else some ((List.range names.length).map fun i => items[i]?)
  | _ => none

/-- The text of a member that may be missing. -/
def memberText? : Option Json → Option String
  | none => some ""
  | some (.string s) => some s
  | some _ => none

namespace Parameter

def ofJson? (j : Json) : Option Parameter :=
  match members? ["name", "in", "description"] j with
  | some [name, location, description] =>
    match memberText? name, memberText? location, memberText? description with
    | some name, some location, some description => some ⟨name, location, description⟩
    | _, _, _ => none
  | _ => none

/-- The parameters of a member that may be missing. -/
def listOfJson? : Option Json → Option (List Parameter)
  | none => some []
  | some (.array items) => items.mapM ofJson?
  | some _ => none

end Parameter

def Detail.ofJson? (j : Json) : Option Detail :=
  match members? ["summary", "description", "parameters"] j with
  | some [summary, description, parameters] =>
    match memberText? summary, memberText? description, Parameter.listOfJson? parameters with
    | some summary, some description, some parameters => some ⟨summary, description, parameters⟩
    | _, _, _ => none
  | _ => none

end HurlAssist.Api
