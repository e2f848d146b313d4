import HurlAssist.Api.Definition
import HurlAssist.Disk.Basic
import HurlAssist.Json.Record
import HurlAssist.Yaml.Value

/-!
Reading API definitions. Of a definition only `paths` counts.
-/

namespace HurlAssist.Api

/-- How a definition is written. -/
inductive Format where
  | json
  | yaml
  deriving DecidableEq, Repr

def Format.name : Format → String
  | json => "json"
  | yaml => "yaml"

/-- The format that the name of a file stands for: JSON if it ends in `.json`, else YAML. -/
def Format.ofPath (p : Path) : Format :=
  match p.extension? with
  | some ending =>
    if (ending.map fun b => (Char.ofNat b.toNat).toLower) = "json".toList then json else yaml
  | none => yaml

/-- Why a definition could not be loaded. -/
inductive LoadError where
  | read (path : Path) (error : ReadError)
  | malformed (format : Format)
  deriving DecidableEq, Repr

/-- What is wrong. What the parser says of a text that it refuses would stand behind a colon after
this. It is left out, for there are no words for it here. -/
def LoadError.message : LoadError → String
  | .read path e => "could not read file " ++ path.shown ++ ": " ++ e.message
  | .malformed format => "could not parse " ++ format.name ++ " file"

namespace Definition

open Json (Syntax)

/-- The paths that stand at `paths`. -/
def ofPathsSyntax? (s : Syntax) : Option Definition :=
  match Json.ofSyntax? (Json.depthLimit - 1) s with
  | some (.object members) => some (ofPaths members)
  | _ => none

def ofSyntax? (s : Syntax) : Option Definition :=
  match Json.onlyField? "paths" s with
  | none => none
  | some none => some empty
  | some (some paths) => ofPathsSyntax? paths

def ofJsonText? (text : String) : Option Definition := (Syntax.ofText? text).bind ofSyntax?

open Yaml (Node Resolve)

/-- How many containers a definition in YAML may hold one in the other. -/
def depthLimit : Nat := 128

/-- The paths that a node stands for. What is left out is empty. -/
def ofPathsNode (anchored : List (Nat × Node)) (n : Node) : Resolve Definition := do
  match ← Resolve.target anchored n with
  | .mapping _ entries =>
    let members ← entries.mapM fun e => do
      let key ← Resolve.key anchored e.1
      return (key, ← Resolve.value anchored (depthLimit - 2) e.2)
    return ofPaths (Keyed.ofList members)
  | n => if n.isMissing then return empty else Resolve.fail

/-- The definition that is made of the entries of a document. `found` is what its paths were, if
they have come. -/
def ofEntries (anchored : List (Nat × Node)) (found : Option Definition) :
    List (Node × Node) → Resolve Definition
  | [] => return found.getD empty
  | (key, n) :: rest => do
    if (← Resolve.key anchored key) == "paths" then
      if found.isSome then Resolve.fail
      else ofEntries anchored (some (← ofPathsNode anchored n)) rest
    else ofEntries anchored found rest

/-- A definition as a YAML document, which has to be a mapping or empty. -/
def ofNode? (n : Node) : Option Definition :=
  match n with
  | .mapping _ entries =>
    ((ofEntries n.anchored none entries).run (100 * n.size)).map Prod.fst
  | _ => if n.isMissing then some empty else none

def ofYamlText? (text : String) : Option Definition :=
  match Node.ofText? text with
  | none => none
  | some none => some empty
  | some (some n) => ofNode? n

/-- The definition that a text writes in a format. -/
def ofText (format : Format) (text : String) : Except LoadError Definition :=
  let read? : Option Definition :=
    match format with
    | .json => ofJsonText? text
    | .yaml => ofYamlText? text
  match read? with
  | some d => .ok d
  | none => .error (.malformed format)

/-- The definition that a file holds, in the format that its name stands for. -/
def load {m : Type → Type} [Monad m] (disk : Disk m) (path : Path) :
    m (Except LoadError Definition) := do
  match ← disk.readText path with
  | .error e => return .error (.read path e)
  | .ok text => return ofText (.ofPath path) text

end Definition

end HurlAssist.Api
