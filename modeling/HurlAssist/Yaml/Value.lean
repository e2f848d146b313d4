import HurlAssist.Json.Basic
import HurlAssist.Keyed
import HurlAssist.Yaml.Node.Grammar
import HurlAssist.Yaml.Scalar.Typed

/-!
From nodes to values. A standard tag says which type a scalar has to have; a local tag has no
meaning here and is refused. Keys are taken as their text. Aliases may be followed a hundred times
for each part of the text, so that a short text cannot stand for a huge value.
-/

namespace HurlAssist.Yaml

/-- What a tag says about a value. -/
inductive TagKind where
  | untagged
  | bool
  | int
  | float
  | null
  | ownType
  | other

/-- A local tag that is not text counts as no tag. -/
def tagKind : Option (Octets) → TagKind
  | none => .untagged
  | some tag =>
    if tag.head? = some (Octets.ofChar '!') then
      if tag.text?.isSome then .ownType else .untagged
    else if tag = Octets.ofText "tag:yaml.org,2002:bool" then .bool
    else if tag = Octets.ofText "tag:yaml.org,2002:int" then .int
    else if tag = Octets.ofText "tag:yaml.org,2002:float" then .float
    else if tag = Octets.ofText "tag:yaml.org,2002:null" then .null
    else .other

def isLocal (p : Properties) : Bool :=
  match tagKind p.tag with
  | .ownType => true
  | _ => false

/-- The value of a scalar. -/
def scalarValue? (p : Properties) (text : List Char) (plain : Bool) : Option Json :=
  match tagKind p.tag with
  | .untagged => if plain then plainValue? text else some (.string (String.ofList text))
  | .bool => (boolWord? (String.ofList text)).map .bool
  | .int => (integer? text).bind wholeNumber?
  | .float => floating? text
  | .null => if nullWord (String.ofList text) then some .null else none
  | .ownType => none
  | .other => some (.string (String.ofList text))

/-- Values that may follow so many more aliases. -/
abbrev Resolve := StateT Nat Option

namespace Resolve

def fail {α : Type} : Resolve α := fun _ => none

def ofOption {α : Type} (o : Option α) : Resolve α := fun jumps => o.map fun a => (a, jumps)

/-- The node itself, or the one that an alias stands for. -/
def target (anchored : List (Nat × Node)) : Node → Resolve Node
  | .alias n => fun jumps =>
    if jumps = 0 then none else (Node.target? anchored n).map fun target => (target, jumps - 1)
  | n => return n

/-- The text of a key. -/
def key (anchored : List (Nat × Node)) (n : Node) : Resolve String := do
  match ← target anchored n with
  | .scalar _ text _ => return String.ofList text
  | _ => fail

/-- The value of a node that may hold up to `room` containers one in the other. -/
def value (anchored : List (Nat × Node)) : Nat → Node → Resolve Json
  | room, n => do
    match ← target anchored n with
    | .scalar p text plain => ofOption (scalarValue? p text plain)
    | .alias _ => fail
    | .sequence p items =>
      match room with
      | 0 => fail
      | room + 1 =>
        if isLocal p then fail else return .array (← items.mapM (value anchored room))
    | .mapping p entries =>
      match room with
      | 0 => fail
      | room + 1 =>
        if isLocal p then fail
        else
          let members ← entries.mapM fun e => do
            let k ← key anchored e.1
            return (k, ← value anchored room e.2)
          return .object (Keyed.ofList members)

end Resolve

end HurlAssist.Yaml
