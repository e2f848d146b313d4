import HurlAssist.Keyed
import HurlAssist.Yaml.Node.Basic
import HurlAssist.Yaml.Token.Lexer

/-!
From words to nodes. A text holds at most one document. An anchor gets as its number how many
names of anchors there are before it.
-/

namespace HurlAssist.Yaml

/-- The words that are still to be read, and the numbers of the anchors so far. -/
structure Reader where
  words : List Token
  anchors : List (String × Nat) := []

abbrev Read := StateT Reader Option

/-- What handles stand for. -/
abbrev Handles := List (List Char × Octets)

namespace Read

def peek : Read (Option Token) := fun r => some (r.words.head?, r)

def advance : Read Unit := fun r => some ((), { r with words := r.words.tail })

def fail {α : Type} : Read α := fun _ => none

/-- Gives the anchor that starts here its number. -/
def newAnchor (name : List Char) : Read Nat := fun r =>
  some (r.anchors.length,
    { r with anchors := Keyed.put (String.ofList name) r.anchors.length r.anchors })

def anchor (name : List Char) : Read Nat := fun r =>
  (r.anchors.lookup (String.ofList name)).map fun n => (n, r)

/-- The tag in full. -/
def tag (handles : Handles) (t : WrittenTag) : Read (Octets) := fun r =>
  if t.handle.isEmpty then some (t.suffix, r)
  else (handles.lookup t.handle).map fun replacement => (replacement ++ t.suffix, r)

/-- The anchor and the tag of a node, in either order. -/
def properties (handles : Handles) : Read Properties := do
  match ← peek with
  | some (.anchor name) =>
    advance
    let n ← newAnchor name
    match ← peek with
    | some (.tag t) =>
      advance
      return ⟨some n, some (← tag handles t)⟩
    | _ => return ⟨some n, none⟩
  | some (.tag t) =>
    advance
    let octets ← tag handles t
    match ← peek with
    | some (.anchor name) =>
      advance
      return ⟨some (← newAnchor name), some octets⟩
    | _ => return ⟨none, some octets⟩
  | _ => return {}

/-- A node that may be left out before certain words. -/
def orMissing (stops : List Token) (node : Read Node) : Read Node := do
  match ← peek with
  | none => fail
  | some t => if stops.contains t then return Node.missing else node

/-- A node of which there are only the properties. -/
def bare (p : Properties) : Read Node := if p.isEmpty then fail else return .scalar p [] true

mutual

/-- A node. `block` says whether it may be a block, and `loose` whether it may be a sequence that
is indented no further than the mapping around it. -/
def node (handles : Handles) : Nat → Bool → Bool → Read Node
  | 0, _, _ => fail
  | fuel + 1, block, loose => do
    match ← peek with
    | some (.alias name) =>
      let n ← anchor name
      advance
      return .alias n
    | _ =>
      let p ← properties handles
      match ← peek with
      | some (.scalar text plain) =>
        advance
        return .scalar p text plain
      | some .openSequence =>
        advance
        return .sequence p (← items handles fuel true)
      | some .openMapping =>
        advance
        return .mapping p (← entries handles fuel true)
      | some .openBlockSequence =>
        if block then
          advance
          return .sequence p (← blockItems handles fuel)
        else bare p
      | some .openBlockMapping =>
        if block then
          advance
          return .mapping p (← blockEntries handles fuel)
        else bare p
      | some .entry => if loose then return .sequence p (← looseItems handles fuel) else bare p
      | _ => bare p

/-- The entries of a block sequence, and its end. -/
def blockItems (handles : Handles) : Nat → Read (List Node)
  | 0 => fail
  | fuel + 1 => do
    match ← peek with
    | some .entry =>
      advance
      let item ← orMissing [.entry, .closeBlock] (node handles fuel true false)
      return item :: (← blockItems handles fuel)
    | some .closeBlock =>
      advance
      return []
    | _ => fail

/-- The entries of a sequence that has no end of its own. -/
def looseItems (handles : Handles) : Nat → Read (List Node)
  | 0 => fail
  | fuel + 1 => do
    match ← peek with
    | some .entry =>
      advance
      let item ← orMissing [.entry, .key, .value, .closeBlock] (node handles fuel true false)
      return item :: (← looseItems handles fuel)
    | _ => return []

/-- The keys and values of a block mapping, and its end. -/
def blockEntries (handles : Handles) : Nat → Read (List (Node × Node))
  | 0 => fail
  | fuel + 1 => do
    match ← peek with
    | some .key =>
      advance
      let part := orMissing [.key, .value, .closeBlock] (node handles fuel true true)
      let key ← part
      let value ← match ← peek with
        | some .value => do
          advance
          part
        | _ => pure Node.missing
      return (key, value) :: (← blockEntries handles fuel)
    | some .closeBlock =>
      advance
      return []
    | _ => fail

/-- The entries of a sequence in brackets, and its end. A key among them makes a mapping of one
entry; where that key is left out, the word after it goes unread. -/
def items (handles : Handles) : Nat → Bool → Read (List Node)
  | 0, _ => fail
  | fuel + 1, first => do
    match ← peek with
    | some .closeSequence =>
      advance
      return []
    | next =>
      if !first then
        if next == some .comma then advance else fail
      match ← peek with
      | some .closeSequence =>
        advance
        return []
      | some .key =>
        advance
        let part := node handles fuel false false
        let key ← match ← peek with
          | none => fail
          | some t =>
            if [.value, .comma, .closeSequence].contains t then do
              advance
              pure Node.missing
            else part
        let value ← match ← peek with
          | some .value => do
            advance
            orMissing [.comma, .closeSequence] part
          | _ => pure Node.missing
        return .mapping {} [(key, value)] :: (← items handles fuel false)
      | _ =>
        let item ← node handles fuel false false
        return item :: (← items handles fuel false)

/-- The keys and values of a mapping in braces, and its end. -/
def entries (handles : Handles) : Nat → Bool → Read (List (Node × Node))
  | 0, _ => fail
  | fuel + 1, first => do
    match ← peek with
    | some .closeMapping =>
      advance
      return []
    | next =>
      if !first then
        if next == some .comma then advance else fail
      match ← peek with
      | some .closeMapping =>
        advance
        return []
      | some .key =>
        advance
        let part := node handles fuel false false
        let key ← orMissing [.value, .comma, .closeMapping] part
        let value ← match ← peek with
          | some .value => do
            advance
            orMissing [.comma, .closeMapping] part
          | _ => pure Node.missing
        return (key, value) :: (← entries handles fuel false)
      | _ =>
        let key ← node handles fuel false false
        return (key, Node.missing) :: (← entries handles fuel false)

end

end Read

/-- The handles that need no directive. -/
def standardHandles : Handles :=
  [(['!'], [Octets.ofChar '!']), (['!', '!'], Octets.ofText "tag:yaml.org,2002:")]

/-- What handles stand for after directives. A document is written in version 1.1 or 1.2, and no
directive may be given twice. -/
def handles? (versioned : Bool) (done : Handles) : List Directive → Option Handles
  | [] => some (done ++ standardHandles)
  | .version major minor :: rest =>
    if versioned ∨ major ≠ 1 ∨ (minor ≠ 1 ∧ minor ≠ 2) then none else handles? true done rest
  | .handle handle octets :: rest =>
    if (done.lookup handle).isSome then none else handles? versioned (done ++ [(handle, octets)]) rest

/-- The directives that the words start with, and the words after them. -/
def directives : List Token → List Directive × List Token
  | .directive d :: rest => (d :: (directives rest).1, (directives rest).2)
  | ts => ([], ts)

/-- Whether the content of a document is left out before the words. -/
def endsContent : List Token → Bool
  | [] => true
  | .directive _ :: _ => true
  | .documentStart :: _ => true
  | .documentEnd :: _ => true
  | _ => false

/-- The node that the words describe from the first to the last. -/
def wholeNode? (handles : Handles) (ts : List Token) : Option Node :=
  match (Read.node handles (2 * ts.length + 2) true false).run { words := ts } with
  | some (n, r) =>
    if (r.words.dropWhile (· == .documentEnd)).isEmpty then some n else none
  | none => none

/-- The node of the document that the words describe, if they describe any. -/
def Node.ofTokens? (ts : List Token) : Option (Option Node) :=
  match directives ts with
  | ([], []) => some none
  | (ds, .documentStart :: rest) =>
    match handles? false [] ds with
    | none => none
    | some handles =>
      if endsContent rest then
        if (rest.dropWhile (· == .documentEnd)).isEmpty then some (some .missing) else none
      else (wholeNode? handles rest).map some
  | ([], _) => (wholeNode? standardHandles ts).map some
  | _ => none

/-- The node of the document that a text describes, if it describes any. -/
def Node.ofText? (text : String) : Option (Option Node) :=
  (Token.ofText? text.toList).bind Node.ofTokens?

end HurlAssist.Yaml
