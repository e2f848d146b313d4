import HurlAssist.Text.Octets

/-!
The nodes that YAML text describes. An alias stands for the node whose anchor has its number.
-/

namespace HurlAssist.Yaml

/-- What may stand before a node: an anchor, and a tag in full. -/
structure Properties where
  anchor : Option Nat := none
  tag : Option (Octets) := none
  deriving Repr, BEq

def Properties.isEmpty (p : Properties) : Bool := p.anchor.isNone && p.tag.isNone

inductive Node where
  | scalar (p : Properties) (text : List Char) (plain : Bool)
  | alias (anchor : Nat)
  | sequence (p : Properties) (items : List Node)
  | mapping (p : Properties) (entries : List (Node × Node))
  deriving Repr, Inhabited

namespace Node

/-- What stands where a node is left out. -/
def missing : Node := .scalar {} [] true

def isMissing : Node → Bool
  | .scalar _ text plain => plain && text.isEmpty
  | _ => false

mutual

/-- The length of the node's description: one for a scalar or an alias, two for the start and the
end of anything else. -/
def size : Node → Nat
  | .scalar .. => 1
  | .alias _ => 1
  | .sequence _ items => itemsSize items + 2
  | .mapping _ entries => entriesSize entries + 2

def itemsSize : List Node → Nat
  | [] => 0
  | n :: rest => n.size + itemsSize rest

def entriesSize : List (Node × Node) → Nat
  | [] => 0
  | (k, v) :: rest => k.size + v.size + entriesSize rest

end

/-- The node itself with its number, if it has an anchor. -/
def own (p : Properties) (n : Node) : List (Nat × Node) := (p.anchor.map fun a => (a, n)).toList

mutual

/-- The nodes that have anchors, in the order in which they start. -/
def anchored : Node → List (Nat × Node)
  | .scalar p text plain => own p (.scalar p text plain)
  | .alias _ => []
  | .sequence p items => own p (.sequence p items) ++ itemsAnchored items
  | .mapping p entries => own p (.mapping p entries) ++ entriesAnchored entries

def itemsAnchored : List Node → List (Nat × Node)
  | [] => []
  | n :: rest => n.anchored ++ itemsAnchored rest

def entriesAnchored : List (Node × Node) → List (Nat × Node)
  | [] => []
  | (k, v) :: rest => k.anchored ++ v.anchored ++ entriesAnchored rest

end

/-- The node that stands for an alias: of the nodes with its number the last. -/
def target? (all : List (Nat × Node)) (anchor : Nat) : Option Node :=
  (all.reverse.find? fun a => a.1 == anchor).map Prod.snd

end Node

end HurlAssist.Yaml
