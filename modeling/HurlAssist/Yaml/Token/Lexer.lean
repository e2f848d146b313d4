import HurlAssist.Yaml.Scalar.Block
import HurlAssist.Yaml.Scalar.Plain
import HurlAssist.Yaml.Token.Basic

/-!
Cutting YAML text into words. Whether a node is a key shows only at the colon after it, so the place
of a node that may turn out to be a key is kept, and the word for the key is put in there. Such a
node has to stand on one line and within 1024 octets before its colon. At most one node may
be a key for each pair of brackets that is open, and one outside of them.
-/

namespace HurlAssist.Yaml

/-- A node that is a key if a colon follows. -/
structure KeyPlace where
  /-- How many words there are before the node. -/
  position : Nat
  line : Nat
  column : Nat
  /-- How many octets there are before the node. -/
  offset : Nat
  /-- A node in a block mapping that cannot be anything but a key. -/
  required : Bool

/-- How far a text has been cut into words. -/
structure Lexer where
  cursor : Cursor
  /-- The words so far, the last one first. -/
  words : List Token := []
  count : Nat := 0
  /-- The columns of the open blocks, the innermost first. -/
  blocks : List Nat := []
  /-- Whether a key of a block mapping may start here. -/
  keyAllowed : Bool := true
  /-- The node that may be a key inside of the innermost brackets. -/
  keyPlace : Option KeyPlace := none
  /-- The nodes that may be keys outside of brackets that are still open. -/
  outerPlaces : List (Option KeyPlace) := []

namespace Lexer

def inFlow (s : Lexer) : Bool := !s.outerPlaces.isEmpty

/-- The least column of text that belongs to the innermost block. -/
def margin (s : Lexer) : Nat :=
  match s.blocks with
  | [] => 0
  | column :: _ => column + 1

def push (t : Token) (s : Lexer) : Lexer := { s with words := t :: s.words, count := s.count + 1 }

/-- Puts a word in after the first `position` words. -/
def insert (position : Nat) (t : Token) (s : Lexer) : Lexer :=
  { s with words := s.words.insertIdx (s.count - position) t, count := s.count + 1 }

/-- Opens a block at `column`, unless the innermost block reaches as far. -/
def openBlock (column position : Nat) (t : Token) (s : Lexer) : Lexer :=
  if s.inFlow ∨ column < s.margin then s
  else { s.insert position t with blocks := column :: s.blocks }

def closeBlocksFrom (least : Nat) : List Nat → Lexer → Lexer
  | [], s => { s with blocks := [] }
  | column :: rest, s =>
    if column < least then { s with blocks := column :: rest }
    else closeBlocksFrom least rest (s.push .closeBlock)

/-- Closes the blocks at column `least` and further on. Brackets keep all blocks open. -/
def closeBlocks (least : Nat) (s : Lexer) : Lexer :=
  if s.inFlow then s else closeBlocksFrom least s.blocks s

/-- Gives up the node that may be a key. -/
def dropKey? (s : Lexer) : Option Lexer :=
  if s.keyPlace.any (·.required) then none else some { s with keyPlace := none }

/-- The next node may be a key, if one is allowed. -/
def noteKey? (s : Lexer) : Option Lexer :=
  if s.keyAllowed then
    (s.dropKey?).map fun s => { s with
      keyPlace := some
        ⟨s.count, s.cursor.line, s.cursor.column, s.cursor.offset,
          !s.inFlow && s.blocks.head? == some s.cursor.column⟩ }
  else some s

/-- A node on an earlier line, or too far back, is no key. -/
def expireKey? (c : Cursor) : Option KeyPlace → Option (Option KeyPlace)
  | none => some none
  | some k =>
    if k.line < c.line ∨ k.offset + 1024 < c.offset then if k.required then none else some none
    else some (some k)

def expireKeys? (s : Lexer) : Option Lexer := do
  return { s with
    keyPlace := ← expireKey? s.cursor s.keyPlace
    outerPlaces := ← s.outerPlaces.mapM (expireKey? s.cursor) }

/-- Pushes a word that takes up `length` characters. -/
def take (length : Nat) (t : Token) (s : Lexer) : Lexer :=
  { s.push t with cursor := s.cursor.skip length }

/-- Passes blanks, comments and line ends. A tab does not count as a blank where a key may start. -/
def skipBlank : Nat → Lexer → Lexer
  | 0, s => s
  | fuel + 1, s =>
    let tabs := s.inFlow || !s.keyAllowed
    let c := s.cursor.skipMark.dropWhile fun x => x == ' ' || tabs && x == '\t'
    let c := match c.rest with
      | '#' :: _ => c.dropWhile fun x => !isBreak x
      | _ => c
    match c.break? with
    | some (_, next) =>
      skipBlank fuel { s with cursor := next, keyAllowed := s.keyAllowed || !s.inFlow }
    | none => { s with cursor := c }

/-- A directive, or a line between documents. -/
def documentWord? (read : Cursor → Option (Token × Cursor)) (s : Lexer) : Option Lexer := do
  let s ← (s.closeBlocks 0).dropKey?
  let (t, c) ← read s.cursor
  return { s.push t with cursor := c, keyAllowed := false }

def openBracket? (t : Token) (s : Lexer) : Option Lexer := do
  let s ← s.noteKey?
  return { s.take 1 t with
    keyAllowed := true, keyPlace := none, outerPlaces := s.keyPlace :: s.outerPlaces }

def closeBracket? (t : Token) (s : Lexer) : Option Lexer := do
  let s ← s.dropKey?
  let s := match s.outerPlaces with
    | [] => s
    | place :: rest => { s with keyPlace := place, outerPlaces := rest }
  return { s.take 1 t with keyAllowed := false }

def comma? (s : Lexer) : Option Lexer := do
  let s ← s.dropKey?
  return { s.take 1 .comma with keyAllowed := true }

def entry? (s : Lexer) : Option Lexer := do
  if !s.inFlow && !s.keyAllowed then none
  else
    let s ← (s.openBlock s.cursor.column s.count .openBlockSequence).dropKey?
    return { s.take 1 .entry with keyAllowed := true }

def key? (s : Lexer) : Option Lexer := do
  if !s.inFlow && !s.keyAllowed then none
  else
    let s ← (s.openBlock s.cursor.column s.count .openBlockMapping).dropKey?
    return { s.take 1 .key with keyAllowed := !s.inFlow }

/-- A colon: the node whose place is kept is a key, and else the value belongs to a key that was
announced by a question mark. -/
def value? (s : Lexer) : Option Lexer :=
  match s.keyPlace with
  | some k =>
    let s := (s.insert k.position .key).openBlock k.column k.position .openBlockMapping
    some { s.take 1 .value with keyPlace := none, keyAllowed := false }
  | none =>
    if !s.inFlow && !s.keyAllowed then none
    else
      let s := s.openBlock s.cursor.column s.count .openBlockMapping
      some { s.take 1 .value with keyAllowed := !s.inFlow }

/-- A word that may be a key, or the start of one. -/
def nodeWord? (read : Cursor → Option (Token × Cursor)) (s : Lexer) : Option Lexer := do
  let s ← s.noteKey?
  let (t, c) ← read s.cursor
  return { s.push t with cursor := c, keyAllowed := false }

def blockScalar? (folded : Bool) (s : Lexer) : Option Lexer := do
  let s ← s.dropKey?
  let (text, c) ← block? folded s.margin s.cursor
  return { s.push (.scalar text false) with cursor := c, keyAllowed := true }

def plainScalar? (s : Lexer) : Option Lexer := do
  let s ← s.noteKey?
  let (text, broken, c) ← plain? s.inFlow s.margin s.cursor
  return { s.push (.scalar text true) with cursor := c, keyAllowed := broken }

/-- The name after the mark of an anchor or an alias. -/
def name? (c : Cursor) : Option (List Char × Cursor) :=
  let (name, c) := (c.skip 1).takeWhile isNameChar
  let ended := endsWord c.rest || (c.rest.head?.any ("?:,]\x7d%@`".toList.contains ·))
  if name.isEmpty || !ended then none else some (name, c)

/-- The next word of a text that is not at its end. -/
def word? (s : Lexer) : Option Lexer :=
  let c := s.cursor
  match c.rest with
  | [] => some s
  | x :: rest =>
    let alone := endsWord rest
    if x = '%' ∧ c.column = 0 then
      s.documentWord? fun c => (directive? c).map fun r => (.directive r.1, r.2)
    else if c.marks '-' then s.documentWord? fun c => some (.documentStart, c.skip 3)
    else if c.marks '.' then s.documentWord? fun c => some (.documentEnd, c.skip 3)
    else if x = '[' then s.openBracket? .openSequence
    else if x = '\x7b' then s.openBracket? .openMapping
    else if x = ']' then s.closeBracket? .closeSequence
    else if x = '\x7d' then s.closeBracket? .closeMapping
    else if x = ',' then s.comma?
    else if x = '-' ∧ alone then s.entry?
    else if x = '?' ∧ (s.inFlow || alone) then s.key?
    else if x = ':' ∧ (s.inFlow || alone) then s.value?
    else if x = '*' then s.nodeWord? fun c => (name? c).map fun r => (.alias r.1, r.2)
    else if x = '&' then s.nodeWord? fun c => (name? c).map fun r => (.anchor r.1, r.2)
    else if x = '!' then s.nodeWord? fun c => (tag? s.inFlow c).map fun r => (.tag r.1, r.2)
    else if x = '|' ∧ !s.inFlow then s.blockScalar? false
    else if x = '>' ∧ !s.inFlow then s.blockScalar? true
    else if x = '\'' then
      s.nodeWord? fun c => (quoted? true c).map fun r => (.scalar r.1 false, r.2)
    else if x = '"' then
      s.nodeWord? fun c => (quoted? false c).map fun r => (.scalar r.1 false, r.2)
    else if startsPlain s.inFlow c.rest then s.plainScalar?
    else none

/-- Reads words until the text ends. -/
def run? : Nat → Lexer → Option (List Token)
  | 0, _ => none
  | fuel + 1, s => do
    let s ← (s.skipBlank (s.cursor.left + 1)).expireKeys?
    let s := s.closeBlocks s.cursor.column.succ
    if s.cursor.rest.isEmpty then
      let s ← (s.closeBlocks 0).dropKey?
      return s.words.reverse
    else run? fuel (← s.word?)

end Lexer

/-- The words of a text. -/
def Token.ofText? (text : List Char) : Option (List Token) :=
  if text.all isAllowed then Lexer.run? (text.length + 1) { cursor := .ofText text } else none

end HurlAssist.Yaml
