import HurlAssist.Decimal
import HurlAssist.Text.Octets
import HurlAssist.Yaml.Scalar.Quoted

/-!
Tags and directives. A tag names the type of a node: by a handle and a suffix (`!!int`), or in full
between angle brackets. A directive at the start of a document says what a handle stands for, or
which version of YAML the document is written in. Percent escapes in a tag give single octets.
-/

namespace HurlAssist.Yaml

/-- A tag as it is written. The handle of a tag in full is empty. -/
structure WrittenTag where
  handle : List Char
  suffix : Octets
  deriving Repr, BEq

inductive Directive where
  | version (major minor : Nat)
  | handle (handle : List Char) (replacement : Octets)
  deriving Repr, BEq

/-- A character that tags are made of. In a tag in full, and in a directive, commas and square
brackets belong to them too. -/
def isTagChar (full : Bool) (c : Char) : Bool :=
  isNameChar c || ";/?:@&=+$.%!~*'()".toList.contains c ||
  (full && (c == ',' || c == '[' || c == ']'))

/-- The number of octets of the UTF-8 sequence that an octet starts. -/
def sequenceLength? (n : Nat) : Option Nat :=
  if n < 0x80 then some 1
  else if 0xC0 ≤ n ∧ n < 0xE0 then some 2
  else if 0xE0 ≤ n ∧ n < 0xF0 then some 3
  else if 0xF0 ≤ n ∧ n < 0xF8 then some 4
  else none

/-- The octets of a run of tag characters. `missing` more escapes have to follow for the current
UTF-8 sequence to be complete. -/
def tagOctets? : Nat → List Char → Option (Octets)
  | 0, [] => some []
  | _ + 1, [] => none
  | missing, '%' :: a :: b :: rest =>
    match hexNumber? 2 [a, b] with
    | none => none
    | some n =>
      let missing? :=
        match missing with
        | 0 => (sequenceLength? n).map (· - 1)
        | m + 1 => if 0x80 ≤ n ∧ n < 0xC0 then some m else none
      match missing? with
      | none => none
      | some m => (tagOctets? m rest).map (n.toUInt8 :: ·)
  | 0, c :: rest => if c = '%' then none else (tagOctets? 0 rest).map (Octets.ofChar c :: ·)
  | _ + 1, _ :: _ => none

/-- Reads a run of tag characters. -/
def tagText? (full : Bool) (c : Cursor) : Option (Octets × Cursor) :=
  let (written, c) := c.takeWhile (isTagChar full)
  (tagOctets? 0 written).map fun octets => (octets, c)

/-- An exclamation mark and a name, with another exclamation mark if one follows. -/
def handle? (c : Cursor) : Option (List Char × Cursor) :=
  match c.rest with
  | '!' :: rest =>
    let name := rest.takeWhile isNameChar
    let closing := (rest.drop name.length).head? == some '!'
    let written := '!' :: name ++ if closing then ['!'] else []
    some (written, c.skip written.length)
  | _ => none

/-- Whether a handle has a name, or at least its second exclamation mark. -/
def isNamedHandle (handle : List Char) : Bool :=
  1 < handle.length && handle.getLast? == some '!'

/-- The tag that starts here, without regard to what follows it. -/
def writtenTag? (c : Cursor) : Option (WrittenTag × Cursor) :=
  match c.rest with
  | '!' :: '<' :: _ =>
    match tagText? true (c.skip 2) with
    | some (suffix, c) =>
      if suffix.isEmpty ∨ c.rest.head? ≠ some '>' then none else some (⟨[], suffix⟩, c.skip 1)
    | none => none
  | _ =>
    match handle? c with
    | none => none
    | some (handle, after) =>
      match tagText? false after with
      | none => none
      | some (suffix, c) =>
        if isNamedHandle handle then
          if suffix.isEmpty then none else some (⟨handle, suffix⟩, c)
        else
          let suffix := (handle.drop 1).map Octets.ofChar ++ suffix
          some (if suffix.isEmpty then ⟨[], [Octets.ofChar '!']⟩ else ⟨['!'], suffix⟩, c)

/-- Reads the tag that starts here. A blank or a line end has to follow, or inside of brackets a
comma. -/
def tag? (inFlow : Bool) (c : Cursor) : Option (WrittenTag × Cursor) :=
  match writtenTag? c with
  | some (t, c) =>
    if endsWord c.rest || inFlow && c.rest.head? == some ',' then some (t, c) else none
  | none => none

/-- A number of up to nine digits. -/
def versionNumber? (c : Cursor) : Option (Nat × Cursor) :=
  let (digits, c) := c.takeWhile Char.isDigit
  if digits.isEmpty ∨ 9 < digits.length then none
  else some (Decimal.ofDigits digits, c)

/-- Reads the directive whose percent sign is here, with the end of its line. -/
def directive? (c : Cursor) : Option (Directive × Cursor) := do
  let (name, c) := (c.skip 1).takeWhile isNameChar
  if name.isEmpty ∨ !endsWord c.rest then none
  else
    let c := c.dropWhile isBlank
    let (d, c) ←
      match String.ofList name with
      | "YAML" => do
        let (major, c) ← versionNumber? c
        if c.rest.head? ≠ some '.' then none
        else
          let (minor, c) ← versionNumber? (c.skip 1)
          some (Directive.version major minor, c)
      | "TAG" => do
        let (handle, c) ← handle? c
        if (handle ≠ ['!'] ∧ !isNamedHandle handle) ∨ !(c.rest.head?.any isBlank) then none
        else
          let (octets, c) ← tagText? true (c.dropWhile isBlank)
          if octets.isEmpty ∨ !endsWord c.rest then none
          else some (Directive.handle handle octets, c)
      | _ => none
    let c := c.skipComment
    if endsLine c.rest then some (d, c.skipBreak) else none

end HurlAssist.Yaml
