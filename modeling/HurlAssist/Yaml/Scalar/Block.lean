import HurlAssist.Yaml.Cursor

/-!
Scalars that consist of indented lines. After `|` the line ends stay; after `>` a line end between
two lines of text becomes a blank. A sign says what becomes of the line ends at the end of the
scalar, a digit how far the lines are indented.
-/

namespace HurlAssist.Yaml

/-- What becomes of the line ends at the end of a scalar. -/
inductive Chomp where
  /-- The first is kept. -/
  | clip
  /-- None is kept. -/
  | strip
  /-- All are kept. -/
  | keep
  deriving DecidableEq

def chomp? : Char → Option Chomp
  | '+' => some .keep
  | '-' => some .strip
  | _ => none

/-- The sign and the digit after the mark of a scalar, in either order, and their length. -/
def blockHeader? (cs : List Char) : Option (Chomp × Option Nat × Nat) :=
  let digit? (c : Char) : Option Nat := if c.isDigit then some (c.toNat - '0'.toNat) else none
  let header : Chomp × Option Nat × Nat :=
    match cs with
    | [] => (.clip, none, 0)
    | a :: rest =>
      match chomp? a, digit? a with
      | some chomp, _ =>
        match rest.head?.bind digit? with
        | some n => (chomp, some n, 2)
        | none => (chomp, none, 1)
      | none, some n =>
        match rest.head?.bind chomp? with
        | some chomp => (chomp, some n, 2)
        | none => (.clip, some n, 1)
      | none, none => (.clip, none, 0)
  if header.2.1 = some 0 then none else some header

/-- Reads the empty lines that come next, up to the first character of text. `indent` is how far
the text is indented, if that is known. Gives the line ends and the greatest column that was
reached. The line ends so far are given with the last one first. -/
def emptyLines? (indent : Option Nat) :
    Nat → List Char → Nat → Cursor → Option (List Char × Nat × Cursor)
  | 0, _, _, _ => none
  | fuel + 1, done, widest, c =>
    let blanks := (c.rest.takeWhile (· == ' ')).length
    let c := c.skip (match indent with
      | some n => min blanks (n - c.column)
      | none => blanks)
    let widest := max widest c.column
    if c.rest.head? = some '\t' ∧ (indent.all fun n => decide (c.column < n)) = true then none
    else
      match c.break? with
      | some (b, next) => emptyLines? indent fuel (b :: done) widest next
      | none => some (done.reverse, widest, c)

/-- What has been read of the lines of a scalar: the pieces of the text, of which the last stands
first, the end of its last line, the ends of the empty lines after it, and whether the last line
started with a blank. -/
structure BlockLines where
  pieces : List (List Char) := []
  lineEnd : List Char := []
  emptyEnds : List Char := []
  startsBlank : Bool := false

/-- The text so far with more at its end. -/
def BlockLines.text (b : BlockLines) (ending : List Char) : List Char :=
  (ending :: b.pieces).reverse.flatten

/-- What has to stand before one more line. -/
def BlockLines.between (folded startsBlank : Bool) (b : BlockLines) : List Char :=
  let lineEnd :=
    if folded ∧ b.lineEnd = ['\n'] ∧ !b.startsBlank ∧ !startsBlank then
      if b.emptyEnds.isEmpty then [' '] else []
    else b.lineEnd
  lineEnd ++ b.emptyEnds

/-- Reads lines as long as they are indented far enough. -/
def blockLines? (folded : Bool) (indent : Nat) :
    Nat → BlockLines → Cursor → Option (BlockLines × Cursor)
  | 0, _, _ => none
  | fuel + 1, b, c =>
    match c.rest with
    | [] => some (b, c)
    | x :: _ =>
      if c.column ≠ indent then some (b, c)
      else
        let startsBlank := isBlank x
        let (line, c) := c.takeWhile fun x => !isBreak x
        let (lineEnd, c) := match c.break? with
          | some (e, next) => ([e], next)
          | none => ([], c)
        match emptyLines? (some indent) (c.left + 1) [] 0 c with
        | none => none
        | some (emptyEnds, _, c) =>
          blockLines? folded indent fuel
            ⟨line :: b.between folded startsBlank :: b.pieces, lineEnd, emptyEnds, startsBlank⟩ c

/-- Reads the scalar whose mark is here. `margin` is the least column of its text. -/
def block? (folded : Bool) (margin : Nat) (c : Cursor) : Option (List Char × Cursor) := do
  let c := c.skip 1
  let (chomp, digit, length) ← blockHeader? c.rest
  let c := (c.skip length).skipComment
  if !endsLine c.rest then none
  else
    let c := c.skipBreak
    let given := digit.map fun n => margin - 1 + n
    let (emptyEnds, widest, c) ← emptyLines? given (c.left + 1) [] 0 c
    let indent := given.getD (max widest (max margin 1))
    let (b, c) ← blockLines? folded indent (c.left + 1) { emptyEnds } c
    let ending := (if chomp = .strip then [] else b.lineEnd) ++
      (if chomp = .keep then b.emptyEnds else [])
    return (b.text ending, c)

end HurlAssist.Yaml
