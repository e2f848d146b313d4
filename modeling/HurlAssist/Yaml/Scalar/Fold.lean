import HurlAssist.Yaml.Cursor

/-!
What stands between two words of a scalar that runs over several lines. Within a line the blanks
stay. A single line end becomes a blank; of several, the first is left out. A line separator or
paragraph separator is never left out.
-/

namespace HurlAssist.Yaml

/-- Blanks and line ends between two words. The first line end is `first`, the others are
`others`; once there is a line end the blanks no longer count. Of blanks and others the last one
stands first. -/
structure Gap where
  blanks : List Char
  first : Option Char
  others : List Char
  /-- A line end that does not count itself came before. -/
  broken : Bool := false

namespace Gap

def empty : Gap := ⟨[], none, [], false⟩

/-- What the next word starts after when the line end was written as an escape. -/
def escaped : Gap := ⟨[], none, [], true⟩

def isBroken (g : Gap) : Bool := g.broken || g.first.isSome

/-- What stands in the scalar for the line ends `first` and `others`. -/
def fold (first : Option Char) (others : List Char) : List Char :=
  if first = some '\n' then
    if others.isEmpty then [' '] else others
  else first.toList ++ others

/-- What stands in the scalar for the gap. -/
def text (g : Gap) : List Char :=
  if g.isBroken then fold g.first g.others.reverse else g.blanks.reverse

def addBlank (c : Char) (g : Gap) : Gap :=
  if g.isBroken then g else { g with blanks := c :: g.blanks }

def addBreak (c : Char) (g : Gap) : Gap :=
  if g.isBroken then { g with others := c :: g.others } else ⟨[], some c, [], false⟩

/-- Reads the blanks and line ends that come next. A tab in the indentation of a line, left of
`margin`, is a mistake. -/
def readFrom (margin : Nat) : Nat → Gap → Cursor → Option (Gap × Cursor)
  | 0, g, c => some (g, c)
  | fuel + 1, g, c =>
    match c.break? with
    | some (b, next) => readFrom margin fuel (g.addBreak b) next
    | none =>
      match c.rest with
      | x :: _ =>
        if !isBlank x then some (g, c)
        else if x = '\t' ∧ g.isBroken ∧ c.column < margin then none
        else readFrom margin fuel (g.addBlank x) (c.skip 1)
      | [] => some (g, c)

def read (margin : Nat) (g : Gap) (c : Cursor) : Option (Gap × Cursor) :=
  readFrom margin (c.left + 1) g c

end Gap

end HurlAssist.Yaml
