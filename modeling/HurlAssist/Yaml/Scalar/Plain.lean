import HurlAssist.Yaml.Scalar.Fold

/-!
Scalars without quotes. Such a scalar ends at a comment, at a colon that a blank follows, at a line
that is indented less than it has to be, and inside of brackets at the marks that structure them.
-/

namespace HurlAssist.Yaml

/-- A mark that structures what stands in brackets. -/
def isFlowMark (c : Char) : Bool :=
  c == ',' || c == '[' || c == ']' || c == '\x7b' || c == '\x7d'

/-- The marks that start something other than a scalar without quotes. -/
def startMarks : List Char := "#&*!|>'\"%@`".toList

/-- Whether a scalar without quotes may start here. -/
def startsPlain (inFlow : Bool) : List Char → Bool
  | [] => false
  | c :: rest =>
    if c = '-' then !endsWord rest
    else if c = '?' ∨ c = ':' then !inFlow && !endsWord rest
    else !isSpace c && !isFlowMark c && !startMarks.contains c

/-- The characters up to a blank or the end of the scalar. Inside of brackets a colon right before
another mark is a mistake. -/
def plainWord? (inFlow : Bool) : List Char → Option (List Char)
  | [] => some []
  | c :: rest =>
    if isSpace c then some []
    else if inFlow && c == ':' && (rest.head?.any fun d => d == '?' || isFlowMark d) then none
    else if c == ':' && endsWord rest || inFlow && isFlowMark c then some []
    else (plainWord? inFlow rest).map (c :: ·)

/-- Reads on after the pieces that have been read so far, of which the last stands first. The flag
of the answer says whether the scalar was followed by the end of its line. -/
def plainFrom? (inFlow : Bool) (margin : Nat) :
    Nat → List (List Char) → Gap → Cursor → Option (List Char × Bool × Cursor)
  | 0, _, _, _ => none
  | fuel + 1, done, gap, c =>
    let stop (done : List (List Char)) (gap : Gap) (c : Cursor) :=
      some (done.reverse.flatten, gap.isBroken, c)
    if c.atDocumentMark || c.rest.head? == some '#' then stop done gap c
    else
      match plainWord? inFlow c.rest with
      | none => none
      | some word =>
        let (done, gap) :=
          if word.isEmpty then (done, gap) else (word :: gap.text :: done, Gap.empty)
        let c := c.skip word.length
        if (c.rest.head?.map isSpace).getD false then
          match gap.read margin c with
          | none => none
          | some (gap, c) =>
            if !inFlow && c.column < margin then stop done gap c
            else plainFrom? inFlow margin fuel done gap c
        else stop done gap c

/-- Reads the scalar that starts here. -/
def plain? (inFlow : Bool) (margin : Nat) (c : Cursor) : Option (List Char × Bool × Cursor) :=
  plainFrom? inFlow margin (c.left + 1) [] Gap.empty c

end HurlAssist.Yaml
