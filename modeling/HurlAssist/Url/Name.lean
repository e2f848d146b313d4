import HurlAssist.Text.Direction
import HurlAssist.Text.Joining
import HurlAssist.Text.Normal
import HurlAssist.Url.Name.Change
import HurlAssist.Url.Punycode

/-!
Host names of any characters in their ASCII form. Capitals become small letters, characters that
mean the same become one, and a label that is not ASCII is written in Punycode after `xn--`. A label
that is written in this way already has to hold what would be written so.
-/

namespace HurlAssist.Url.Name

open Punycode (isAscii)

/-- What a label in Punycode starts with. -/
def mark : List Char := "xn--".toList

/-- An ASCII character that no name may contain. -/
def isForbidden (c : Char) : Bool :=
  c.toNat ≤ 0x20 || c.toNat == 0x7F || "%#/:<>?@[\\]^|".toList.contains c

/-- The longest label that is written in Punycode, in characters. -/
def longest : Nat := 1000

/-- The longest text in Punycode that is read. -/
def longestWritten : Nat := 2000

/-- The characters of a name with all changes made. -/
def mappedText? (cs : List Char) : Option (List Char) := do
  let cs := Text.normal (← cs.mapM mapped?).flatten
  if cs.any isForbidden then none else some cs

/-- Whether the marks and joiners of a label have something to go with. -/
def isWellFormed (label : List Char) : Bool :=
  !label.head?.any Text.isMark && Text.joinersFit label

/-- The label that is written in Punycode. It is not ASCII, and no change would be made to it. -/
def decoded? (written : List Char) : Option (List Char) := do
  if longestWritten < written.length ∨ written.getLast? = some '-' then none
  let label ← Punycode.decode? written
  let isMarked := mark.isPrefixOf label
  if label.all isAscii ∨ isMarked ∨ !label.all stays ∨ Text.normal label ≠ label then none
  if isWellFormed label then some label else none

/-- The label as it is read. -/
def label? (label : List Char) : Option (List Char) :=
  if mark.isPrefixOf label then decoded? (label.drop mark.length)
  else if label.all isAscii ∨ isWellFormed label then some label
  else none

/-- Whether every label can be read in one direction, if there is text from the right in any. -/
def directionsFit (labels : List (List Char)) : Bool :=
  !labels.any (·.any Text.isFromRight) || labels.all Text.isOneWay

/-- The label in ASCII. -/
def asciiLabel? (label : List Char) : Option (List Char) :=
  if label.all isAscii then some label
  else if longest < label.length then none
  else some (mark ++ Punycode.encode label)

/-- The name in ASCII, if it is a name. -/
def ascii? (name : List Char) : Option (List Char) := do
  let labels ← (Text.parts (· == '.') (← mappedText? name)).mapM label?
  if directionsFit labels then
    return ['.'].intercalate (← labels.mapM asciiLabel?)
  else none

end HurlAssist.Url.Name
