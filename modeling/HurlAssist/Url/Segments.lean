import HurlAssist.Text.Parts
import HurlAssist.Url.Percent

/-!
The path of a URL as its segments, the parts between slashes. A segment of one dot says nothing, and
one of two dots takes back the segment before it. A drive letter is not taken back.
-/

namespace HurlAssist.Url

/-- A segment with its dots written out. -/
def plainDots (s : List Char) : List Char :=
  match s with
  | '%' :: '2' :: e :: rest => if e = 'e' ∨ e = 'E' then '.' :: plainDots rest else s
  | '.' :: rest => '.' :: plainDots rest
  | s => s

def isSingleDot (s : List Char) : Bool := plainDots s == ['.']

def isDoubleDot (s : List Char) : Bool := plainDots s == ['.', '.']

/-- A letter, and a colon or a bar. -/
def isDrive (s : List Char) : Bool :=
  match s with
  | [letter, mark] => letter.isAlpha && (mark == ':' || mark == '|')
  | _ => false

/-- The segments without the last one, which stays if it is a drive letter. The last one stands
first. -/
def takeBack : List (List Char) → List (List Char)
  | [] => []
  | s :: done => if isDrive s then s :: done else done

/-- Adds a segment to those that are done, of which the last stands first. The last segment of a
path leaves an empty one if it is dots. -/
def addSegment (isLast : Bool) (done : List (List Char)) (s : List Char) : List (List Char) :=
  let close (done : List (List Char)) := if isLast then [] :: done else done
  if isDoubleDot s then close (takeBack done)
  else if isSingleDot s then close done
  else s :: done

/-- Segments without dots. -/
def dropDotsFrom (done : List (List Char)) : List (List Char) → List (List Char)
  | [] => done.reverse
  | s :: rest => dropDotsFrom (addSegment rest.isEmpty done s) rest

def dropDots (segments : List (List Char)) : List (List Char) := dropDotsFrom [] segments

/-- Characters that have to be encoded in a path. -/
def inPath : List Char := " \"<>`#?\x7b\x7d".toList

/-- The segments of a path that starts after a slash. -/
def segments (separates : Char → Bool) (cs : List Char) : List (List Char) :=
  dropDots ((Text.parts separates cs).map (encode inPath))

/-- The path that consists of segments. -/
def joinSegments (segments : List (List Char)) : List Char := segments.flatMap ('/' :: ·)

end HurlAssist.Url
