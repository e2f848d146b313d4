import HurlAssist.Path
import HurlAssist.Url.Host
import HurlAssist.Url.Segments

/-!
URLs of files. The host is left out if it is this machine, and the path may start with a drive
letter, which belongs to this machine too.
-/

namespace HurlAssist.Url

def isSlash (c : Char) : Bool := c == '/' || c == '\\'

/-- A tab or a line end, which is passed over wherever it stands in a URL. -/
def isGap (c : Char) : Bool := c == '\t' || c == '\n' || c == '\r'

def withoutGaps (cs : List Char) : List Char := cs.filter (!isGap ·)

/-- Host and path of a file. -/
structure FileName where
  host : List Char
  path : List Char

namespace FileName

/-- The letter of a drive that starts a segment, and the rest of the segment: a drive letter stands
alone, or a gap follows its colon. -/
def drive? (segment : List Char) : Option (Char × List Char) :=
  match segment.dropWhile isGap with
  | [] => none
  | letter :: cs =>
    match cs.dropWhile isGap with
    | [] => none
    | mark :: cs =>
      let rest := withoutGaps cs
      if isDrive [letter, mark] && (rest.isEmpty || (mark == ':' && cs.head?.any isGap)) then
        some (letter, rest)
      else none

/-- The segments of the path of a file so far, the last one first, and whether it starts with a
drive letter in the place of a segment. -/
structure Walk where
  done : List (List Char) := []
  onDrive : Bool := false

/-- Adds a segment. A drive letter can only come first. -/
def Walk.add (isLast : Bool) (w : Walk) (segment : List Char) : Walk :=
  match if w.done.isEmpty then drive? segment else none with
  | some (letter, []) => { done := [[letter, ':']], onDrive := true }
  | some (letter, rest) => { w with done := [encode inPath rest, [letter, ':']] }
  | none => { w with done := addSegment isLast w.done (encode inPath (withoutGaps segment)) }

def Walk.run (w : Walk) : List (List Char) → Walk
  | [] => w
  | s :: rest => Walk.run (w.add rest.isEmpty s) rest

/-- The segments without empty ones in front. -/
def dropLeadingEmpty : List (List Char) → List (List Char)
  | [] :: s :: rest => dropLeadingEmpty (s :: rest)
  | segments => segments

/-- The host as it is written, none if there is no place for one, and the path with the slash that
starts it. A drive letter is no host. -/
def split (cs : List Char) : Option (List Char) × List Char :=
  match cs.dropWhile isGap with
  | a :: rest =>
    if isSlash a then
      match rest.dropWhile isGap with
      | b :: after =>
        if isSlash b then
          let host := after.takeWhile (!isSlash ·)
          if isDrive (withoutGaps host) then (none, '/' :: after)
          else (some (withoutGaps host), after.drop host.length)
        else (none, '/' :: rest)
      | [] => (none, '/' :: rest)
    else (none, '/' :: cs)
  | [] => (none, ['/'])

/-- The host that is written, empty if it is this machine. -/
def host? (written : List Char) : Option (List Char) :=
  if written.isEmpty then some []
  else (Url.host? true written).map fun h => if h = "localhost".toList then [] else h

/-- What a URL of a file says between the scheme and the query. After a host that is left out, the
slash of the path counts for a segment of its own. -/
def ofText? (cs : List Char) : Option FileName := do
  let (written, path) := split cs
  let host ← host? (written.getD [])
  let path := if written.isSome ∧ host.isEmpty then path else path.drop 1
  let walk := Walk.run {} (Text.parts isSlash path)
  return {
    host := if walk.onDrive then [] else host
    path := joinSegments (dropLeadingEmpty walk.done.reverse) }

def text (f : FileName) : List Char := "file://".toList ++ f.host ++ f.path

/-- The path on disk, if the file is on this machine. After a drive letter at its end comes a
slash. -/
def onDisk? (f : FileName) : Option Path :=
  let octets := decode (Octets.ofText (String.ofList f.path))
  if !f.host.isEmpty then none
  else
    match octets.reverse with
    | mark :: letter :: _ :: _ =>
      if isDrive [.ofNat letter.toNat, .ofNat mark.toNat] then some ⟨octets ++ [Path.slash]⟩
      else some ⟨octets⟩
    | _ => some ⟨octets⟩

end FileName

end HurlAssist.Url
