import HurlAssist.Document.Parse
import HurlAssist.Proofs.Text.Cuts

/-!
Reading with a guard on every step. A guarded reader does what the reader does, and on the way it
asks whether each line number, column and sum of columns fits 32 bits, whether each region stops no
earlier than it starts, whether a text is cut between two of its characters, whether a body starts on
a line that can start it, and whether each part that is read takes lines away. Where the answer is
no, it stops with a fault.

`Proofs.Document.Unfailing` shows that no guard is ever tripped.
-/

namespace HurlAssist

open Text

/-- What a guard trips on. -/
inductive Fault where
  /-- A number that 32 bits do not hold. -/
  | tooGreat
  /-- A region that stops on a line in front of the one that it starts on. -/
  | backwards
  /-- A cut outside of a text, or inside of one of its characters. -/
  | badCut
  /-- A body that starts in front of the reading, or on a line that ends it, or has no line. -/
  | badBody
  /-- A part that takes no line. -/
  | stuck
  deriving DecidableEq, Repr

/-- A step that a guard may stop. -/
abbrev Guarded := Except Fault

namespace Guarded

def require (p : Prop) [Decidable p] (fault : Fault) : Guarded Unit :=
  if p then .ok () else .error fault

/-- A number, if 32 bits hold it. -/
def word (n : Nat) : Guarded Nat := if n < 0x100000000 then .ok n else .error .tooGreat

/-- A region that is put together. -/
def span (s : Span) : Guarded Span :=
  if s.start.line ≤ s.stop.line then .ok s else .error .backwards

/-- A region whose stop is moved. -/
def close (r : Reading) (s : Span) : Guarded Span := do
  let line ← word (r.line - 1)
  let col ← word r.last.length
  require (s.start.line ≤ line) .backwards
  return s.close line col

end Guarded

/-- The second reading is further on: on a later line, with fewer lines left. -/
def Reading.Before (r r' : Reading) : Prop := r.line < r'.line ∧ r'.rest.length < r.rest.length

instance (r r' : Reading) : Decidable (r.Before r') :=
  inferInstanceAs (Decidable (_ ∧ _))

def Headers.guardedRead (h : Headers) (r : Reading) : Guarded (Headers × Reading) := do
  let line ← Guarded.word r.line
  let width ← Guarded.word r.text.length
  let here ← Guarded.span (.onLine line 0 width)
  let all ← match h.span with
    | some s => Guarded.span (s.join here)
    | none => pure here
  let pair := Line.keyValue r.text
  return (⟨h.values.insert pair.1 pair.2, some all⟩, r.next)

def Section.guardedRead (r : Reading) : Guarded (Section × Reading) := do
  let line ← Guarded.word r.line
  let name := (Line.sectionName? r.text).getD ""
  let indented ← Guarded.word (indent r.text.toList)
  let nameStart ← Guarded.word (indented + 1)
  let nameWidth ← Guarded.word name.length
  let nameStop ← Guarded.word (nameStart + nameWidth)
  let nameSpan ← Guarded.span (.onLine line nameStart nameStop)
  let width ← Guarded.word r.text.length
  let here ← Guarded.span (.onLine line indented width)
  let (ls, after) := r.next.takeWhile fun k => !k.endsSection
  Guarded.require (r.Before after) .stuck
  return ({ name := ⟨name, nameSpan⟩
            keyValues := .ofList ((ls.filter fun l => Line.kind l == .keyValue).map Line.keyValue)
            rawLines := ls.filter fun l => Line.kind l != .keyValue && Line.kind l != .blank
            lines := ls
            span := here }, after)

/-- The reading stands at `r`, and the body starts at `ahead`. -/
def Body.guardedRead (ends : LineKind → Bool) (r ahead : Reading) : Guarded (Body × Reading) := do
  Guarded.require (r.line ≤ ahead.line) .badBody
  Guarded.require (ahead.kind?.any (!ends ·) = true) .badBody
  let (ls, after) := ahead.takeWhile fun k => !ends k
  Guarded.require (ls ≠ []) .badBody
  Guarded.require (ahead.Before after) .stuck
  let line ← Guarded.word ahead.line
  let width ← Guarded.word ahead.text.length
  let here ← Guarded.span (.onLine line 0 width)
  let closed ← Guarded.close after here
  return (⟨ls, some closed⟩, after)

namespace Content

def guardedTurn (ends : LineKind → Bool) (c : Content) (r : Reading) : Guarded Turn :=
  match r.kind? with
  | none => return .done c r
  | some k =>
    if ends k then return .done c r
    else
      match k with
      | .sectionHeader => do
        let (s, after) ← Section.guardedRead r
        let closed ← Guarded.close after s.span
        return .more { c with sections := c.sections ++ [{ s with span := closed }] } after
      | .keyValue => do
        let (headers, after) ← c.headers.guardedRead r
        return .more { c with headers := headers } after
      | .blank =>
        match r.next.bodyAhead? ends with
        | none => return .more c r.next
        | some ahead => do
          let (b, after) ← Body.guardedRead ends r.next ahead
          return .done { c with body := b } after
      | _ => do
        let (b, after) ← Body.guardedRead ends r r
        return .done { c with body := b } after

/-- Each turn but the last has to take a line. -/
def guardedRead (ends : LineKind → Bool) (c : Content) (r : Reading) :
    Guarded (Content × Reading) := do
  match ← guardedTurn ends c r with
  | .done c r => return (c, r)
  | .more c r' => if _ : r.Before r' then guardedRead ends c r' else .error .stuck
termination_by r.rest.length
decreasing_by exact (‹Reading.Before _ _›).2

end Content

def Request.guardedRead (r : Reading) : Guarded (Except ParseError (Request × Reading)) := do
  let line ← Guarded.word r.line
  let trimmed := trim r.text.toList
  let name := firstWord trimmed
  if name.isEmpty then return .error (.emptyMethodLine line)
  else
    match fromOctet? (octets name) trimmed with
    | none => .error .badCut
    | some behind => do
      let indented ← Guarded.word (indent r.text.toList)
      let width ← Guarded.word r.text.length
      let nameWidth ← Guarded.word name.length
      let nameStop ← Guarded.word (indented + nameWidth)
      let methodSpan ← Guarded.span (.onLine line indented nameStop)
      let targetStart ← Guarded.word (nameStop + 1)
      let targetSpan ← Guarded.span (.onLine line (min targetStart width) width)
      let here ← Guarded.span (.onLine line indented width)
      let (content, after) ← Content.guardedRead LineKind.endsRequest .empty r.next
      return .ok ({ method := ⟨String.ofList name, methodSpan⟩
                    target := ⟨String.ofList (trim behind), targetSpan⟩
                    content := content
                    span := here }, after)

def Response.guardedRead (r : Reading) : Guarded (Except ParseError (Response × Reading)) := do
  let line ← Guarded.word r.line
  let trimmed := trim r.text.toList
  let status := firstWord (afterFirstWord trimmed)
  if status.isEmpty then return .error (.malformedStatusLine line (String.ofList trimmed))
  else
    let indented ← Guarded.word (indent r.text.toList)
    let width ← Guarded.word r.text.length
    let here ← Guarded.span (.onLine line indented width)
    let (content, after) ← Content.guardedRead (· == .method) .empty r.next
    return .ok ({ version := String.ofList (firstWord trimmed)
                  status := statusOf status
                  content := content
                  span := here }, after)

namespace Entry

def guardedRead (r : Reading) : Guarded (Except ParseError (Entry × Reading)) := do
  match ← Request.guardedRead r with
  | .error e => return .error e
  | .ok (request, after) =>
    let closed ← Guarded.close after request.span
    let request := { request with span := closed }
    let r := after.skipBlank
    if r.kind? = some .status then
      match ← Response.guardedRead r with
      | .error e => return .error e
      | .ok (response, after) =>
        let closed ← Guarded.close after response.span
        let response := { response with span := closed }
        let whole ← Guarded.span (request.span.join response.span)
        return .ok (⟨request, some response, whole⟩, after)
    else return .ok (⟨request, none, request.span⟩, r)

/-- Each entry has to take a line. -/
def guardedReadAll (r : Reading) : Guarded (Except ParseError (List Entry)) := do
  let r' := r.skipBlank
  match r'.kind? with
  | none => return .ok []
  | some k =>
    if k = .method then
      match ← guardedRead r' with
      | .error e => return .error e
      | .ok (entry, after) =>
        if _ : r.Before after then
          match ← guardedReadAll after with
          | .error e => return .error e
          | .ok entries => return .ok (entry :: entries)
        else .error .stuck
    else if _ : r.Before r'.next then guardedReadAll r'.next
    else .error .stuck
termination_by r.rest.length
decreasing_by all_goals exact (‹Reading.Before _ _›).2

end Entry

namespace Document

def guardedSpanOf (ls : List String) : Guarded Span :=
  match ls.getLast? with
  | none => return .zero
  | some l => do
    let line ← Guarded.word (ls.length - 1)
    let col ← Guarded.word l.length
    Guarded.span ⟨⟨0, 0⟩, ⟨line, col⟩⟩

/-- Reads a file that is already cut into lines, with all guards. -/
def guardedOfLines (ls : List String) : Guarded (Except ParseError Document) := do
  match ← Entry.guardedReadAll (.start ls) with
  | .error e => return .error e
  | .ok entries =>
    let whole ← guardedSpanOf ls
    return .ok ⟨entries, whole⟩

end Document

end HurlAssist
