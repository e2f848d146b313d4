import HurlAssist.Decimal
import HurlAssist.Document.Basic
import HurlAssist.Document.Reading
import HurlAssist.Text.Lines

/-!
Reading a request file in one pass over its lines. Each method line starts an entry: a request and,
behind a status line, the response it expects. Under both stand headers, then sections or a body.
Lines before the first method line belong to nothing.

A part of the file is read before it is known where it ends. Its region covers its first line until
the caller closes it at the last line that was read.
-/

namespace HurlAssist

open Text

/-- Why a file cannot be read. -/
inductive ParseError where
  /-- The request line at `line` has no method. -/
  | emptyMethodLine (line : Nat)
  /-- The status line at `line` is one word, `text`. -/
  | malformedStatusLine (line : Nat) (text : String)
  deriving DecidableEq, Repr

namespace ParseError

def line : ParseError → Nat
  | emptyMethodLine line => line
  | malformedStatusLine line _ => line

def text : ParseError → String
  | emptyMethodLine _ => ""
  | malformedStatusLine _ text => text

/-- The message, which numbers lines from one. Such a status line is a version, so that no
character of it needs an escape between the quotes. -/
def message : ParseError → String
  | emptyMethodLine line =>
    "line " ++ toString (line + 1) ++ ": expected method line but got empty"
  | malformedStatusLine line text =>
    "line " ++ toString (line + 1) ++ ": invalid response status line: \"" ++ text ++ "\""

end ParseError

/-- The section with its region closed at the line that was read last. -/
def Section.close (s : Section) (r : Reading) : Section := { s with span := r.close s.span }

/-- The request with its region closed at the line that was read last. -/
def Request.close (q : Request) (r : Reading) : Request := { q with span := r.close q.span }

/-- The response with its region closed at the line that was read last. -/
def Response.close (p : Response) (r : Reading) : Response := { p with span := r.close p.span }

/-- One more header line. -/
def Headers.add (h : Headers) (line : Nat) (text : String) : Headers :=
  let pair := Line.keyValue text
  let here := Span.onLine line 0 text.length
  { values := h.values.insert pair.1 pair.2
    span := some (match h.span with | some s => s.join here | none => here) }

/-- The next line is a header line. -/
def Headers.read (h : Headers) (r : Reading) : Headers × Reading := (h.add r.line r.text, r.next)

/-- The next line is the header of a section, which goes on to a line that ends it. -/
def Section.read (r : Reading) : Section × Reading :=
  let name := (Line.sectionName? r.text).getD ""
  let indented := indent r.text.toList
  let (ls, after) := r.next.takeWhile fun k => !k.endsSection
  ({ name := ⟨name, .onLine r.line (indented + 1) (indented + 1 + name.length)⟩
     keyValues := .ofList ((ls.filter fun l => Line.kind l == .keyValue).map Line.keyValue)
     rawLines := ls.filter fun l => Line.kind l != .keyValue && Line.kind l != .blank
     lines := ls
     span := .onLine r.line indented r.text.length }, after)

/-- The next line starts a body, which goes on to a line that `ends` it. -/
def Body.read (ends : LineKind → Bool) (r : Reading) : Body × Reading :=
  let (ls, after) := r.takeWhile fun k => !ends k
  (⟨ls, some (after.close (.onLine r.line 0 r.text.length))⟩, after)

/-- Behind a blank line, whether the next line that is not blank starts a body: it does unless it is
a header line, the header of a section, or a line that `ends` the body. Gives the reading in front
of that line. -/
def Reading.bodyAhead? (ends : LineKind → Bool) (r : Reading) : Option Reading :=
  let ahead := r.skipBlank
  match ahead.kind? with
  | none => none
  | some k => if k == .keyValue || k == .sectionHeader || ends k then none else some ahead

theorem Reading.eq_of_bodyAhead? {ends : LineKind → Bool} {r ahead : Reading}
    (h : r.bodyAhead? ends = some ahead) : ahead = r.skipBlank := by
  unfold bodyAhead? at h
  simp only at h
  split at h
  · cases h
  · split at h
    · cases h
    · exact (Option.some.inj h).symm

/-- What one turn of reading a content comes to. -/
inductive Content.Turn where
  /-- There may be more. -/
  | more (c : Content) (r : Reading)
  | done (c : Content) (r : Reading)
  deriving DecidableEq, Repr

namespace Content

def empty : Content := ⟨⟨.empty, none⟩, [], .none⟩

/-- Reads what the next line brings to the content. Lines that `ends` accepts end it. -/
def turn (ends : LineKind → Bool) (c : Content) (r : Reading) : Turn :=
  match r.kind? with
  | none => .done c r
  | some k =>
    if ends k then .done c r
    else
      match k with
      | .sectionHeader =>
        let (s, after) := Section.read r
        .more { c with sections := c.sections ++ [s.close after] } after
      | .keyValue =>
        let (headers, after) := c.headers.read r
        .more { c with headers := headers } after
      | .blank =>
        match r.next.bodyAhead? ends with
        | none => .more c r.next
        | some ahead =>
          let (b, after) := Body.read ends ahead
          .done { c with body := b } after
      | _ =>
        let (b, after) := Body.read ends r
        .done { c with body := b } after

/-- A turn that is not the last one reads at least a line. -/
theorem turn_more_lt {ends : LineKind → Bool} {c c' : Content} {r r' : Reading}
    (h : turn ends c r = .more c' r') : r'.rest.length < r.rest.length := by
  unfold turn at h
  cases hk : r.kind? with
  | none => simp [hk] at h
  | some k =>
    have next := Reading.length_rest_next hk
    simp only [hk] at h
    split at h
    · cases h
    · split at h
      · cases h
        exact Nat.lt_of_le_of_lt (Reading.length_rest_takeWhile _ _) next
      · cases h
        exact next
      · split at h
        · cases h
          exact next
        · cases h
      · cases h

/-- Reads on to the end of a content, of which `c` is there. -/
def read (ends : LineKind → Bool) (c : Content) (r : Reading) : Content × Reading :=
  match _ : turn ends c r with
  | .done c r => (c, r)
  | .more c r => read ends c r
termination_by r.rest.length
decreasing_by exact turn_more_lt ‹_›

end Content

namespace Response

/-- The integer that a status token writes: an optional sign and decimal digits, of 32 bits with
sign. Any other token counts as 0. -/
def statusOf (token : List Char) : Int :=
  let value (digits : List Char) : Option Nat :=
    if Line.isNumber digits then
      some (Decimal.ofDigits digits)
    else none
  let signed : Option Int :=
    match token with
    | '-' :: digits => (value digits).map fun n => -(n : Int)
    | '+' :: digits => (value digits).map Int.ofNat
    | digits => (value digits).map Int.ofNat
  match signed with
  | some n => if -2147483648 ≤ n ∧ n ≤ 2147483647 then n else 0
  | none => 0

end Response

/-- The next line is a method line. The request goes on to a line that ends it. -/
def Request.read (r : Reading) : Except ParseError (Request × Reading) :=
  let head := r.text.toList
  let name := firstWord head
  if name.isEmpty then .error (.emptyMethodLine r.line)
  else
    let indented := indent head
    let nameEnd := indented + name.length
    let width := r.text.length
    let (content, after) := Content.read LineKind.endsRequest .empty r.next
    .ok ({ method := ⟨String.ofList name, .onLine r.line indented nameEnd⟩
           -- blanks right after the method are part of the target's region
           target := ⟨String.ofList (trim (afterFirstWord head)),
             .onLine r.line (min (nameEnd + 1) width) width⟩
           content := content
           span := .onLine r.line indented width }, after)

/-- The next line is a status line. The response goes on to the next method line. -/
def Response.read (r : Reading) : Except ParseError (Response × Reading) :=
  let head := r.text.toList
  let status := firstWord (afterFirstWord head)
  if status.isEmpty then .error (.malformedStatusLine r.line (String.ofList (trim head)))
  else
    let (content, after) := Content.read (· == .method) .empty r.next
    .ok ({ version := String.ofList (firstWord head)
           status := statusOf status
           content := content
           span := .onLine r.line (indent head) r.text.length }, after)

/-- The next line is a method line: a request, and a response if a status line follows. -/
def Entry.read (r : Reading) : Except ParseError (Entry × Reading) :=
  match Request.read r with
  | .error e => .error e
  | .ok (request, after) =>
    let request := request.close after
    let r := after.skipBlank
    if r.kind? = some .status then
      match Response.read r with
      | .error e => .error e
      | .ok (response, after) =>
        let response := response.close after
        .ok (⟨request, some response, request.span.join response.span⟩, after)
    else .ok (⟨request, none, request.span⟩, r)

namespace Content

theorem turn_done_le {ends : LineKind → Bool} {c c' : Content} {r r' : Reading}
    (h : turn ends c r = .done c' r') : r'.rest.length ≤ r.rest.length := by
  unfold turn at h
  cases hk : r.kind? with
  | none =>
    simp only [hk] at h
    cases h
    exact Nat.le_refl _
  | some k =>
    simp only [hk] at h
    split at h
    · cases h
      exact Nat.le_refl _
    · split at h
      · cases h
      · cases h
      · split at h
        · cases h
        · rename_i ahead hb
          cases h
          have next := Nat.le_of_lt (Reading.length_rest_next hk)
          have skip := Reading.length_rest_takeWhile (· == .blank) r.next
          rw [← Reading.skipBlank, ← Reading.eq_of_bodyAhead? hb] at skip
          exact Nat.le_trans (Reading.length_rest_takeWhile _ _) (Nat.le_trans skip next)
      · cases h
        exact Reading.length_rest_takeWhile _ _

theorem length_rest_read (ends : LineKind → Bool) (c : Content) (r : Reading) :
    (read ends c r).2.rest.length ≤ r.rest.length := by
  fun_induction read ends c r with
  | case1 c r c' r' h => exact turn_done_le h
  | case2 c r c' r' h ih => exact Nat.le_trans ih (Nat.le_of_lt (turn_more_lt h))

end Content

theorem Request.length_rest_read {r r' : Reading} {q : Request} (h : read r = .ok (q, r')) :
    r'.rest.length ≤ r.next.rest.length := by
  unfold read at h
  simp only at h
  split at h
  · cases h
  · cases h
    exact Content.length_rest_read _ _ _

theorem Response.length_rest_read {r r' : Reading} {p : Response} (h : read r = .ok (p, r')) :
    r'.rest.length ≤ r.next.rest.length := by
  unfold read at h
  simp only at h
  split at h
  · cases h
  · cases h
    exact Content.length_rest_read _ _ _

theorem Entry.length_rest_read {r r' : Reading} {k : LineKind} {e : Entry}
    (hk : r.kind? = some k) (h : read r = .ok (e, r')) : r'.rest.length < r.rest.length := by
  unfold read at h
  cases hq : Request.read r with
  | error => simp [hq] at h
  | ok p =>
    obtain ⟨request, after⟩ := p
    have first := Nat.lt_of_le_of_lt (Request.length_rest_read hq) (Reading.length_rest_next hk)
    have skip : after.skipBlank.rest.length ≤ after.rest.length :=
      Reading.length_rest_takeWhile _ _
    simp only [hq] at h
    split at h
    · rename_i hs
      cases hp : Response.read after.skipBlank with
      | error => simp [hp] at h
      | ok p =>
        obtain ⟨response, last⟩ := p
        have second := Response.length_rest_read hp
        have next := Reading.length_rest_next hs
        simp only [hp] at h
        cases h
        omega
    · cases h
      omega

/-- Reads entries to the end of the file. Lines in front of a method line are passed over. -/
def Entry.readAll (r : Reading) : Except ParseError (List Entry) :=
  let r' := r.skipBlank
  match _ : r'.kind? with
  | none => .ok []
  | some k =>
    if k = .method then
      match _ : Entry.read r' with
      | .error e => .error e
      | .ok (entry, after) =>
        match readAll after with
        | .error e => .error e
        | .ok entries => .ok (entry :: entries)
    else readAll r'.next
termination_by r.rest.length
decreasing_by
  · exact Nat.lt_of_lt_of_le (Entry.length_rest_read ‹_› ‹_›) (Reading.length_rest_takeWhile _ _)
  · exact Nat.lt_of_lt_of_le (Reading.length_rest_next ‹_›) (Reading.length_rest_takeWhile _ _)

namespace Document

/-- From the first column of the first line to the end of the last. -/
def spanOf (ls : List String) : Span :=
  match ls.getLast? with
  | none => .zero
  | some l => ⟨⟨0, 0⟩, ⟨ls.length - 1, l.length⟩⟩

/-- Reads a file that is already cut into lines. -/
def ofLines (ls : List String) : Except ParseError Document :=
  match Entry.readAll (.start ls) with
  | .error e => .error e
  | .ok entries => .ok ⟨entries, spanOf ls⟩

/-- Reads a file. -/
def parse (source : String) : Except ParseError Document := ofLines (Text.lines source)

end Document

end HurlAssist
