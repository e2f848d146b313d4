import HurlAssist.Document.LineKind
import HurlAssist.Span

/-!
Reading a file line by line. A `Reading` stands between two lines: it knows the number of the next
line, the line before it, and the lines that are still to be read.
-/

namespace HurlAssist

/-- How far a file has been read. -/
structure Reading where
  /-- The number of the next line. -/
  line : Nat
  /-- The line that was read last. -/
  last : String
  /-- The lines from the next one on. -/
  rest : List String
  deriving DecidableEq, Repr

namespace Reading

/-- Nothing of these lines has been read. -/
def start (ls : List String) : Reading := ⟨0, "", ls⟩

/-- The next line; empty if there is none. -/
def text (r : Reading) : String := r.rest.headD ""

def kind? (r : Reading) : Option LineKind := r.rest.head?.map Line.kind

/-- The next line is read. -/
def next (r : Reading) : Reading := ⟨r.line + 1, r.text, r.rest.tail⟩

/-- Reads lines as long as their kind satisfies `go`; `line` and `last` are those of the reading. -/
def takeLines (go : LineKind → Bool) (line : Nat) (last : String) :
    List String → List String × Reading
  | [] => ([], ⟨line, last, []⟩)
  | l :: ls =>
    if go (Line.kind l) then
      let (taken, r) := takeLines go (line + 1) l ls
      (l :: taken, r)
    else ([], ⟨line, last, l :: ls⟩)

/-- Reads lines as long as their kind satisfies `go`, and gives them. -/
def takeWhile (go : LineKind → Bool) (r : Reading) : List String × Reading :=
  takeLines go r.line r.last r.rest

/-- Reads over blank lines and comments. -/
def skipBlank (r : Reading) : Reading := (r.takeWhile (· == .blank)).2

/-- The region with its stop moved to the end of the line that was read last. -/
def close (r : Reading) (s : Span) : Span := s.close (r.line - 1) r.last.length

/-- The reading after these lines. -/
def past (r : Reading) (ls : List String) : Reading :=
  ⟨r.line + ls.length, ls.getLastD r.last, r.rest.drop ls.length⟩

@[simp] theorem past_nil (r : Reading) : r.past [] = r := rfl

theorem past_cons {r : Reading} {l : String} {ls : List String} (h : r.rest = l :: ls)
    (more : List String) : r.past (l :: more) = r.next.past more := by
  simp only [past, next, text, h, List.length_cons, List.getLastD_cons, List.drop_succ_cons,
    List.headD_cons, List.tail_cons, Nat.add_assoc, Nat.add_comm 1]

theorem past_append (r : Reading) (a b : List String) : (r.past a).past b = r.past (a ++ b) := by
  simp [past, List.getLastD_eq_getLast?, Nat.add_assoc, List.getLast?_append]

theorem takeLines_eq (go : LineKind → Bool) (line : Nat) (last : String) (ls : List String) :
    takeLines go line last ls =
      (ls.takeWhile fun l => go (Line.kind l),
        past ⟨line, last, ls⟩ (ls.takeWhile fun l => go (Line.kind l))) := by
  induction ls generalizing line last with
  | nil => rfl
  | cons l ls ih =>
    rw [takeLines, List.takeWhile_cons]
    cases go (Line.kind l) with
    | true => rw [if_pos rfl, if_pos rfl, ih, past_cons (r := ⟨line, last, l :: ls⟩) rfl]; rfl
    | false => rfl

/-- Reading on takes the lines up to the first one that is refused, and stands before that. -/
theorem takeWhile_eq (go : LineKind → Bool) (r : Reading) :
    r.takeWhile go =
      (r.rest.takeWhile fun l => go (Line.kind l),
        r.past (r.rest.takeWhile fun l => go (Line.kind l))) :=
  takeLines_eq go r.line r.last r.rest

theorem length_rest_past (r : Reading) (ls : List String) :
    (r.past ls).rest.length ≤ r.rest.length := by
  simp [past]

theorem length_rest_takeWhile (go : LineKind → Bool) (r : Reading) :
    (r.takeWhile go).2.rest.length ≤ r.rest.length := by
  rw [takeWhile_eq]
  exact length_rest_past r _

theorem length_rest_next {r : Reading} {k : LineKind} (h : r.kind? = some k) :
    r.next.rest.length < r.rest.length := by
  cases hr : r.rest with
  | nil => simp [kind?, hr] at h
  | cons l ls => simp [next, hr]

end Reading

end HurlAssist
