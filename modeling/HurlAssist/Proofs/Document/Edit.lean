import HurlAssist.Proofs.Document.Redraft

/-!
Edits of a file that leave what is read off each line as it is. Such an edit moves lines further
down, or changes characters that have no meaning. It changes the tree in its regions and in the
lines that are kept as they stand, and there only (`Edit.ofBlocks_block`).
-/

namespace HurlAssist

open Text

section Map

variable (f : Span → Span) (g : String → String)

/-! Trees with `f` applied to each region and `g` to each line that is kept as it stands. -/

def Word.map (w : Word) : Word := { w with span := f w.span }

def Headers.map (h : Headers) : Headers := { h with span := h.span.map f }

def Body.map (b : Body) : Body := ⟨b.lines.map g, b.span.map f⟩

def Section.map (s : Section) : Section :=
  { s with
    name := s.name.map f
    rawLines := s.rawLines.map g
    lines := s.lines.map g
    span := f s.span }

def Content.map (c : Content) : Content :=
  ⟨c.headers.map f, c.sections.map (·.map f g), c.body.map f g⟩

def Request.map (q : Request) : Request :=
  ⟨q.method.map f, q.target.map f, q.content.map f g, f q.span⟩

def Response.map (p : Response) : Response :=
  { p with content := p.content.map f g, span := f p.span }

def Entry.map (e : Entry) : Entry :=
  ⟨e.request.map f g, e.response.map (·.map f g), f e.span⟩

def Document.map (d : Document) : Document := ⟨d.entries.map (·.map f g), f d.span⟩

end Map

theorem Section.map_id (s : Section) : s.map id id = s := by
  simp [Section.map, Word.map]

theorem Content.map_id (c : Content) : c.map id id = c := by
  have sections : (·.map id id) = (id : Section → Section) := funext Section.map_id
  simp [Content.map, Headers.map, Body.map, sections]

theorem Entry.map_id (e : Entry) : e.map id id = e := by
  have response : (·.map id id) = (id : Response → Response) := funext fun p => by
    simp [Response.map, Content.map_id]
  simp [Entry.map, Request.map, Word.map, Content.map_id, response]

/-- An error `n` lines further down. -/
def ParseError.moved (n : Nat) : ParseError → ParseError
  | emptyMethodLine line => emptyMethodLine (line + n)
  | malformedStatusLine line text => malformedStatusLine (line + n) text

theorem ParseError.moved_zero (e : ParseError) : e.moved 0 = e := by
  cases e <;> rfl

/-- Two readings that look alike both fail, or both come to trees that look alike. -/
theorem ParseError.outcome_of_map_eq {α β : Type} {f f' : α → β} {n : Nat}
    {x x' : Except ParseError α} (h : x'.map f' = (x.mapError (·.moved n)).map f) :
    (∃ err, x = .error err ∧ x' = .error (err.moved n)) ∨
      ∃ a a', x = .ok a ∧ x' = .ok a' ∧ f' a' = f a := by
  cases x with
  | error err =>
    cases x' with
    | error err' => exact .inl ⟨err, rfl, congrArg _ (Except.error.inj h)⟩
    | ok a' => cases h
  | ok a =>
    cases x' with
    | error err' => cases h
    | ok a' => exact .inr ⟨a, a', rfl, rfl, Except.ok.inj h⟩

/-- The same is read off both lines, save for columns. -/
structure Line.ReadsAs (l l' : String) : Prop where
  kind : Line.kind l = Line.kind l'
  keyValue : Line.keyValue l = Line.keyValue l'
  sectionName? : Line.sectionName? l = Line.sectionName? l'
  trim : trim l.toList = trim l'.toList
  firstWord : firstWord l.toList = firstWord l'.toList
  target : Text.trim (afterFirstWord l.toList) = Text.trim (afterFirstWord l'.toList)
  secondWord :
    Text.firstWord (afterFirstWord l.toList) = Text.firstWord (afterFirstWord l'.toList)

/-- An edit of a file, line by line, and what of the regions before and after it is compared. -/
structure Edit extends Redraft where
  before : Span → Span
  after : Span → Span
  readsAs : ∀ l, Line.ReadsAs (line l) l
  kind_line := fun l => (readsAs l).kind
  /-- A region of one line, whatever columns of the line it goes by. -/
  onLine : ∀ (n : Nat) (start stop : String → Nat) (l : String),
    after (.onLine (n + down) (start (line l)) (stop (line l))) =
      before (.onLine n (start l) (stop l))
  close : ∀ {s s' : Span} (n : Nat) (l : String), after s' = before s →
    after (s'.close (n + down) (line l).length) = before (s.close n l.length)
  join : ∀ {s s' t t' : Span}, after s' = before s → after t' = before t →
    after (s'.join t') = before (s.join t)

namespace Edit

open Redraft

variable {e : Edit}

theorem span_block (col : String → Nat) (b : Block) :
    e.after ((e.block b).span (col (e.line b.head))) = e.before (b.span (col b.head)) := by
  have stop : (e.block b).stop - 1 = b.stop - 1 + e.down := by
    have : b.line < b.stop := by simp only [Block.stop]; omega
    rw [stop_block]
    omega
  rw [Block.span, Block.span, stop, lastText_block]
  exact e.close _ _ (e.onLine b.line col String.length b.head)

theorem headers_add {h h' : Headers} (same : h'.map e.after = h.map e.before) (n : Nat)
    (l : String) : (h'.add (n + e.down) (e.line l)).map e.after = (h.add n l).map e.before := by
  obtain ⟨values, span⟩ := h
  obtain ⟨values', span'⟩ := h'
  simp only [Headers.map, Headers.mk.injEq] at same
  obtain ⟨rfl, spans⟩ := same
  have here := e.onLine n (fun _ => 0) String.length l
  simp only [Headers.add, Headers.map, (e.readsAs l).keyValue, Option.map_some, Headers.mk.injEq,
    true_and, Option.some.injEq]
  -- `same` says that there is a region on both sides or on neither.
  cases span with
  | none =>
    obtain rfl := Option.map_eq_none_iff.mp spans
    exact here
  | some s =>
    obtain ⟨s', rfl, first⟩ := Option.map_eq_some_iff.mp spans
    exact e.join first here

theorem headers_addAll {h h' : Headers} (same : h'.map e.after = h.map e.before) (n : Nat)
    (ls : List String) :
    (h'.addAll (keyValueLines (n + e.down) (ls.map e.line))).map e.after =
      (h.addAll (keyValueLines n ls)).map e.before := by
  induction ls generalizing n h h' with
  | nil => exact same
  | cons l ls ih =>
    rw [List.map_cons]
    by_cases hl : Line.kind l = .keyValue
    · rw [Headers.addAll_keyValue ((e.kind_line l).trans hl), Headers.addAll_keyValue hl,
        Nat.add_right_comm]
      exact ih (headers_add same n l) (n + 1)
    · rw [Headers.addAll_other (e.kind_line l ▸ hl), Headers.addAll_other hl, Nat.add_right_comm]
      exact ih same (n + 1)

theorem body_ofLines (n : Nat) (ls : List String) :
    (Body.ofLines (n + e.down) (ls.map e.line)).map e.after id =
      (Body.ofLines n ls).map e.before e.line := by
  cases ls with
  | nil => rfl
  | cons l ls =>
    have span := e.span_block (fun _ => 0) ⟨n, l, ls⟩
    simp only [Body.ofLines, Body.map, List.map_cons, List.map_id, Option.map_some, Body.mk.injEq,
      Option.some.injEq]
    exact ⟨rfl, span⟩

theorem section_ofBlock (b : Block) :
    (Section.ofBlock (e.block b)).map e.after id = (Section.ofBlock b).map e.before e.line := by
  have pairs : Line.keyValue ∘ e.line = Line.keyValue := funext fun l => (e.readsAs l).keyValue
  have nameSpan := e.onLine b.line (fun l => indent l.toList + 1)
    (fun l => indent l.toList + 1 + ((Line.sectionName? b.head).getD "").length) b.head
  have span := e.span_block (fun l => indent l.toList) b
  simp only [Section.ofBlock, Section.map, Word.map, line_block, head_block, Redraft.rest_block,
    filter_map (keeps_kind (· == .keyValue)),
    filter_map (keeps_kind fun k => k != .keyValue && k != .blank), (e.readsAs b.head).sectionName?,
    List.map_map, pairs, Function.id_comp, Section.mk.injEq, Word.mk.injEq, true_and]
  exact ⟨nameSpan, span⟩

theorem content_addLines (n : Nat) (ls : List String) :
    (Content.empty.addLines (n + e.down) (ls.map e.line)).map e.after id =
      (Content.empty.addLines n ls).map e.before e.line := by
  have headers := headers_addAll (e := e) (show Content.empty.headers.map e.after =
    Content.empty.headers.map e.before from rfl) n (ls.takeWhile Content.isTop)
  have move (a b : Nat) : n + e.down + a + b = n + a + b + e.down := by omega
  have sections (bs : List Block) : ((bs.map e.block).map Section.ofBlock).map (·.map e.after id) =
      (bs.map Section.ofBlock).map (·.map e.before e.line) := by
    simp only [List.map_map]
    exact List.map_congr_left fun b _ => section_ofBlock b
  simp only [Content.addLines_empty, Content.map, takeWhile_map keeps_isTop, sectionLines_map,
    bodyLines_map, List.length_map]
  rw [Nat.add_right_comm n, Nat.add_right_comm _ e.down,
    cut_map (keeps_kind (· == .sectionHeader)), headers, sections, body_ofLines]

theorem request_ofBlock (b : Block) :
    (Request.ofBlock (e.block b)).map e.after id = (Request.ofBlock b).map e.before e.line := by
  have method := e.onLine b.line (fun l => indent l.toList)
    (fun l => indent l.toList + (firstWord b.head.toList).length) b.head
  have target := e.onLine b.line
    (fun l => min (indent l.toList + (firstWord b.head.toList).length + 1) l.length) String.length
    b.head
  have content := content_addLines (e := e) (b.line + 1) b.rest
  have span := e.span_block (fun l => indent l.toList) b
  rw [Nat.add_right_comm] at content
  simp only [Request.ofBlock, Request.map, Word.map, line_block, head_block, Redraft.rest_block,
    (e.readsAs b.head).firstWord, (e.readsAs b.head).target, Request.mk.injEq, Word.mk.injEq,
    true_and]
  exact ⟨method, target, content, span⟩

theorem response_ofBlock (b : Block) :
    (Response.ofBlock (e.block b)).map (·.map e.after id) =
      ((Response.ofBlock b).mapError (·.moved e.down)).map (·.map e.before e.line) := by
  have content := content_addLines (e := e) (b.line + 1) b.rest
  have span := e.span_block (fun l => indent l.toList) b
  rw [Nat.add_right_comm] at content
  simp only [Response.ofBlock, line_block, head_block, Redraft.rest_block,
    (e.readsAs b.head).firstWord, (e.readsAs b.head).secondWord, (e.readsAs b.head).trim]
  split
  · rfl
  · simp only [Except.map, Except.mapError, Response.map, Except.ok.injEq, Response.mk.injEq,
      true_and]
    exact ⟨content, span⟩

/-- The entry of an edited block. -/
theorem entry_ofBlock (b : Block) :
    (Entry.ofBlock (e.block b)).map (·.map e.after id) =
      ((Entry.ofBlock b).mapError (·.moved e.down)).map (·.map e.before e.line) := by
  have request := request_ofBlock (e := e) b.upToStatus
  have requestSpan := congrArg Request.span request
  simp only [Entry.ofBlock, Redraft.upToStatus_block, fromStatus?_block]
  cases b.fromStatus? with
  | none =>
    simp only [Option.map_none, Except.map, Except.mapError, Entry.map, request,
      Except.ok.injEq, Entry.mk.injEq, true_and]
    exact requestSpan
  | some r =>
    simp only [Option.map_some]
    rcases ParseError.outcome_of_map_eq (response_ofBlock (e := e) r) with
      ⟨err, failed, failed'⟩ | ⟨p, p', made, made', response⟩
    · rw [failed, failed']
      rfl
    · have span := e.join requestSpan (congrArg Response.span response)
      simp only [made, made', Except.map, Except.mapError, Entry.map, request, response,
        Option.map_some, Except.ok.injEq, Entry.mk.injEq, true_and]
      exact span

/-- The entries of edited blocks: regions and kept lines as the edit has them, and errors further
down. -/
theorem ofBlocks_block (bs : List Block) :
    (Entry.ofBlocks (bs.map e.block)).map (List.map (·.map e.after id)) =
      ((Entry.ofBlocks bs).mapError (·.moved e.down)).map (List.map (·.map e.before e.line)) := by
  induction bs with
  | nil => rfl
  | cons b bs ih =>
    simp only [List.map_cons, Entry.ofBlocks]
    rcases ParseError.outcome_of_map_eq (entry_ofBlock (e := e) b) with
      ⟨err, failed, failed'⟩ | ⟨entry, entry', made, made', same⟩
    · rw [failed, failed']
      rfl
    · rcases ParseError.outcome_of_map_eq ih with
        ⟨err, failed, failed'⟩ | ⟨entries, entries', others, others', rest⟩
      · rw [made, made', failed, failed']
        rfl
      · simp only [made, made', others, others', Except.map, Except.mapError, List.map_cons, same,
          rest]

end Edit

end HurlAssist
