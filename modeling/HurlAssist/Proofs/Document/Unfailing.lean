import HurlAssist.Proofs.Document.Guarded
import HurlAssist.Proofs.Document.Nesting
import HurlAssist.Proofs.Document.TrailingBlanks

/-!
No guard is tripped on the way through a file of fewer than 2^32 lines, each of fewer than 2^32 - 2
characters. Each guarded reader gives what the reader gives, from any place in such a file
(`Reading.Fits`), and so does the guarded reader of a whole file (`reading_trips_no_guard`).
-/

namespace HurlAssist

open Text Reading

/-- The second reading comes after the first, when some of the lines left have been read. -/
def Reading.Reaches (r r' : Reading) : Prop := ∃ xs, xs <+: r.rest ∧ r' = r.past xs

/-- The reading is inside of a file that is not too great. -/
structure Reading.Fits (r : Reading) : Prop where
  lines : r.line + r.rest.length < 0x100000000
  widths : ∀ l ∈ r.last :: r.rest, l.length < 0xFFFFFFFE

namespace Reading

variable {r r' r'' : Reading} {l : String} {ls xs : List String}

theorem reaches_past (h : xs <+: r.rest) : r.Reaches (r.past xs) := ⟨xs, h, rfl⟩

theorem reaches_next (h : r.rest = l :: ls) : r.Reaches r.next :=
  past_one h ▸ reaches_past (leads_of_rest h)

theorem reaches_takeWhile (go : LineKind → Bool) (r : Reading) :
    r.Reaches (r.takeWhile go).2 := by
  rw [takeWhile_eq]
  exact reaches_past (List.takeWhile_prefix _)

namespace Reaches

theorem refl (r : Reading) : r.Reaches r := reaches_past List.nil_prefix

theorem trans (h : r.Reaches r') (h' : r'.Reaches r'') : r.Reaches r'' := by
  obtain ⟨xs, ⟨more, hm⟩, rfl⟩ := h
  obtain ⟨ys, first, rfl⟩ := h'
  have left : (r.past xs).rest = more := by simp only [past, ← hm, List.drop_left]
  rw [past_append]
  apply reaches_past
  rw [← hm]
  exact (List.prefix_append_right_inj xs).mpr (left ▸ first)

theorem le (h : r.Reaches r') : r.line ≤ r'.line ∧ r'.rest.length ≤ r.rest.length := by
  obtain ⟨xs, _, rfl⟩ := h
  exact ⟨Nat.le_add_right _ _, length_rest_past r xs⟩

theorem fits (h : r.Reaches r') (fits : r.Fits) : r'.Fits := by
  obtain ⟨xs, first, rfl⟩ := h
  have lines := fits.lines
  have taken := first.length_le
  constructor
  · simp only [past, List.length_drop]
    omega
  · intro l hl
    apply fits.widths
    rcases List.mem_cons.mp hl with rfl | hl
    · rcases List.mem_cons.mp (List.getLastD_mem_cons (a := r.last) (l := xs)) with same | read
      · exact same ▸ List.mem_cons_self
      · exact List.mem_cons_of_mem _ (first.mem read)
    · exact List.mem_cons_of_mem _ (List.mem_of_mem_drop hl)

/-- Where a line has been read, the second reading is further on. -/
theorem before (h : r.next.Reaches r') (hr : r.rest = l :: ls) : r.Before r' := by
  obtain ⟨line, rest⟩ := h.le
  rw [rest_next hr] at rest
  constructor
  · exact line
  · rw [hr]
    exact Nat.lt_succ_of_le rest

theorem before_of_before (h : r.Reaches r') (further : r'.Before r'') : r.Before r'' :=
  ⟨Nat.lt_of_le_of_lt h.le.1 further.1, Nat.lt_of_lt_of_le further.2 h.le.2⟩

end Reaches

namespace Fits

theorem line (fits : r.Fits) : r.line < 0x100000000 := by
  have := fits.lines
  omega

theorem width (fits : r.Fits) (h : r.rest = l :: ls) : l.length < 0xFFFFFFFE :=
  fits.widths l (h ▸ List.mem_cons_of_mem _ List.mem_cons_self)

theorem next (fits : r.Fits) (h : r.rest = l :: ls) : r.next.Fits := (reaches_next h).fits fits

end Fits

end Reading

namespace Guarded

variable {β : Type} {r : Reading} {s : Span} {n : Nat}

theorem ok_bind {α : Type} (a : α) (f : α → Guarded β) : (Except.ok a >>= f) = f a := rfl

theorem word_eq (h : n < 0x100000000) : word n = .ok n := if_pos h

theorem span_eq (h : s.start.line ≤ s.stop.line) : span s = .ok s := if_pos h

theorem span_onLine (line startCol stopCol : Nat) :
    span (.onLine line startCol stopCol) = .ok (.onLine line startCol stopCol) :=
  span_eq (Nat.le_refl line)

theorem require_eq {p : Prop} [Decidable p] (h : p) (fault : Fault) : require p fault = .ok () :=
  if_pos h

/-- A region closes at a reading behind its first line. -/
theorem close_eq (fits : r.Fits) (h : s.start.line < r.line) : close r s = .ok (r.close s) := by
  have line := fits.line
  have width := fits.widths r.last List.mem_cons_self
  rw [close, word_eq (by omega), ok_bind, word_eq (by omega), ok_bind,
    require_eq (by omega), ok_bind]
  rfl

end Guarded

open Guarded

/-- The region of the headers, if there is one, does not stop above its start. -/
def Headers.Forward (h : Headers) : Prop := ∀ s, h.span = some s → s.start.line ≤ s.stop.line

theorem Span.line_join_le {s t : Span} (hs : s.start.line ≤ s.stop.line) :
    (s.join t).start.line ≤ (s.join t).stop.line := by
  simp only [join, Point.line_earlier, Point.line_later]
  omega

theorem Headers.forward_add {h : Headers} (forward : h.Forward) (line : Nat) (text : String) :
    (h.add line text).Forward := by
  intro s hs
  cases hs
  cases earlier : h.span with
  | none => exact Nat.le_refl line
  | some s => exact Span.line_join_le (forward s earlier)

theorem Headers.guardedRead_eq {h : Headers} {r : Reading} {l : String} {ls : List String}
    (fits : r.Fits) (hr : r.rest = l :: ls) (forward : h.Forward) :
    h.guardedRead r = .ok (h.read r) := by
  have width := fits.width hr
  rw [guardedRead, word_eq fits.line, ok_bind, text_of_rest hr, word_eq (by omega), ok_bind,
    span_onLine, ok_bind]
  cases earlier : h.span with
  | none =>
    simp only [earlier, read, add, text_of_rest hr]
    rfl
  | some s =>
    simp only [span_eq (Span.line_join_le (forward s earlier)), earlier, read, add,
      text_of_rest hr]
    rfl

theorem Section.guardedRead_eq {r : Reading} {l : String} {ls : List String} (fits : r.Fits)
    (hr : r.rest = l :: ls) : guardedRead r = .ok (read r) := by
  have width := fits.width hr
  have indented := indent_add_length_trim_le l.toList
  rw [String.length_toList] at indented
  have name : indent l.toList + 1 + ((Line.sectionName? l).getD "").length ≤ l.length + 1 := by
    cases found : Line.sectionName? l with
    | none =>
      simp only [Option.getD_none, String.length_empty]
      omega
    | some name => exact Nat.le_succ_of_le (Line.length_sectionName?_le found)
  have further : r.Before (r.next.past r.ofSection) :=
    (reaches_past (List.takeWhile_prefix _)).before hr
  rw [guardedRead, word_eq fits.line, ok_bind, text_of_rest hr, word_eq (by omega), ok_bind,
    word_eq (by omega), ok_bind, word_eq (by omega), ok_bind, word_eq (by omega), ok_bind,
    span_onLine, ok_bind, word_eq (by omega), ok_bind, span_onLine, ok_bind, takeWhile_eq]
  simp only
  rw [← upTo, ← Reading.ofSection, require_eq further, ok_bind, read, text_of_rest hr,
    takeWhile_eq]
  rfl

/-- A section starts on the next line, and reading goes on behind that line. -/
theorem Section.start_read (r : Reading) :
    (read r).1.span.start.line = r.line ∧ r.next.Reaches (read r).2 :=
  ⟨rfl, reaches_takeWhile _ _⟩

theorem Body.guardedRead_eq {ends : LineKind → Bool} {r ahead : Reading} {l : String}
    {ls : List String} (fits : ahead.Fits) (behind : r.line ≤ ahead.line) (hr : ahead.rest = l :: ls)
    (goes : ends (Line.kind l) = false) : guardedRead ends r ahead = .ok (read ends ahead) := by
  have width := fits.width hr
  have taken : ahead.rest.takeWhile (fun l => !ends (Line.kind l)) = l :: upTo ends ahead.next :=
    upTo_of_goes hr goes
  have first : upTo ends ahead.next <+: ahead.next.rest := List.takeWhile_prefix _
  have further : ahead.Before (ahead.past (l :: upTo ends ahead.next)) := by
    rw [past_cons hr]
    exact (reaches_past first).before hr
  have after : (ahead.past (l :: upTo ends ahead.next)).Fits := by
    rw [past_cons hr]
    exact (reaches_past first).fits (fits.next hr)
  have starts : ahead.kind?.any (!ends ·) = true := by simp [kind?_of_rest hr, goes]
  rw [guardedRead, require_eq behind, ok_bind, require_eq starts, ok_bind, read, takeWhile_eq, taken]
  simp only
  rw [require_eq (List.cons_ne_nil _ _), ok_bind, require_eq further, ok_bind,
    word_eq fits.line, ok_bind, text_of_rest hr, word_eq (by omega), ok_bind, span_onLine, ok_bind,
    close_eq after further.1, ok_bind]
  rfl

namespace Content

variable {ends : LineKind → Bool} {c c' : Content} {r r' : Reading}

theorem rest_of_turn_more (h : turn ends c r = .more c' r') : ∃ l ls, r.rest = l :: ls := by
  cases hr : r.rest with
  | nil => simp [turn, kind?, hr] at h
  | cons l ls => exact ⟨l, ls, rfl⟩

/-- A turn that is not the last one takes at least a line. -/
theorem reaches_of_turn_more (h : turn ends c r = .more c' r') : r.next.Reaches r' := by
  unfold turn at h
  cases hk : r.kind? with
  | none => simp [hk] at h
  | some k =>
    simp only [hk] at h
    split at h
    · cases h
    · split at h
      · cases h
        exact reaches_takeWhile _ _
      · cases h
        exact .refl _
      · split at h
        · cases h
          exact .refl _
        · cases h
      · cases h

/-- The region of the headers grows line by line. -/
theorem forward_of_turn_more (h : turn ends c r = .more c' r') (forward : c.headers.Forward) :
    c'.headers.Forward := by
  unfold turn at h
  cases hk : r.kind? with
  | none => simp [hk] at h
  | some k =>
    simp only [hk] at h
    split at h
    · cases h
    · split at h
      · cases h
        exact forward
      · cases h
        exact Headers.forward_add forward r.line r.text
      · split at h
        · cases h
          exact forward
        · cases h
      · cases h

theorem guardedTurn_eq (he : EndsContent ends) (fits : r.Fits) (forward : c.headers.Forward) :
    guardedTurn ends c r = .ok (turn ends c r) := by
  cases hr : r.rest with
  | nil => simp only [guardedTurn, turn, kind?, hr]; rfl
  | cons l ls =>
    have next := fits.next hr
    cases ended : ends (Line.kind l) with
    | true => simp only [guardedTurn, turn, kind?_of_rest hr, ended]; rfl
    | false =>
      have body : Body.guardedRead ends r r = .ok (Body.read ends r) :=
        Body.guardedRead_eq fits (Nat.le_refl _) hr ended
      simp only [guardedTurn, turn, kind?_of_rest hr, ended]
      cases hk : Line.kind l with
      | sectionHeader =>
        obtain ⟨start, behind⟩ := Section.start_read r
        simp only
        rw [Section.guardedRead_eq fits hr, ok_bind]
        generalize Section.read r = taken at start behind
        obtain ⟨s, after⟩ := taken
        have further := (behind.before hr).1
        simp only at start further
        simp only [close_eq (behind.fits next) (show s.span.start.line < after.line by omega), ok_bind]
        rfl
      | keyValue =>
        simp only
        rw [Headers.guardedRead_eq fits hr forward, ok_bind]
        rfl
      | blank =>
        simp only
        cases found : r.next.bodyAhead? ends with
        | none => rfl
        | some ahead =>
          obtain ⟨xs, x, more, first, _, rfl, rest, goes, _⟩ := bodyAhead?_eq_some he found
          have reached := reaches_past first
          simp only
          rw [Body.guardedRead_eq (reached.fits next) reached.le.1 rest goes, ok_bind]
          rfl
      | method =>
        simp only
        rw [body, ok_bind]
        rfl
      | status =>
        simp only
        rw [body, ok_bind]
        rfl
      | body =>
        simp only
        rw [body, ok_bind]
        rfl

/-- Turn by turn, reading with guards comes to the same. -/
theorem guardedRead_eq (he : EndsContent ends) (fits : r.Fits) (forward : c.headers.Forward) :
    guardedRead ends c r = .ok (read ends c r) := by
  fun_induction read ends c r with
  | case1 c r c' r' h =>
    rw [guardedRead, guardedTurn_eq he fits forward, ok_bind, h]
    rfl
  | case2 c r c' r' h ih =>
    obtain ⟨l, ls, hr⟩ := rest_of_turn_more h
    have behind := reaches_of_turn_more h
    rw [guardedRead, guardedTurn_eq he fits forward, ok_bind, h]
    simp only
    rw [dif_pos (behind.before hr),
      ih (behind.fits (fits.next hr)) (forward_of_turn_more h forward)]

end Content

theorem Headers.forward_empty : Content.empty.headers.Forward := by
  intro s hs
  cases hs

/-- What stands under the next line is read up to where it ends, and reading goes on from there. -/
theorem Content.reaches_read {ends : LineKind → Bool} (he : EndsContent ends) (r : Reading) :
    r.Reaches (read ends .empty r).2 := by
  rw [read_eq_addLines he rfl]
  exact reaches_past (List.takeWhile_prefix _)

theorem Request.guardedRead_eq {r : Reading} {l : String} {ls : List String} (fits : r.Fits)
    (hr : r.rest = l :: ls) : guardedRead r = .ok (read r) := by
  have width := fits.width hr
  have word := indent_add_length_firstWord_le l.toList
  rw [String.length_toList] at word
  have target := (trails_afterFirstWord_trim l.toList).trim_eq
  have content := Content.guardedRead_eq endsRequest_endsContent (fits.next hr)
    Headers.forward_empty
  rw [guardedRead, word_eq fits.line, ok_bind, text_of_rest hr]
  simp only [firstWord_trim, read, text_of_rest hr, fromOctet?_trim]
  split
  · rfl
  · rw [word_eq (by omega), ok_bind, word_eq (by omega), ok_bind, word_eq (by omega), ok_bind,
      word_eq (by omega), ok_bind, span_onLine, ok_bind, word_eq (by omega), ok_bind, span_onLine,
      ok_bind, span_onLine, ok_bind, content, ok_bind, ← target]
    rfl

theorem Response.guardedRead_eq {r : Reading} {l : String} {ls : List String} (fits : r.Fits)
    (hr : r.rest = l :: ls) : guardedRead r = .ok (read r) := by
  have width := fits.width hr
  have word := indent_add_length_firstWord_le l.toList
  rw [String.length_toList] at word
  have status := (trails_afterFirstWord_trim l.toList).firstWord_eq
  have content := Content.guardedRead_eq method_endsContent (fits.next hr) Headers.forward_empty
  rw [guardedRead, word_eq fits.line, ok_bind, text_of_rest hr]
  simp only [firstWord_trim, read, text_of_rest hr, ← status]
  split
  · rfl
  · rw [word_eq (by omega), ok_bind, word_eq (by omega), ok_bind, span_onLine, ok_bind, content,
      ok_bind]
    rfl

/-- A request that is read starts on the next line, and reading goes on behind that line. -/
theorem Request.start_of_read {r after : Reading} {q : Request} (h : read r = .ok (q, after)) :
    q.span.start.line = r.line ∧ r.next.Reaches after := by
  unfold read at h
  simp only at h
  split at h
  · cases h
  · cases h
    exact ⟨rfl, Content.reaches_read endsRequest_endsContent r.next⟩

theorem Response.start_of_read {r after : Reading} {p : Response} (h : read r = .ok (p, after)) :
    p.span.start.line = r.line ∧ r.next.Reaches after := by
  unfold read at h
  simp only at h
  split at h
  · cases h
  · cases h
    exact ⟨rfl, Content.reaches_read method_endsContent r.next⟩

/-- A region that is closed does not stop above its start. -/
theorem Reading.line_close_le (r : Reading) (s : Span) :
    (r.close s).start.line ≤ (r.close s).stop.line :=
  Nat.le_max_right _ _

namespace Entry

theorem guardedRead_eq {r : Reading} {l : String} {ls : List String} (fits : r.Fits)
    (hr : r.rest = l :: ls) : guardedRead r = .ok (read r) := by
  rw [guardedRead, Request.guardedRead_eq fits hr, ok_bind, read]
  cases request : Request.read r with
  | error e => rfl
  | ok made =>
    obtain ⟨q, after⟩ := made
    obtain ⟨start, behind⟩ := Request.start_of_read request
    have line := (behind.before hr).1
    have fitsAfter := behind.fits (fits.next hr)
    have fitsBehind : after.skipBlank.Fits := (reaches_takeWhile _ after).fits fitsAfter
    simp only
    rw [close_eq fitsAfter (by omega), ok_bind]
    split
    · rename_i status
      obtain ⟨s, more, hs, _⟩ := rest_of_kind? status
      rw [Response.guardedRead_eq fitsBehind hs, ok_bind]
      cases response : Response.read after.skipBlank with
      | error e => rfl
      | ok made =>
        obtain ⟨p, last⟩ := made
        obtain ⟨start', behind'⟩ := Response.start_of_read response
        have line' := (behind'.before hs).1
        have fitsLast := behind'.fits (fitsBehind.next hs)
        simp only
        rw [close_eq fitsLast (by omega), ok_bind,
          span_eq (Span.line_join_le (line_close_le after q.span)), ok_bind]
        rfl
    · rfl

/-- An entry that is read takes at least its method line. -/
theorem reaches_of_read {r after : Reading} {e : Entry} (h : read r = .ok (e, after)) :
    r.next.Reaches after := by
  unfold read at h
  cases request : Request.read r with
  | error e => simp [request] at h
  | ok made =>
    obtain ⟨q, behind⟩ := made
    have first := (Request.start_of_read request).2
    have skip : behind.Reaches behind.skipBlank := reaches_takeWhile _ _
    simp only [request] at h
    split at h
    · rename_i status
      obtain ⟨s, more, hs, _⟩ := rest_of_kind? status
      cases response : Response.read behind.skipBlank with
      | error e => simp [response] at h
      | ok made =>
        obtain ⟨p, last⟩ := made
        have second := (Response.start_of_read response).2
        simp only [response] at h
        cases h
        exact first.trans (skip.trans ((reaches_next hs).trans second))
    · cases h
      exact first.trans skip

theorem fits_of_read {r after : Reading} {k : LineKind} {e : Entry} (fits : r.Fits)
    (hk : r.skipBlank.kind? = some k) (h : read r.skipBlank = .ok (e, after)) : after.Fits := by
  have skip : r.Reaches r.skipBlank := reaches_takeWhile _ _
  obtain ⟨l, ls, hr, _⟩ := rest_of_kind? hk
  exact (reaches_of_read h).fits ((skip.fits fits).next hr)

/-- One entry more in front of those that the guarded reader gives. -/
theorem guardedReadAll_of_read {r after : Reading} {e : Entry} (fits : r.Fits)
    (hk : r.skipBlank.kind? = some .method) (h : read r.skipBlank = .ok (e, after))
    (others : guardedReadAll after = .ok (readAll after)) :
    guardedReadAll r = .ok (match readAll after with
      | .error e => .error e
      | .ok entries => .ok (e :: entries)) := by
  have skip : r.Reaches r.skipBlank := reaches_takeWhile _ _
  obtain ⟨l, ls, hr, _⟩ := rest_of_kind? hk
  have further := skip.before_of_before ((reaches_of_read h).before hr)
  rw [guardedReadAll]
  simp only [hk, if_true]
  rw [guardedRead_eq (skip.fits fits) hr, ok_bind, h]
  simp only
  rw [dif_pos further, others, ok_bind]
  cases readAll after <;> rfl

/-- Entry by entry, reading with guards comes to the same. -/
theorem guardedReadAll_eq {r : Reading} (fits : r.Fits) : guardedReadAll r = .ok (readAll r) := by
  have skip {r : Reading} : r.Reaches r.skipBlank := reaches_takeWhile _ _
  fun_induction readAll r with
  | case1 r r' hk =>
    simp only [r'] at hk
    rw [guardedReadAll]
    simp only [hk]
    rfl
  | case2 r r' e failed hk =>
    obtain ⟨l, ls, hr, _⟩ := rest_of_kind? hk
    have made := guardedRead_eq (skip.fits fits) hr
    simp only [r'] at hk failed
    rw [guardedReadAll]
    simp only [hk, if_true]
    rw [made, ok_bind, failed]
    rfl
  | case3 r r' entry after read e failed hk ih =>
    have others := ih (fits_of_read fits hk read)
    rw [guardedReadAll_of_read fits hk read others, failed]
  | case4 r r' entry after read entries done hk ih =>
    have others := ih (fits_of_read fits hk read)
    rw [guardedReadAll_of_read fits hk read others, done]
  | case5 r r' k hk other ih =>
    obtain ⟨l, ls, hr, _⟩ := rest_of_kind? hk
    have further := skip.before_of_before ((Reaches.refl r.skipBlank.next).before hr)
    simp only [r'] at hk
    rw [guardedReadAll]
    simp only [hk, if_neg other]
    rw [dif_pos further, ih ((skip.fits fits).next hr)]

end Entry

namespace Document

theorem guardedSpanOf_eq {ls : List String} (lines : ls.length < 0x100000000)
    (widths : ∀ l ∈ ls, l.length < 0xFFFFFFFE) : guardedSpanOf ls = .ok (spanOf ls) := by
  rw [guardedSpanOf, spanOf]
  cases last : ls.getLast? with
  | none => rfl
  | some l =>
    have width := widths l (List.mem_of_getLast? last)
    simp only
    rw [word_eq (by omega), ok_bind, word_eq (by omega), ok_bind, span_eq (Nat.zero_le _)]

/-- Reading a file that is not too great comes to an end with all guards passed, and gives the
document or the error that the reader gives: line numbers, columns and their sums fit 32 bits, no
region stops above its start, the request line is cut at the end of its first word, a body starts
behind the reading on a line that does not end it, and every section, body and turn takes lines. -/
theorem reading_trips_no_guard {ls : List String} (lines : ls.length < 0x100000000)
    (widths : ∀ l ∈ ls, l.length < 0xFFFFFFFE) : guardedOfLines ls = .ok (ofLines ls) := by
  have fits : (Reading.start ls).Fits := by
    constructor
    · rw [Reading.start, Nat.zero_add]
      exact lines
    · intro l hl
      rcases List.mem_cons.mp hl with rfl | hl
      · exact Nat.lt_of_le_of_lt (Nat.le_of_eq String.length_empty) (by omega)
      · exact widths l hl
  rw [guardedOfLines, Entry.guardedReadAll_eq fits, ok_bind, ofLines]
  cases Entry.readAll (.start ls) with
  | error e => rfl
  | ok entries =>
    simp only
    rw [guardedSpanOf_eq lines widths]
    rfl

/-- Stray and indented lines, bodies behind blanks, sections, and a second status line. -/
theorem reading_trips_no_guard_here :
    guardedOfLines ["\x7b", "  GET\u2003/ä", "x: 1", "y: 2", "", "# note", "text", "HTTP/1.1 200",
      " [Captures]", "id: body", "HTTP/1.1 500", "[End]", "", "\tPOST"] =
    .ok (ofLines ["\x7b", "  GET\u2003/ä", "x: 1", "y: 2", "", "# note", "text", "HTTP/1.1 200",
      " [Captures]", "id: body", "HTTP/1.1 500", "[End]", "", "\tPOST"]) :=
  reading_trips_no_guard (by decide) (by decide +kernel)

end Document

end HurlAssist
