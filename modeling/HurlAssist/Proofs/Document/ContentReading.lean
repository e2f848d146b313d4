import HurlAssist.Proofs.Document.Layout

/-!
Reading a content in one pass comes to its layout. A content is read turn by turn. Each turn takes
the lines that it brings to the content away from those that are left (`turn_lays`), so that all
turns together lay out the lines up to the end of the content (`read_eq_addLines`).
-/

namespace HurlAssist

open Text

namespace Reading

variable {r : Reading} {l : String} {ls : List String}

theorem text_of_rest (h : r.rest = l :: ls) : r.text = l := by simp [text, h]

theorem kind?_of_rest (h : r.rest = l :: ls) : r.kind? = some (Line.kind l) := by simp [kind?, h]

theorem rest_next (h : r.rest = l :: ls) : r.next.rest = ls := by simp [next, h]

theorem past_one (h : r.rest = l :: ls) : r.past [l] = r.next := by rw [past_cons h, past_nil]

theorem leads_of_rest (h : r.rest = l :: ls) : [l] <+: r.rest := h ▸ List.prefix_append [l] ls

theorem rest_past_takeWhile (p : String → Bool) (r : Reading) :
    (r.past (r.rest.takeWhile p)).rest = r.rest.dropWhile p := by
  have split := List.takeWhile_append_dropWhile (p := p) (l := r.rest)
  simp only [past]
  nth_rewrite 2 [← split]
  exact List.drop_left

/-- A region that starts on the next line closes as that of a block. -/
theorem close_past (r : Reading) (l : String) (xs : List String) (col : Nat) :
    (r.past (l :: xs)).close (.onLine r.line col l.length) =
      (⟨r.line, l, xs⟩ : Block).span col := by
  simp only [close, past, Block.span, Block.stop, Block.lastText, List.length_cons,
    List.getLastD_cons]
  congr 1
  omega

/-- The lines up to the first whose kind `ends` accepts. -/
def upTo (ends : LineKind → Bool) (r : Reading) : List String :=
  r.rest.takeWhile fun l => !ends (Line.kind l)

theorem upTo_of_ends {ends : LineKind → Bool} (h : r.rest = l :: ls)
    (he : ends (Line.kind l) = true) : upTo ends r = [] := by
  simp [upTo, h, he]

theorem upTo_of_goes {ends : LineKind → Bool} (h : r.rest = l :: ls)
    (he : ends (Line.kind l) = false) : upTo ends r = l :: upTo ends r.next := by
  simp [upTo, rest_next h, h, he]

/-- Lines that do not end are taken first. -/
theorem upTo_past {ends : LineKind → Bool} {xs : List String} (h : xs <+: r.rest)
    (he : ∀ l ∈ xs, ends (Line.kind l) = false) :
    upTo ends r = xs ++ upTo ends (r.past xs) := by
  obtain ⟨more, hm⟩ := h
  simp only [upTo, past, ← hm, List.drop_left]
  exact List.takeWhile_append_of_pos fun l hl => by simp [he l hl]

/-- The line behind those taken is one that ends. -/
theorem ends_of_rest_past_upTo {ends : LineKind → Bool}
    (h : (r.past (upTo ends r)).rest = l :: ls) : ends (Line.kind l) = true := by
  have stopped := List.head?_dropWhile_not (fun l => !ends (Line.kind l)) r.rest
  rw [← rest_past_takeWhile, ← upTo, h] at stopped
  simpa using stopped

theorem head?_upTo {ends : LineKind → Bool} (h : (upTo ends r).head? = some l) :
    r.rest.head? = some l ∧ ends (Line.kind l) = false := by
  cases hr : r.rest with
  | nil => simp [upTo, hr] at h
  | cons x xs =>
    cases hx : ends (Line.kind x) with
    | true => simp [upTo_of_ends hr hx] at h
    | false =>
      rw [upTo_of_goes hr hx] at h
      cases h
      exact ⟨rfl, hx⟩

end Reading

open Reading

/-- The lines that a section takes below its header. -/
def Reading.ofSection (r : Reading) : List String := upTo LineKind.endsSection r.next

theorem Section.snd_read {r : Reading} {l : String} {ls : List String} (h : r.rest = l :: ls) :
    (Section.read r).2 = r.past (l :: r.ofSection) := by
  simp only [Section.read, takeWhile_eq, past_cons h]
  rfl

theorem Section.close_read {r : Reading} {l : String} {ls : List String} (h : r.rest = l :: ls) :
    (Section.read r).1.close (r.past (l :: r.ofSection)) =
      Section.ofBlock ⟨r.line, l, r.ofSection⟩ := by
  simp only [Section.read, takeWhile_eq, Section.close, text_of_rest h, close_past]
  rfl

theorem Body.read_eq {ends : LineKind → Bool} {r : Reading} {l : String} {ls : List String}
    (h : r.rest = l :: ls) (he : ends (Line.kind l) = false) :
    Body.read ends r = (Body.ofLines r.line (upTo ends r), r.past (upTo ends r)) := by
  have taken : r.rest.takeWhile (fun l => !ends (Line.kind l)) = upTo ends r := rfl
  simp only [Body.read, takeWhile_eq, taken]
  rw [upTo_of_goes h he, text_of_rest h, close_past]
  rfl

/-- Lines that end a content are method lines, all of them, and possibly status lines. -/
structure EndsContent (ends : LineKind → Bool) : Prop where
  method : ends .method = true
  only : ∀ k, ends k = true → k = .method ∨ k = .status

theorem endsRequest_endsContent : EndsContent LineKind.endsRequest :=
  ⟨rfl, fun k h => by cases k <;> simp_all [LineKind.endsRequest]⟩

theorem method_endsContent : EndsContent (· == .method) :=
  ⟨rfl, fun k h => .inl (by simpa using h)⟩

namespace EndsContent

variable {ends : LineKind → Bool} {k : LineKind}

theorem endsSection (he : EndsContent ends) (h : ends k = true) : k.endsSection = true := by
  rcases he.only k h with rfl | rfl <;> rfl

theorem goes_of_plain (he : EndsContent ends) (h : k.endsSection = false) : ends k = false := by
  cases hk : ends k with
  | false => rfl
  | true => rw [he.endsSection hk] at h; cases h

theorem goes_of_ne (he : EndsContent ends) (hm : k ≠ .method) (hs : k ≠ .status) :
    ends k = false := by
  cases hk : ends k with
  | false => rfl
  | true => rcases he.only k hk with h | h <;> contradiction

end EndsContent

namespace Content

/-- Behind a section stands what may stand behind sections. -/
theorem endsSections_upTo {ends : LineKind → Bool} (he : EndsContent ends) (r : Reading) :
    EndsSections (upTo ends (r.past (upTo LineKind.endsSection r))) := by
  intro x hx
  obtain ⟨head, goes⟩ := head?_upTo hx
  have stopped := List.head?_dropWhile_not (fun l => !(Line.kind l).endsSection) r.rest
  rw [upTo, rest_past_takeWhile] at head
  rw [head] at stopped
  cases hk : Line.kind x with
  | sectionHeader => exact .inl rfl
  | status => exact .inr rfl
  | method => rw [hk, he.method] at goes; cases goes
  | keyValue => simp [hk, LineKind.endsSection] at stopped
  | blank => simp [hk, LineKind.endsSection] at stopped
  | body => simp [hk, LineKind.endsSection] at stopped

/-- The line ahead behind a blank starts a body, and only blanks are between. -/
theorem bodyAhead?_eq_some {ends : LineKind → Bool} (he : EndsContent ends) {r ahead : Reading}
    (h : r.bodyAhead? ends = some ahead) :
    ∃ xs l ls, xs <+: r.rest ∧ (∀ x ∈ xs, Line.kind x = .blank) ∧ ahead = r.past xs ∧
      ahead.rest = l :: ls ∧ ends (Line.kind l) = false ∧
      (Line.kind l = .body ∨ Line.kind l = .status) := by
  let xs := r.rest.takeWhile fun l => Line.kind l == .blank
  have skipped : r.skipBlank = r.past xs := by rw [skipBlank, takeWhile_eq]
  have stopped := List.head?_dropWhile_not (fun l => Line.kind l == .blank) r.rest
  rw [← rest_past_takeWhile, ← skipped] at stopped
  have same := eq_of_bodyAhead? h
  refine ⟨xs, ?_⟩
  cases hr : r.skipBlank.rest with
  | nil => simp [bodyAhead?, kind?, hr] at h
  | cons l ls =>
    rw [hr] at stopped
    have blank : Line.kind l ≠ .blank := by simpa using stopped
    have other : ¬ (Line.kind l == .keyValue || Line.kind l == .sectionHeader ||
        ends (Line.kind l)) = true := by
      intro other
      simp only [bodyAhead?, kind?_of_rest hr, other, if_true] at h
      cases h
    simp only [Bool.or_eq_true, beq_iff_eq, not_or, Bool.not_eq_true] at other
    obtain ⟨⟨keyValue, sectionHeader⟩, goes⟩ := other
    refine ⟨l, ls, List.takeWhile_prefix _, ?_, same.trans skipped, same ▸ hr, goes, ?_⟩
    · intro x hx
      simpa using List.mem_takeWhile_imp hx
    · cases hk : Line.kind l with
      | body => exact .inl rfl
      | status => exact .inr rfl
      | method => rw [hk, he.method] at goes; cases goes
      | keyValue => contradiction
      | sectionHeader => contradiction
      | blank => contradiction

/-- What a turn leaves to do: what it comes to, with the lines left, is what the content and the
lines before the turn come to. -/
def Turn.Lays (ends : LineKind → Bool) (c : Content) (r : Reading) : Turn → Prop
  | .done c' r' => c' = c.addLines r.line (upTo ends r) ∧ r' = r.past (upTo ends r)
  | .more c' r' => c'.body = .none ∧
      c'.addLines r'.line (upTo ends r') = c.addLines r.line (upTo ends r) ∧
      r'.past (upTo ends r') = r.past (upTo ends r)

variable {ends : LineKind → Bool} {c : Content} {r : Reading} {l : String} {ls : List String}

/-- A turn that takes the lines `xs` and leaves the rest to the next turns. -/
theorem Turn.lays_more {c' : Content} {xs : List String} (first : xs <+: r.rest)
    (goes : ∀ l ∈ xs, ends (Line.kind l) = false) (noBody : c'.body = .none)
    (same : c'.addLines (r.line + xs.length) (upTo ends (r.past xs)) =
      c.addLines r.line (xs ++ upTo ends (r.past xs))) :
    Turn.Lays ends c r (.more c' (r.past xs)) := by
  refine ⟨noBody, ?_, ?_⟩
  · rw [upTo_past first goes]
    exact same
  · rw [upTo_past first goes, ← past_append]

theorem turn_lays_sectionHeader (he : EndsContent ends) (noBody : c.body = .none)
    (h : r.rest = l :: ls) (hk : Line.kind l = .sectionHeader) :
    Turn.Lays ends c r (turn ends c r) := by
  have goes : ends (Line.kind l) = false := he.goes_of_ne (by simp [hk]) (by simp [hk])
  have step : turn ends c r = .more
      { c with sections := c.sections ++ [Section.ofBlock ⟨r.line, l, r.ofSection⟩] }
      (r.past (l :: r.ofSection)) := by
    rw [← Section.close_read h, ← Section.snd_read h]
    simp only [turn, kind?_of_rest h, goes]
    simp [hk]
  rw [step]
  have inside : ∀ x ∈ r.ofSection, (Line.kind x).endsSection = false := by
    intro x hx
    simpa using List.mem_takeWhile_imp hx
  apply Turn.lays_more
  · rw [h, Reading.ofSection, upTo, rest_next h]
    exact (List.prefix_cons_inj l).mpr (List.takeWhile_prefix _)
  · intro x hx
    rcases List.mem_cons.mp hx with rfl | hx
    · exact goes
    · exact he.goes_of_plain (inside x hx)
  · exact noBody
  · have ended := endsSections_upTo he r.next
    rw [← Reading.ofSection, ← past_cons h] at ended
    rw [List.cons_append, addLines_section hk inside ended noBody, List.length_cons]
    simp [Nat.add_assoc, Nat.add_comm 1]

theorem turn_lays_keyValue (he : EndsContent ends) (noBody : c.body = .none)
    (h : r.rest = l :: ls) (hk : Line.kind l = .keyValue) :
    Turn.Lays ends c r (turn ends c r) := by
  have goes : ends (Line.kind l) = false := he.goes_of_ne (by simp [hk]) (by simp [hk])
  have step : turn ends c r = .more { c with headers := c.headers.add r.line l } (r.past [l]) := by
    simp only [turn, kind?_of_rest h, goes, past_one h, Headers.read, text_of_rest h]
    simp [hk]
  rw [step]
  apply Turn.lays_more (leads_of_rest h)
  · intro x hx
    rw [List.mem_singleton.mp hx]
    exact goes
  · exact noBody
  · rw [List.singleton_append, addLines_keyValue hk]
    rfl

theorem turn_lays_blank (he : EndsContent ends) (noBody : c.body = .none)
    (h : r.rest = l :: ls) (hk : Line.kind l = .blank) :
    Turn.Lays ends c r (turn ends c r) := by
  have goes : ends (Line.kind l) = false := he.goes_of_ne (by simp [hk]) (by simp [hk])
  cases hb : r.next.bodyAhead? ends with
  | none =>
    have step : turn ends c r = .more c (r.past [l]) := by
      simp only [turn, kind?_of_rest h, goes, past_one h]
      simp [hk, hb]
    rw [step]
    apply Turn.lays_more (leads_of_rest h)
    · intro x hx
      rw [List.mem_singleton.mp hx]
      exact goes
    · exact noBody
    · rw [List.singleton_append, addLines_blank hk]
      rfl
  | some ahead =>
    obtain ⟨xs, x, more, first, blank, rfl, rest, goesOn, body⟩ := bodyAhead?_eq_some he hb
    have step : turn ends c r =
        .done { c with body := .ofLines (r.next.past xs).line (upTo ends (r.next.past xs)) }
          ((r.next.past xs).past (upTo ends (r.next.past xs))) := by
      simp only [turn, kind?_of_rest h, goes]
      simp [hk, hb, Body.read_eq rest goesOn]
    have taken : upTo ends r = l :: (xs ++ upTo ends (r.next.past xs)) := by
      rw [upTo_of_goes h goes, upTo_past first fun y hy => by
        rw [blank y hy, ← hk]
        exact goes]
    rw [step]
    constructor
    · rw [taken, addLines_blank hk, addLines_blanks blank, upTo_of_goes rest goesOn,
        addLines_body body]
      rfl
    · rw [taken, past_cons h, past_append]

theorem turn_lays_body (h : r.rest = l :: ls) (hk : Line.kind l = .body ∨ Line.kind l = .status)
    (goes : ends (Line.kind l) = false) :
    Turn.Lays ends c r (turn ends c r) := by
  have step : turn ends c r =
      .done { c with body := .ofLines r.line (upTo ends r) } (r.past (upTo ends r)) := by
    simp only [turn, kind?_of_rest h, goes, Body.read_eq h goes]
    rcases hk with hk | hk <;> simp [hk]
  rw [step]
  refine ⟨?_, rfl⟩
  rw [upTo_of_goes h goes, addLines_body hk]

/-- Every turn lays out the lines that it takes. -/
theorem turn_lays (he : EndsContent ends) (noBody : c.body = .none) :
    Turn.Lays ends c r (turn ends c r) := by
  cases h : r.rest with
  | nil =>
    have none : r.kind? = none := by simp [kind?, h]
    have left : upTo ends r = [] := by simp [upTo, h]
    simp only [turn, none]
    exact ⟨by rw [left, addLines_nil], by rw [left, past_nil]⟩
  | cons l ls =>
    cases ended : ends (Line.kind l) with
    | true =>
      have left : upTo ends r = [] := upTo_of_ends h ended
      simp only [turn, kind?_of_rest h, ended, if_true]
      exact ⟨by rw [left, addLines_nil], by rw [left, past_nil]⟩
    | false =>
      cases hk : Line.kind l with
      | method => rw [hk, he.method] at ended; cases ended
      | status => exact turn_lays_body h (.inr hk) ended
      | sectionHeader => exact turn_lays_sectionHeader he noBody h hk
      | keyValue => exact turn_lays_keyValue he noBody h hk
      | blank => exact turn_lays_blank he noBody h hk
      | body => exact turn_lays_body h (.inl hk) ended

/-- Reading a content lays out the lines up to its end. -/
theorem read_eq_addLines (he : EndsContent ends) (noBody : c.body = .none) :
    read ends c r = (c.addLines r.line (upTo ends r), r.past (upTo ends r)) := by
  fun_induction read ends c r with
  | case1 c r c' r' h =>
    have lays := turn_lays (r := r) he noBody
    rw [h] at lays
    exact Prod.ext lays.1 lays.2
  | case2 c r c' r' h ih =>
    have lays := turn_lays (r := r) he noBody
    rw [h] at lays
    rw [ih lays.1, lays.2.1, lays.2.2]

end Content

end HurlAssist
