import HurlAssist.Proofs.Document.EntryLayout

/-!
What stands under a method or status line, by line numbers. Header lines and blanks come first. The
first other line starts the sections, if it is a section header, or else the body. Sections go on to
a status line, which starts a body behind them.
-/

namespace HurlAssist

open LineRange

/-- The number of the first line that is neither a header line nor blank. -/
def LineRange.topEnd? (ls : List String) (a b : Nat) : Option Nat :=
  first? (fun k => !(k == .keyValue || k == .blank)) ls a b

/-- From the first of these lines to the end of the last, if there is any. -/
def LineRange.spanOf? (ls : List String) : List Nat → Option Span
  | [] => none
  | n :: ns => some ⟨⟨n, 0⟩, ⟨ns.getLastD n, (ls.getD (ns.getLastD n) "").length⟩⟩

/-- The headers are the key/value lines from `a` up to before `b`. -/
structure HeadersOf (ls : List String) (a b : Nat) (h : Headers) : Prop where
  values : h.values =
    .ofList (((between ls a b).filter fun l => Line.kind l == .keyValue).map Line.keyValue)
  span : h.span = spanOf? ls (numbers (· == .keyValue) ls a b)

/-- There is a section for each section header from `a` up to before `b`. It goes on to the line
before the next one, or to the end. -/
structure SectionsOf (ls : List String) (a b : Nat) (ss : List Section) : Prop where
  starts : ss.map (·.span.start.line) = numbers (· == .sectionHeader) ls a b
  stops : ∀ (i : Nat) (s : Section), ss[i]? = some s →
    s.span.stop.line + 1 = ((numbers (· == .sectionHeader) ls a b)[i + 1]?).getD b
  lines : ∀ s ∈ ss, s.lines = between ls (s.span.start.line + 1) (s.span.stop.line + 1)

/-- The body is all lines from `a` up to before `b`. -/
structure BodyOf (ls : List String) (a b : Nat) (body : Body) : Prop where
  lines : body.lines = between ls a b
  span : body.span = some ⟨⟨a, 0⟩, ⟨b - 1, (ls.getD (b - 1) "").length⟩⟩

/-- The content of the lines from `a` up to before `b`: headers alone, or with a body, or with
sections, or with sections and a body behind them. -/
inductive ContentOf (ls : List String) (a b : Nat) : Content → Prop where
  | bare {h : Headers} (top : topEnd? ls a b = none) (headers : HeadersOf ls a b h) :
      ContentOf ls a b ⟨h, [], .none⟩
  | body {k : Nat} {h : Headers} {body : Body} (top : topEnd? ls a b = some k)
      (kind : kindAt? ls k ≠ some .sectionHeader) (headers : HeadersOf ls a k h)
      (lines : BodyOf ls k b body) : ContentOf ls a b ⟨h, [], body⟩
  | sections {k : Nat} {h : Headers} {ss : List Section} (top : topEnd? ls a b = some k)
      (kind : kindAt? ls k = some .sectionHeader) (headers : HeadersOf ls a k h)
      (plain : first? (· == .status) ls k b = none) (sections : SectionsOf ls k b ss) :
      ContentOf ls a b ⟨h, ss, .none⟩
  | sectionsBody {k q : Nat} {h : Headers} {ss : List Section} {body : Body}
      (top : topEnd? ls a b = some k) (kind : kindAt? ls k = some .sectionHeader)
      (headers : HeadersOf ls a k h) (behind : first? (· == .status) ls k b = some q)
      (sections : SectionsOf ls k q ss) (lines : BodyOf ls q b body) : ContentOf ls a b ⟨h, ss, body⟩

namespace HeadersOf

variable {ls : List String} {a b : Nat} {h : Headers}

theorem empty (ls : List String) (a : Nat) : HeadersOf ls a a ⟨.empty, none⟩ := by
  constructor
  · rw [between_self]
    rfl
  · rw [numbers_self]
    rfl

/-- A line that is no header line leaves the headers as they are. -/
theorem skip (of : HeadersOf ls a b h) {l : String} (le : a ≤ b) (hl : ls[b]? = some l)
    (other : Line.kind l ≠ .keyValue) : HeadersOf ls a (b + 1) h := by
  have no : (Line.kind l == .keyValue) = false := beq_false_of_ne other
  constructor
  · rw [of.values, between_succ le hl]
    simp [no]
  · rw [of.span, numbers_succ _ le hl, no]
    simp

/-- A header line is put in, and the region goes on to it. -/
theorem add (of : HeadersOf ls a b h) {l : String} (le : a ≤ b) (hl : ls[b]? = some l)
    (kv : Line.kind l = .keyValue) : HeadersOf ls a (b + 1) (h.add b l) := by
  have yes : (Line.kind l == .keyValue) = true := beq_of_eq kv
  constructor
  · rw [between_succ le hl]
    simp [Headers.add, of.values, yes, KeyValues.ofList]
  · have before (i : Nat) (hi : i ∈ numbers (· == .keyValue) ls a b) : i < b :=
      (mem_numbers.mp hi).2.1
    rw [numbers_succ _ le hl, yes, if_pos rfl]
    simp only [Headers.add, of.span, Span.onLine, Nat.max_eq_left (Nat.zero_le _)]
    cases earlier : numbers (· == .keyValue) ls a b with
    | nil => simp [spanOf?, hl]
    | cons n ns =>
      rw [earlier] at before
      have first := before n List.mem_cons_self
      have last := before (ns.getLastD n) List.getLastD_mem_cons
      rw [spanOf?, List.cons_append, spanOf?, List.getLastD_concat]
      simp only
      rw [Span.join_of_lt first last]
      simp [hl]

/-- The header lines among these are put in one after the other. -/
theorem addAll {xs : List String} (of : HeadersOf ls a b h) (le : a ≤ b) (stands : Stands ls b xs) :
    HeadersOf ls a (b + xs.length) (h.addAll (keyValueLines b xs)) := by
  induction xs generalizing b h with
  | nil => exact of
  | cons x xs ih =>
    rw [List.length_cons, ← Nat.add_assoc, Nat.add_right_comm]
    by_cases kv : Line.kind x = .keyValue
    · rw [Headers.addAll_keyValue kv]
      exact ih (of.add le stands.head kv) (Nat.le_succ_of_le le) stands.tail
    · rw [Headers.addAll_other kv]
      exact ih (of.skip le stands.head kv) (Nat.le_succ_of_le le) stands.tail

end HeadersOf

namespace Block

variable {ls : List String} {c : Block}

/-- The lines below the head of a block run up to where it stops. -/
theorem rest_eq_between (stands : Stands ls c.line c.lines) :
    c.rest = between ls (c.line + 1) c.stop :=
  (stands.tail.between_eq rfl).symm

/-- The last line of a block is the one before it stops. -/
theorem getElem?_last (stands : Stands ls c.line c.lines) : ls[c.stop - 1]? = some c.lastText := by
  have here := stands.getElem? (k := c.rest.length) (by simp [lines])
  have number : c.stop - 1 = c.line + c.rest.length := by
    simp only [stop]
    omega
  rw [number, here, lastText, List.getLastD_eq_getLast?, ← List.getLast?_cons,
    List.getLast?_eq_getElem?]
  rfl

/-- From a column of its head on, a block's region goes on to the end of its last line. -/
theorem span_eq (c : Block) {col : Nat} (h : col ≤ c.head.length) :
    c.span col = ⟨⟨c.line, col⟩, ⟨c.stop - 1, c.lastText.length⟩⟩ := by
  have le : c.line ≤ c.stop - 1 := by
    have := c.line_lt_stop
    omega
  simp only [span, Span.close, Span.onLine, Nat.max_eq_left le, Span.mk.injEq, Point.mk.injEq,
    true_and]
  split
  · rename_i single
    have none : c.rest = [] := by
      apply List.eq_nil_of_length_eq_zero
      simp only [stop] at single
      omega
    have only : c.lastText = c.head := by rw [lastText, none]; rfl
    rw [only, Nat.max_eq_left h]
  · rfl

end Block

section

variable {ls xs : List String} {n b : Nat}

theorem BodyOf.ofLines {x : String} (stands : Stands ls n (x :: xs))
    (hb : n + (x :: xs).length = b) : BodyOf ls n b (.ofLines n (x :: xs)) := by
  have stop : (⟨n, x, xs⟩ : Block).stop = b := by
    rw [List.length_cons] at hb
    simp only [Block.stop]
    omega
  have last := Block.getElem?_last (c := ⟨n, x, xs⟩) stands
  constructor
  · exact (stands.between_eq hb).symm
  · rw [stop] at last
    rw [Body.ofLines, Block.span_eq _ (Nat.zero_le _), stop, List.getD_eq_getElem?_getD, last]
    rfl

theorem SectionsOf.ofBlocks (stands : Stands ls n xs) (hb : n + xs.length = b) :
    SectionsOf ls n b
      ((Block.cut (fun l => Line.kind l == .sectionHeader) n xs).2.map Section.ofBlock) := by
  have starts : (Block.cut (fun l => Line.kind l == .sectionHeader) n xs).2.map Block.line =
      numbers (· == .sectionHeader) ls n b := by
    rw [Block.map_line_cut, stands.numbers_eq hb]
  constructor
  · rw [← starts, List.map_map]
    rfl
  · intro i s hs
    rw [List.getElem?_map, Option.map_eq_some_iff] at hs
    obtain ⟨c, hc, rfl⟩ := hs
    rw [← starts, List.getElem?_map, ← hb, ← Block.stop_cut hc]
    exact Block.stop_span _ _
  · intro s hs
    obtain ⟨c, hc, rfl⟩ := List.mem_map.mp hs
    have := Block.rest_eq_between (Block.stands_of_mem_cut stands hc)
    rw [← Block.stop_span c (Text.indent c.head.toList)] at this
    exact this

/-- Sections go on to the first status line, and what is left is a body. -/
theorem ContentOf.sectionsOf {a : Nat} {h : Headers} (top : topEnd? ls a b = some n)
    (kind : kindAt? ls n = some .sectionHeader) (headers : HeadersOf ls a n h)
    (stands : Stands ls n xs) (hb : n + xs.length = b) :
    ContentOf ls a b ⟨h, Content.sectionsOf n xs, Content.bodyBehind n xs⟩ := by
  rw [Content.sectionsOf, Content.bodyBehind]
  rcases stands.first?_cases hb (· == .status) with
    ⟨behind, first, all⟩ | ⟨before, x, rest, behind, upTo, first, standsUpTo, standsFrom, hb'⟩
  · simp only [bne, behind, all]
    exact .sections top kind headers first (.ofBlocks stands hb)
  · simp only [bne, behind, upTo]
    exact .sectionsBody top kind headers first (.ofBlocks standsUpTo rfl) (.ofLines standsFrom hb')

/-- The lines below a method or status line make the content that their numbers say. -/
theorem ContentOf.addLines (stands : Stands ls n xs) (hb : n + xs.length = b) :
    ContentOf ls n b (Content.empty.addLines n xs) := by
  have isTop : Content.isTop = fun l => !!(Line.kind l == .keyValue || Line.kind l == .blank) := by
    funext l
    rw [Bool.not_not, Content.isTop]
  have headers {ys : List String} (standsUpTo : Stands ls n ys) :
      HeadersOf ls n (n + ys.length) (Content.empty.headers.addAll (keyValueLines n ys)) :=
    (HeadersOf.empty ls n).addAll (Nat.le_refl n) standsUpTo
  rw [Content.addLines, isTop]
  rcases stands.first?_cases hb (fun k => !(k == .keyValue || k == .blank)) with
    ⟨behind, first, all⟩ | ⟨before, x, rest, behind, upTo, first, standsUpTo, standsFrom, hb'⟩
  · simp only [behind, all]
    exact .bare first (hb ▸ headers stands)
  · simp only [behind, upTo]
    have kind : kindAt? ls (n + before.length) = some (Line.kind x) := by
      rw [kindAt?, standsFrom.head]
      rfl
    split
    · rename_i header
      exact .sectionsOf first (kind.trans (congrArg some header)) (headers standsUpTo) standsFrom hb'
    · rename_i other
      apply ContentOf.body first _ (headers standsUpTo) (.ofLines standsFrom hb')
      intro header
      rw [kind] at header
      exact other (Option.some.inj header)

end

end HurlAssist
