import HurlAssist.Api.Template
import HurlAssist.Proofs.Text.Cuts
import HurlAssist.Proofs.Text.Languages

/-!
What it means that a template matches a path. The parts of a template are a pattern, and the test
searches the path for a text of the pattern's language (`fitsSomewhere_iff`). The loop that goes
from one opening brace to the next finds the placeholders that stand in the template
(`Scanned.mem_spans`), so the language is what comes out of the template when each placeholder,
wherever it stands, is filled and every other character is kept (`Scanned.fillings_eq`).
-/

namespace HurlAssist.Api

open Text

/-! The language of a pattern. -/

def Piece.language : Piece → Language Char
  | char c => {[c]}
  | placeholder => oneOrMore isFillChar

/-- What the parts stand for, one after the other. -/
def language (ps : List Piece) : Language Char := (ps.map Piece.language).prod

theorem language_cons (p : Piece) (ps : List Piece) :
    language (p :: ps) = p.language * language ps := by
  rw [language, List.map_cons, List.prod_cons, language]

theorem language_singleton (p : Piece) : language [p] = p.language := by
  rw [language, List.map_singleton, List.prod_singleton]

theorem language_append (ps qs : List Piece) :
    language (ps ++ qs) = language ps * language qs := by
  rw [language, List.map_append, List.prod_append, language, language]

theorem language_map_char (text : List Char) : language (text.map .char) = {text} := by
  induction text with
  | nil => rfl
  | cons c text ih =>
    rw [List.map_cons, language_cons, ih]
    exact Set.image2_singleton

theorem mem_afterFill {cs rest : List Char} :
    rest ∈ afterFill cs ↔ ∃ fill ∈ oneOrMore isFillChar, fill ++ rest = cs := by
  induction cs with
  | nil =>
    constructor
    · intro h
      cases h
    · rintro ⟨fill, ⟨ne, -⟩, split⟩
      exact absurd (List.append_eq_nil_iff.mp split).1 ne
  | cons c cs ih =>
    rw [afterFill]
    constructor
    · intro h
      split at h
      · rename_i hc
        rcases List.mem_cons.mp h with rfl | h
        · exact ⟨[c], ⟨List.cons_ne_nil c [], by simpa using hc⟩, rfl⟩
        · obtain ⟨fill, ⟨-, all⟩, rfl⟩ := ih.mp h
          exact ⟨c :: fill, ⟨List.cons_ne_nil c fill, by simpa using ⟨hc, all⟩⟩, rfl⟩
      · cases h
    · rintro ⟨_ | ⟨d, fill⟩, ⟨ne, all⟩, split⟩
      · exact absurd rfl ne
      · obtain ⟨rfl, rfl⟩ := List.cons_eq_cons.mp split
        rw [if_pos (all d List.mem_cons_self), List.mem_cons]
        cases fill with
        | nil => exact .inl rfl
        | cons e fill =>
          have rest : ∀ c ∈ e :: fill, isFillChar c = true :=
            fun c hc => all c (List.mem_cons_of_mem d hc)
          exact .inr (ih.mpr ⟨e :: fill, ⟨List.cons_ne_nil e fill, rest⟩, rfl⟩)

theorem fits_iff {ps : List Piece} {cs : List Char} :
    fits ps cs = true ↔ ∃ s ∈ language ps, s <+: cs := by
  induction ps generalizing cs with
  | nil =>
    have here : ∃ s ∈ language [], s <+: cs := ⟨[], rfl, List.nil_prefix⟩
    exact iff_of_true rfl here
  | cons p ps ih =>
    rw [language_cons]
    cases p with
    | char p =>
      constructor
      · intro h
        cases cs with
        | nil => cases h
        | cons c cs =>
          rw [fits, Bool.and_eq_true, beq_iff_eq, ih] at h
          obtain ⟨rfl, s, hs, front⟩ := h
          exact ⟨p :: s, ⟨[p], rfl, s, hs, rfl⟩, (List.prefix_cons_inj p).mpr front⟩
      · rintro ⟨_, ⟨_, rfl, s, hs, rfl⟩, rest, rfl⟩
        rw [List.append_assoc, List.singleton_append, fits, beq_self_eq_true, Bool.true_and, ih]
        exact ⟨s, hs, rest, rfl⟩
    | placeholder =>
      simp only [fits, List.any_eq_true, mem_afterFill, ih]
      constructor
      · rintro ⟨_, ⟨fill, hfill, rfl⟩, s, hs, rest, rfl⟩
        exact ⟨fill ++ s, ⟨fill, hfill, s, hs, rfl⟩, rest, List.append_assoc fill s rest⟩
      · rintro ⟨_, ⟨fill, hfill, s, hs, rfl⟩, rest, rfl⟩
        exact ⟨s ++ rest, ⟨fill, hfill, (List.append_assoc fill s rest).symm⟩, s, hs, rest, rfl⟩

theorem fitsSomewhere_iff {ps : List Piece} {cs : List Char} :
    fitsSomewhere ps cs = true ↔ ∃ s ∈ language ps, s <:+: cs := by
  induction cs with
  | nil => simp only [fitsSomewhere, fits_iff, List.prefix_nil, List.infix_nil]
  | cons c cs ih =>
    simp only [fitsSomewhere, Bool.or_eq_true, fits_iff, ih, List.infix_cons_iff, and_or_left,
      exists_or]

/-! The placeholders that stand in a template. -/

/-- A name between braces. -/
def braced (name : List Char) : List Char := '\x7b' :: (name ++ ['\x7d'])

/-- From one place of the template to another stands a name between braces. -/
def PlaceholderAt (t : List Char) (start stop : Nat) : Prop :=
  ∃ name ∈ many isNameChar, braced name <+: t.drop start ∧ stop = start + (braced name).length

theorem length_braced (name : List Char) : (braced name).length = name.length + 2 := by
  simp [braced]

theorem opening_not_mem_name {name : List Char} (named : name ∈ many isNameChar) :
    '\x7b' ∉ name ++ ['\x7d'] := by
  have other : isNameChar '\x7b' = false := by decide +kernel
  intro h
  rcases List.mem_append.mp h with h | h
  · rw [named _ h] at other
    cases other
  · exact absurd h (by decide)

/-- The name of a placeholder is what stands before the next closing brace. -/
theorem takeWhile_of_braced {name cs : List Char} (named : name ∈ many isNameChar)
    (h : braced name <+: '\x7b' :: cs) : cs.takeWhile (· != '\x7d') = name := by
  have other : isNameChar '\x7d' = false := by decide +kernel
  have free : '\x7d' ∉ name := by
    intro h
    rw [named _ h] at other
    cases other
  obtain ⟨after, split⟩ := h
  have parts : name ++ '\x7d' :: after = cs := by
    rw [← List.tail_eq_of_cons_eq split]
    simp
  rw [← parts, takeWhile_append_mark free]

section

variable {x t : List Char} {a b : Nat}

theorem PlaceholderAt.getElem?_start (h : PlaceholderAt t a b) : t[a]? = some '\x7b' := by
  obtain ⟨name, -, ⟨after, parts⟩, -⟩ := h
  rw [← List.head?_drop, ← parts]
  rfl

/-- Between its two ends a placeholder has no other opening brace. -/
theorem PlaceholderAt.not_start {k : Nat} (h : PlaceholderAt t a b) (above : a < k)
    (below : k < b) : t[k]? ≠ some '\x7b' := by
  obtain ⟨name, named, ⟨after, parts⟩, rfl⟩ := h
  obtain ⟨n, rfl⟩ : ∃ n, k = a + (n + 1) := ⟨k - a - 1, by omega⟩
  rw [← List.getElem?_drop, ← parts, braced, List.cons_append, List.getElem?_cons_succ,
    List.getElem?_append_left]
  · exact fun here => opening_not_mem_name named (List.mem_of_getElem? here)
  · rw [length_braced] at below
    simp
    omega

/-- Two placeholders are the same one, or one ends before the other starts. -/
theorem PlaceholderAt.le_start {a' b' : Nat} (h : PlaceholderAt t a b) (h' : PlaceholderAt t a' b')
    (later : a < a') : b ≤ a' := by
  by_contra inside
  exact h.not_start later (by omega) h'.getElem?_start

theorem PlaceholderAt.start_add_two_le (h : PlaceholderAt t a b) : a + 2 ≤ b := by
  obtain ⟨name, -, -, rfl⟩ := h
  rw [length_braced]
  omega

/-- From its start on, a placeholder can be read in one way only. -/
theorem PlaceholderAt.stop_unique {b' : Nat} (h : PlaceholderAt t a b) (h' : PlaceholderAt t a b') :
    b = b' := by
  have opening := h.getElem?_start
  obtain ⟨name, named, front, rfl⟩ := h
  obtain ⟨name', named', front', rfl⟩ := h'
  rw [← List.head?_drop] at opening
  obtain ⟨cs, split⟩ := List.head?_eq_some_iff.mp opening
  rw [split] at front front'
  rw [← takeWhile_of_braced named front, ← takeWhile_of_braced named' front']

theorem PlaceholderAt.stop_le (h : PlaceholderAt t a b) : b ≤ t.length := by
  obtain ⟨name, -, front, rfl⟩ := h
  have shorter := front.length_le
  rw [List.length_drop, length_braced] at shorter
  rw [length_braced]
  omega

theorem placeholderAt_append_left (bound : b ≤ x.length) :
    PlaceholderAt (x ++ t) a b ↔ PlaceholderAt x a b := by
  constructor
  · rintro ⟨name, named, front, rfl⟩
    refine ⟨name, named, ?_, rfl⟩
    rw [List.drop_append_of_le_length (by omega)] at front
    exact List.prefix_of_prefix_length_le front (List.prefix_append _ t) (by simp; omega)
  · rintro ⟨name, named, front, rfl⟩
    refine ⟨name, named, ?_, rfl⟩
    rw [List.drop_append_of_le_length (by omega)]
    exact front.trans (List.prefix_append _ t)

theorem placeholderAt_append_right :
    PlaceholderAt (x ++ t) (x.length + a) (x.length + b) ↔ PlaceholderAt t a b := by
  simp only [PlaceholderAt, List.drop_length_add_append, Nat.add_assoc, Nat.add_left_cancel_iff]

/-- A placeholder behind the first of two texts is one of the second text. -/
theorem PlaceholderAt.of_right (h : PlaceholderAt (x ++ t) a b) (behind : x.length ≤ a) :
    ∃ i j, a = x.length + i ∧ b = x.length + j ∧ PlaceholderAt t i j := by
  obtain ⟨i, rfl⟩ := Nat.exists_eq_add_of_le behind
  obtain ⟨j, rfl⟩ : ∃ j, b = x.length + j := by
    obtain ⟨name, -, -, rfl⟩ := h
    exact ⟨i + (braced name).length, Nat.add_assoc _ _ _⟩
  exact ⟨i, j, rfl, rfl, placeholderAt_append_right.mp h⟩

/-- No placeholder of the two texts together stands on both sides of the place where they meet. -/
def Apart (x t : List Char) : Prop :=
  ∀ start stop, PlaceholderAt (x ++ t) start stop → stop ≤ x.length ∨ x.length ≤ start

/-- With this text behind it, no placeholder starts in the text `x`. -/
def Literal (x t : List Char) : Prop :=
  ∀ start stop, PlaceholderAt (x ++ t) start stop → x.length ≤ start

theorem not_placeholderAt_of_not_mem (free : '\x7b' ∉ t) (a b : Nat) : ¬ PlaceholderAt t a b :=
  fun h => free (List.mem_of_getElem? h.getElem?_start)

theorem literal_of_not_mem (free : '\x7b' ∉ x) : Literal x t := by
  intro a b h
  by_contra inside
  have opening := h.getElem?_start
  rw [List.getElem?_append_left (by omega)] at opening
  exact free (List.mem_of_getElem? opening)

/-- At the opening brace in front of this text no placeholder starts. -/
def Unclosed (after : List Char) : Prop := ∀ stop, ¬ PlaceholderAt ('\x7b' :: after) 0 stop

theorem literal_of_unclosed (free : '\x7b' ∉ x) (unclosed : Unclosed t) :
    Literal (x ++ ['\x7b']) t := by
  intro a b h
  rw [← List.append_cons] at h
  obtain ⟨i, j, rfl, rfl, right⟩ := h.of_right (literal_of_not_mem free a b h)
  cases i with
  | zero => exact absurd right (unclosed j)
  | succ i =>
    rw [List.length_append, List.length_singleton]
    omega

theorem placeholderAt_braced {name : List Char} (named : name ∈ many isNameChar) :
    PlaceholderAt (braced name ++ t) 0 (braced name).length :=
  ⟨name, named, List.prefix_append _ t, (Nat.zero_add _).symm⟩

/-- A placeholder is the name between braces that comes first, or it stands behind that. -/
theorem PlaceholderAt.of_braced {name : List Char} (named : name ∈ many isNameChar)
    (h : PlaceholderAt (braced name ++ t) a b) :
    a = 0 ∧ b = (braced name).length ∨ (braced name).length ≤ a := by
  have first : PlaceholderAt (braced name ++ t) 0 _ := placeholderAt_braced named
  rcases Nat.eq_zero_or_pos a with rfl | later
  · exact .inl ⟨rfl, h.stop_unique first⟩
  · exact .inr (first.le_start h later)

theorem apart_braced {name : List Char} (named : name ∈ many isNameChar) :
    Apart (braced name) t := by
  intro a b here
  rcases here.of_braced named with ⟨-, stop⟩ | behind
  · exact .inl stop.le
  · exact .inr behind

end

/-! What comes out of a template when its placeholders are filled. -/

/-- The text `s` is the template with `out k` in the place of its character at `k`: something of
what placeholders stand for in the place of each placeholder, and every other character itself. -/
structure Filled (t : List Char) (out : Nat → List Char) (s : List Char) : Prop where
  joined : s = (List.range t.length).flatMap out
  placeholder : ∀ start stop, PlaceholderAt t start stop →
    out start ∈ oneOrMore isFillChar ∧ ∀ k, start < k → k < stop → out k = []
  literal : ∀ k c, t[k]? = some c →
    (∀ start stop, PlaceholderAt t start stop → k < start ∨ stop ≤ k) → out k = [c]

/-- The texts that come out of the template. -/
def fillings (t : List Char) : Language Char := {s | ∃ out, Filled t out s}

/-- Only what stands for characters of the template matters. -/
theorem Filled.congr {t s : List Char} {out out' : Nat → List Char} (h : Filled t out s)
    (same : ∀ k < t.length, out' k = out k) : Filled t out' s where
  joined := by
    rw [h.joined]
    refine List.flatMap_congr fun k hk => ?_
    exact (same k (List.mem_range.mp hk)).symm
  placeholder a b here := by
    have bound := here.stop_le
    obtain ⟨fill, rest⟩ := h.placeholder a b here
    have start := here.start_add_two_le
    refine ⟨by rwa [same a (by omega)], fun k above below => ?_⟩
    rw [same k (by omega), rest k above below]
  literal k c hc outside := by
    obtain ⟨inside, -⟩ := List.getElem?_eq_some_iff.mp hc
    rw [same k inside, h.literal k c hc outside]

theorem getElem?_behind (x t : List Char) (k : Nat) : (x ++ t)[x.length + k]? = t[k]? := by
  rw [List.getElem?_append_right (Nat.le_add_right _ _), Nat.add_sub_cancel_left]

section

variable {x t : List Char} (apart : Apart x t)

include apart

/-- The text before the place where two texts meet is filled on its own. -/
theorem Filled.left {out : Nat → List Char} {s : List Char} (h : Filled (x ++ t) out s) :
    Filled x out ((List.range x.length).flatMap out) where
  joined := rfl
  placeholder a b here := h.placeholder a b ((placeholderAt_append_left here.stop_le).mpr here)
  literal k c hc outside := by
    obtain ⟨inside, -⟩ := List.getElem?_eq_some_iff.mp hc
    refine h.literal k c (by rw [List.getElem?_append_left inside, hc]) fun a b here => ?_
    rcases apart a b here with before | behind
    · exact outside a b ((placeholderAt_append_left before).mp here)
    · exact .inl (by omega)

/-- The text behind the place where two texts meet is filled on its own. -/
theorem Filled.right {out : Nat → List Char} {s : List Char} (h : Filled (x ++ t) out s) :
    Filled t (fun k => out (x.length + k))
      ((List.range t.length).flatMap fun k => out (x.length + k)) where
  joined := rfl
  placeholder a b here := by
    obtain ⟨fill, rest⟩ := h.placeholder _ _ (placeholderAt_append_right.mpr here)
    exact ⟨fill, fun k above below => rest _ (by omega) (by omega)⟩
  literal k c hc outside := by
    refine h.literal _ c ((getElem?_behind x t k).trans hc) fun a b here => ?_
    rcases apart a b here with before | behind
    · exact .inr (by omega)
    · obtain ⟨i, j, rfl, rfl, right⟩ := here.of_right behind
      have := outside i j right
      omega

/-- Two texts that are filled on their own are filled together. -/
theorem Filled.append {out : Nat → List Char} {u v : List Char} (left : Filled x out u)
    (right : Filled t (fun k => out (x.length + k)) v) : Filled (x ++ t) out (u ++ v) where
  joined := by
    rw [left.joined, right.joined, List.length_append, List.range_add, List.flatMap_append,
      List.flatMap_map]
  placeholder a b here := by
    rcases apart a b here with before | behind
    · exact left.placeholder a b ((placeholderAt_append_left before).mp here)
    · obtain ⟨i, j, rfl, rfl, later⟩ := here.of_right behind
      obtain ⟨fill, rest⟩ := right.placeholder i j later
      refine ⟨fill, fun k above below => ?_⟩
      obtain ⟨n, rfl⟩ := Nat.exists_eq_add_of_le (show x.length ≤ k by omega)
      exact rest n (by omega) (by omega)
  literal k c hc outside := by
    by_cases inside : k < x.length
    · rw [List.getElem?_append_left inside] at hc
      refine left.literal k c hc fun a b here => ?_
      exact outside a b ((placeholderAt_append_left here.stop_le).mpr here)
    · obtain ⟨n, rfl⟩ := Nat.exists_eq_add_of_le (Nat.le_of_not_lt inside)
      refine right.literal n c ((getElem?_behind x t n).symm.trans hc) fun i j here => ?_
      have := outside _ _ (placeholderAt_append_right.mpr here)
      omega

/-- Where no placeholder stands on both sides of a place, the text before it and the text after it
are filled on their own. -/
theorem fillings_append : fillings (x ++ t) = fillings x * fillings t := by
  ext s
  constructor
  · rintro ⟨out, h⟩
    refine ⟨_, ⟨out, h.left apart⟩, _, ⟨_, h.right apart⟩, ?_⟩
    rw [h.joined, List.length_append, List.range_add, List.flatMap_append, List.flatMap_map]
  · rintro ⟨u, ⟨out, left⟩, v, ⟨out', right⟩, rfl⟩
    let both := fun k => if k < x.length then out k else out' (k - x.length)
    have onLeft : Filled x both u := left.congr fun k inside => if_pos inside
    have onRight : Filled t (fun k => both (x.length + k)) v :=
      right.congr fun k _ => by simp [both]
    exact ⟨both, onLeft.append apart onRight⟩

end

theorem flatMap_getElem? (t : List Char) :
    (List.range t.length).flatMap (fun k => t[k]?.toList) = t := by
  induction t with
  | nil => rfl
  | cons c t ih =>
    rw [List.length_cons, List.range_succ_eq_map, List.flatMap_cons, List.flatMap_map]
    simp [ih]

/-- A text without placeholders is kept as it is. -/
theorem fillings_of_none {t : List Char} (none : ∀ a b, ¬ PlaceholderAt t a b) :
    fillings t = {t} := by
  ext s
  constructor
  · rintro ⟨out, filled⟩
    calc
      s = (List.range t.length).flatMap out := filled.joined
      _ = (List.range t.length).flatMap (fun k => t[k]?.toList) := by
        refine List.flatMap_congr fun k hk => ?_
        have here : t[k]? = some (t.get ⟨k, List.mem_range.mp hk⟩) := by simp
        rw [filled.literal k _ here fun a b h => absurd h (none a b), here, Option.toList_some]
      _ = t := flatMap_getElem? t
  · rintro rfl
    refine ⟨fun k => s[k]?.toList, (flatMap_getElem? s).symm, fun a b h => absurd h (none a b), ?_⟩
    intro k c hc _
    rw [hc, Option.toList_some]

theorem Literal.fillings_append {x t : List Char} (h : Literal x t) :
    fillings (x ++ t) = {x} * fillings t := by
  have none : ∀ a b, ¬ PlaceholderAt x a b := by
    intro a b here
    have start := here.start_add_two_le
    have stop := here.stop_le
    have behind := h a b ((placeholderAt_append_left stop).mpr here)
    omega
  rw [Api.fillings_append fun a b here => .inr (h a b here), fillings_of_none none]

theorem fillings_braced {name : List Char} (named : name ∈ many isNameChar) :
    fillings (braced name) = oneOrMore isFillChar := by
  have first : PlaceholderAt (braced name ++ []) 0 _ := placeholderAt_braced named
  rw [List.append_nil] at first
  have only : ∀ a b, PlaceholderAt (braced name) a b → a = 0 ∧ b = (braced name).length := by
    intro a b here
    have start := here.start_add_two_le
    have stop := here.stop_le
    rw [← List.append_nil (braced name)] at here
    rcases here.of_braced named with whole | behind
    · exact whole
    · omega
  have joined (out : Nat → List Char) (rest : ∀ k, 0 < k → k < (braced name).length → out k = []) :
      (List.range (braced name).length).flatMap out = out 0 := by
    rw [length_braced, List.range_succ_eq_map, List.flatMap_cons, List.flatMap_map,
      List.flatMap_eq_nil_iff.mpr, List.append_nil]
    intro k hk
    rw [List.mem_range] at hk
    exact rest (k + 1) (Nat.succ_pos k) (by rw [length_braced]; omega)
  -- All that the placeholder is filled with stands at its first character.
  ext s
  constructor
  · rintro ⟨out, h⟩
    obtain ⟨fill, rest⟩ := h.placeholder 0 _ first
    rw [h.joined, joined out rest]
    exact fill
  · intro hs
    have rest : ∀ k, 0 < k → k < (braced name).length → (if k = 0 then s else []) = [] :=
      fun k above _ => if_neg (by omega)
    refine ⟨fun k => if k = 0 then s else [], (joined _ rest).symm, ?_, ?_⟩
    · rintro a b here
      obtain ⟨rfl, rfl⟩ := only a b here
      exact ⟨hs, rest⟩
    · intro k c hc outside
      obtain ⟨inside, -⟩ := List.getElem?_eq_some_iff.mp hc
      rcases outside 0 _ first with before | behind <;> omega

/-! The loop that finds the placeholders. -/

/-- The stretch as it stands in the template. -/
def Stretch.text : Stretch → List Char
  | literal text => text
  | placeholder name => braced name

/-- What one turn does, by what stands at the first opening brace. -/
theorem turn_cases (t : List Char) :
    (turn t = none ∧ '\x7b' ∉ t) ∨
    (∃ before name rest, '\x7b' ∉ before ∧ name ∈ many isNameChar ∧
      t = before ++ (braced name ++ rest) ∧
      turn t = some ([.literal before, .placeholder name], rest)) ∨
    ∃ before after, '\x7b' ∉ before ∧ Unclosed after ∧ t = before ++ '\x7b' :: after ∧
      turn t = some ([.literal (before ++ ['\x7b'])], after) := by
  by_cases opened : '\x7b' ∈ t
  · right
    obtain ⟨before, after, rfl, free⟩ := List.eq_append_cons_of_mem opened
    simp only [turn, takeWhile_append_mark free, dropWhile_append_mark free]
    by_cases closed : '\x7d' ∈ after
    · obtain ⟨name, rest, rfl, nameFree⟩ := List.eq_append_cons_of_mem closed
      simp only [takeWhile_append_mark nameFree, dropWhile_append_mark nameFree]
      by_cases named : name.all isNameChar = true
      · left
        refine ⟨before, name, rest, free, List.all_eq_true.mp named, ?_, by rw [if_pos named]⟩
        simp [braced]
      · right
        refine ⟨before, _, free, ?_, rfl, by rw [if_neg named]⟩
        rintro stop ⟨name', named', front, -⟩
        rw [← takeWhile_of_braced named' front, takeWhile_append_mark nameFree] at named'
        exact named (List.all_eq_true.mpr named')
    · right
      rw [dropWhile_of_no_mark closed]
      refine ⟨before, after, free, ?_, rfl, rfl⟩
      rintro stop ⟨name, -, ⟨rest, split⟩, -⟩
      apply closed
      rw [← List.tail_eq_of_cons_eq split]
      simp
  · left
    simp only [turn, dropWhile_of_no_mark opened, true_and]
    exact opened

theorem scan_of_turn {t rest : List Char} {found : List Stretch}
    (h : turn t = some (found, rest)) : scan t = found ++ scan rest := by
  rw [scan]
  split
  · rename_i none
    rw [none] at h
    cases h
  · rename_i here
    rw [here] at h
    cases h
    rfl

/-- What the loop makes of a text, by what stands at the first opening brace. -/
inductive Scanned : List Char → List Stretch → Prop
  | done {t : List Char} (free : '\x7b' ∉ t) : Scanned t [.literal t]
  | found {before name rest : List Char} {stretches : List Stretch} (free : '\x7b' ∉ before)
      (named : name ∈ many isNameChar) (more : Scanned rest stretches) :
      Scanned (before ++ (braced name ++ rest)) (.literal before :: .placeholder name :: stretches)
  | skipped {before after : List Char} {stretches : List Stretch} (free : '\x7b' ∉ before)
      (unclosed : Unclosed after) (more : Scanned after stretches) :
      Scanned (before ++ '\x7b' :: after) (.literal (before ++ ['\x7b']) :: stretches)

theorem scanned_scan (t : List Char) : Scanned t (scan t) := by
  fun_induction scan t with
  | case1 t ended =>
    rcases turn_cases t with ⟨-, free⟩ | ⟨_, _, _, _, _, rfl, here⟩ | ⟨_, _, _, _, rfl, here⟩
    · exact .done free
    · rw [here] at ended
      cases ended
    · rw [here] at ended
      cases ended
  | case2 t found rest step _ ih =>
    rcases turn_cases t with ⟨none, -⟩ | ⟨before, name, rest', free, named, rfl, here⟩ |
      ⟨before, after, free, unclosed, rfl, here⟩
    · rw [none] at step
      cases step
    · cases here.symm.trans step
      exact .found free named ih
    · cases here.symm.trans step
      exact .skipped free unclosed ih

namespace Scanned

variable {t : List Char} {stretches : List Stretch}

theorem flatMap_text (h : Scanned t stretches) : stretches.flatMap Stretch.text = t := by
  induction h with
  | done free => simp [Stretch.text]
  | found free named more ih => simp [Stretch.text, ih]
  | skipped free unclosed more ih => simp [Stretch.text, ih]

/-- The texts that come out of a template are those of the pattern that its parts are. -/
theorem fillings_eq (h : Scanned t stretches) :
    fillings t = language (stretches.flatMap Stretch.pieces) := by
  induction h with
  | @done t free =>
    rw [fillings_of_none (not_placeholderAt_of_not_mem free), List.flatMap_singleton,
      Stretch.pieces, language_map_char]
  | @found before name rest stretches free named more ih =>
    have literal : Literal before (braced name ++ rest) := literal_of_not_mem free
    -- The text in front is kept, the placeholder is filled, and what is left goes on its own.
    rw [literal.fillings_append, fillings_append (apart_braced named), ih, fillings_braced named]
    simp only [List.flatMap_cons, Stretch.pieces, language_append, language_map_char,
      language_singleton]
    rfl
  | @skipped before after stretches free unclosed more ih =>
    have literal := literal_of_unclosed free unclosed
    rw [List.append_cons, literal.fillings_append, ih, List.flatMap_cons, Stretch.pieces,
      language_append, language_map_char]

end Scanned

/-- Where the placeholders stand if the first stretch starts at `n`. -/
def spans : Nat → List Stretch → List (Nat × Nat)
  | _, [] => []
  | n, .literal text :: more => spans (n + text.length) more
  | n, .placeholder name :: more =>
    (n, n + (braced name).length) :: spans (n + (braced name).length) more

theorem le_of_mem_spans {n a b : Nat} {stretches : List Stretch} (h : (a, b) ∈ spans n stretches) :
    n ≤ a := by
  fun_induction spans n stretches with
  | case1 => cases h
  | case2 n text more ih => exact (Nat.le_add_right _ _).trans (ih h)
  | case3 n name more ih =>
    rcases List.mem_cons.mp h with here | later
    · cases here
      exact Nat.le_refl _
    · exact (Nat.le_add_right _ _).trans (ih later)

theorem pairwise_spans (n : Nat) (stretches : List Stretch) :
    (spans n stretches).Pairwise fun one next => one.2 ≤ next.1 := by
  fun_induction spans n stretches with
  | case1 => exact .nil
  | case2 n text more ih => exact ih
  | case3 n name more ih => exact .cons (fun next later => le_of_mem_spans later) ih

/-- Behind a text in which no placeholder starts, the placeholders are those of the rest. -/
theorem Literal.exists_placeholderAt {x t : List Char} {n a b : Nat} (h : Literal x t) :
    (∃ i j, a = n + i ∧ b = n + j ∧ PlaceholderAt (x ++ t) i j) ↔
      ∃ i j, a = n + x.length + i ∧ b = n + x.length + j ∧ PlaceholderAt t i j := by
  constructor
  · rintro ⟨i, j, rfl, rfl, here⟩
    obtain ⟨i, j, rfl, rfl, right⟩ := here.of_right (h i j here)
    exact ⟨i, j, (Nat.add_assoc ..).symm, (Nat.add_assoc ..).symm, right⟩
  · rintro ⟨i, j, rfl, rfl, right⟩
    exact ⟨_, _, Nat.add_assoc .., Nat.add_assoc .., placeholderAt_append_right.mpr right⟩

theorem Scanned.mem_spans {t : List Char} {stretches : List Stretch} (h : Scanned t stretches)
    {n a b : Nat} :
    (a, b) ∈ spans n stretches ↔ ∃ i j, a = n + i ∧ b = n + j ∧ PlaceholderAt t i j := by
  induction h generalizing n with
  | @done t free =>
    simp [spans, not_placeholderAt_of_not_mem free]
  | @found before name rest stretches free named more ih =>
    have literal : Literal before (braced name ++ rest) := literal_of_not_mem free
    rw [literal.exists_placeholderAt]
    simp only [spans, List.mem_cons, ih, Prod.mk.injEq]
    constructor
    · rintro (⟨rfl, rfl⟩ | ⟨i, j, rfl, rfl, right⟩)
      · exact ⟨0, _, rfl, rfl, placeholderAt_braced named⟩
      · exact ⟨_, _, Nat.add_assoc .., Nat.add_assoc .., placeholderAt_append_right.mpr right⟩
    · rintro ⟨i, j, rfl, rfl, here⟩
      rcases here.of_braced named with ⟨rfl, rfl⟩ | behind
      · exact .inl ⟨rfl, rfl⟩
      · obtain ⟨i, j, rfl, rfl, right⟩ := here.of_right behind
        exact .inr ⟨i, j, (Nat.add_assoc ..).symm, (Nat.add_assoc ..).symm, right⟩
  | @skipped before after stretches free unclosed more ih =>
    have literal := literal_of_unclosed free unclosed
    rw [spans, ih, List.append_cons before '\x7b' after, literal.exists_placeholderAt]

/-- A template matches a path if somewhere in the path stands a text that comes out of the template
when each placeholder in it is filled and every other character is kept. The loop finds the
placeholders that stand in the template, all of them and no others, and no two of them overlap; all
that it takes makes up the template; and each turn leaves less of the template than was there. -/
theorem templateMatches_means :
    (∀ template path : String, templateMatches template path = true ↔
      ∃ s ∈ fillings template.toList, s <:+: path.toList) ∧
    ∀ t : List Char,
      (∀ start stop, (start, stop) ∈ spans 0 (scan t) ↔ PlaceholderAt t start stop) ∧
      (spans 0 (scan t)).Pairwise (fun one next => one.2 ≤ next.1) ∧
      (scan t).flatMap Stretch.text = t ∧
      ∀ found rest, turn t = some (found, rest) →
        rest.length < t.length ∧ scan t = found ++ scan rest := by
  refine ⟨?_, fun t => ⟨?_, pairwise_spans 0 _, ?_, ?_⟩⟩
  · intro template path
    rw [templateMatches_eq, fitsSomewhere_iff, pieces, ← (scanned_scan _).fillings_eq]
  · intro start stop
    rw [(scanned_scan t).mem_spans]
    simp
  · exact (scanned_scan t).flatMap_text
  · intro found rest step
    exact ⟨turn_lt step, scan_of_turn step⟩

/-- A brace in front of a placeholder is taken as it is, and the placeholder is filled. -/
theorem templateMatches_means_nested :
    (turn "\x7ba\x7bb\x7d".toList = some ([.literal ['\x7b']], "a\x7bb\x7d".toList) ∧
      "a\x7bb\x7d".toList.length < "\x7ba\x7bb\x7d".toList.length ∧
      scan "\x7ba\x7bb\x7d".toList = [.literal ['\x7b']] ++ scan "a\x7bb\x7d".toList) ∧
    (∀ start stop, PlaceholderAt "\x7ba\x7bb\x7d".toList start stop ↔ start = 2 ∧ stop = 5) ∧
    "\x7ba42".toList ∈ fillings "\x7ba\x7bb\x7d".toList ∧
    templateMatches "\x7ba\x7bb\x7d" "/\x7ba42/c" = true := by
  obtain ⟨fits, parts⟩ := templateMatches_means
  have step : turn "\x7ba\x7bb\x7d".toList = some ([.literal ['\x7b']], "a\x7bb\x7d".toList) := by
    decide +kernel
  have found : spans 0 (scan "\x7ba\x7bb\x7d".toList) = [(2, 5)] := by decide +kernel
  have only (start stop : Nat) :
      PlaceholderAt "\x7ba\x7bb\x7d".toList start stop ↔ start = 2 ∧ stop = 5 := by
    rw [← (parts _).1, found, List.mem_singleton, Prod.mk.injEq]
  have fill : ['4', '2'] ∈ oneOrMore isFillChar :=
    ⟨List.cons_ne_nil _ _, List.all_eq_true.mp (show ['4', '2'].all isFillChar = true by decide)⟩
  have filled : "\x7ba42".toList ∈ fillings "\x7ba\x7bb\x7d".toList := by
    refine ⟨fun k => [['\x7b'], ['a'], ['4', '2']].getD k [], rfl, ?_, ?_⟩
    · intro start stop here
      obtain ⟨rfl, rfl⟩ := (only start stop).mp here
      refine ⟨fill, fun k above below => ?_⟩
      obtain rfl | rfl : k = 3 ∨ k = 4 := by omega
      · rfl
      · rfl
    · intro k c here outside
      rcases outside 2 5 ((only 2 5).mpr ⟨rfl, rfl⟩) with before | behind
      · obtain rfl | rfl : k = 0 ∨ k = 1 := by omega
        · cases here
          rfl
        · cases here
          rfl
      · rw [List.getElem?_eq_none behind] at here
        cases here
  refine ⟨⟨step, (parts _).2.2.2 _ _ step⟩, only, filled, ?_⟩
  exact (fits _ _).mpr ⟨_, filled, ['/'], ['/', 'c'], rfl⟩

end HurlAssist.Api
