import HurlAssist.Proofs.Document.SectionContents

/-!
The lines that capture names: the key/value lines of `[Captures]` sections of responses. The names
that are known on a line stand in the order in which lines above it first capture them
(`Document.variablesAt_inFirstOrder`).
-/

namespace HurlAssist

open LineRange

namespace Section

/-- The keys of the section's lines, each with the number of its line. -/
def numberedKeys (s : Section) : List (Nat × String) :=
  (keyValueLines (s.span.start.line + 1) s.lines).map fun l => (l.2, (Line.keyValue l.1).1)

theorem pairwise_numberedKeys (s : Section) : s.numberedKeys.Pairwise fun x y => x.1 < y.1 := by
  rw [numberedKeys, List.pairwise_map, keyValueLines]
  exact (pairwise_zipIdx _ s.lines).filter _

theorem map_snd_numberedKeys (s : Section) : s.numberedKeys.map Prod.snd =
    (s.lines.filter fun l => Line.kind l == .keyValue).map fun l => (Line.keyValue l).1 := by
  have texts : (keyValueLines (s.span.start.line + 1) s.lines).map Prod.fst =
      s.lines.filter fun l => Line.kind l == .keyValue := by
    rw [keyValueLines]
    conv_rhs => rw [← List.zipIdx_map_fst (s.span.start.line + 1) s.lines, List.filter_map]
    rfl
  rw [numberedKeys, ← texts, List.map_map, List.map_map]
  rfl

/-- A section keeps each key where it first stands. -/
theorem keys_ofBlock (b : Block) :
    (ofBlock b).keyValues.keys = ((ofBlock b).numberedKeys.map Prod.snd).eraseDups := by
  rw [map_snd_numberedKeys, ofBlock, KeyValues.keys_ofList, List.map_map]
  rfl

variable {ls : List String} {s : Section}

theorem LaidOut.mem_numberedKeys (laid : s.LaidOut ls) {i : Nat} {name : String} :
    (i, name) ∈ s.numberedKeys ↔ s.Has i ∧
      ∃ text, ls[i]? = some text ∧ Line.kind text = .keyValue ∧ (Line.keyValue text).1 = name := by
  have line {text : String} : (text, i) ∈ s.lines.zipIdx (s.span.start.line + 1) ↔
      s.Has i ∧ ls[i]? = some text := by
    have own : (text, i) ∈ s.lines.zipIdx (s.span.start.line + 1) ↔ s.line? i = some text := by
      rw [List.mk_mem_zipIdx_iff_le_and_getElem?_sub, line?, Option.ite_none_right_eq_some]
      rfl
    rw [own]
    by_cases has : s.Has i
    · rw [laid.line?_eq has]
      exact (and_iff_right has).symm
    · rw [laid.line?_eq_none has]
      constructor
      · intro none
        cases none
      · intro both
        exact absurd both.1 has
  simp only [numberedKeys, keyValueLines, List.mem_map, List.mem_filter, Prod.exists,
    Prod.mk.injEq, beq_iff_eq]
  constructor
  · rintro ⟨text, _, ⟨mem, kind⟩, rfl, named⟩
    obtain ⟨has, here⟩ := line.mp mem
    exact ⟨has, text, here, kind, named⟩
  · rintro ⟨has, text, here, kind, named⟩
    exact ⟨text, i, ⟨line.mpr ⟨has, here⟩, kind⟩, rfl, named⟩

end Section

namespace Document

variable {ls : List String} {d : Document}

/-- The line captures the name: it is a key/value line of a response's `[Captures]` section, and its
key is the name. -/
def CapturesOn (d : Document) (ls : List String) (line : Nat) (name : String) : Prop :=
  ∃ s ∈ d.responseSections, s.isCaptures = true ∧ s.Has line ∧
    ∃ text, ls[line]? = some text ∧ Line.kind text = .keyValue ∧ (Line.keyValue text).1 = name

/-- All captures of names in the order of the file, each with the number of its line. -/
def numberedCaptures (d : Document) : List (Nat × String) :=
  (d.responseSections.filter Section.isCaptures).flatMap Section.numberedKeys

/-- Known on a line are the first of the names that are captured. -/
theorem variablesAt_front (h : ofLines ls = .ok d) (line : Nat) :
    d.variablesAt line <+: (Section.captured d.responseSections).eraseDups := by
  obtain ⟨ordered, inOrder⟩ := sections_inOrder h
  have above : d.responseSections.filter (·.span.stop.line < line) <+: d.responseSections := by
    apply filter_prefix_of_pairwise
    apply inOrder.imp_of_mem
    intro s t _ ht lt
    have := ordered t ht
    rw [decide_eq_true_eq, decide_eq_true_eq]
    omega
  obtain ⟨below, parts⟩ := above
  rw [variablesAt_eq]
  apply eraseDups_prefix
  rw [← parts, Section.captured_append, parts]
  exact List.prefix_append _ _

section

variable (h : ofLines ls = .ok d)

include h

theorem mem_numberedCaptures {line : Nat} {name : String} :
    (line, name) ∈ d.numberedCaptures ↔ d.CapturesOn ls line name := by
  simp only [numberedCaptures, CapturesOn, List.mem_flatMap, List.mem_filter, and_assoc]
  apply exists_congr
  intro s
  apply and_congr_right
  intro hs
  rw [(section_laidOut h hs).mem_numberedKeys]

theorem pairwise_numberedCaptures : d.numberedCaptures.Pairwise fun x y => x.1 < y.1 := by
  rw [numberedCaptures, List.pairwise_flatMap]
  constructor
  · intro s _
    exact s.pairwise_numberedKeys
  · apply ((sections_inOrder h).2.filter _).imp_of_mem
    rintro s t hs ht lt ⟨i, _⟩ hx ⟨j, _⟩ hy
    have first := section_laidOut h (List.mem_filter.mp hs).1
    have second := section_laidOut h (List.mem_filter.mp ht).1
    have above := (first.mem_numberedKeys.mp hx).1
    have below := (second.mem_numberedKeys.mp hy).1
    exact (above.2.trans_lt lt).trans below.1

theorem keys_eq_of_mem {s : Section} (hs : s ∈ d.responseSections) :
    s.keyValues.keys = (s.numberedKeys.map Prod.snd).eraseDups := by
  obtain ⟨c, hc, hs⟩ := exists_content_of_mem_responseSections hs
  obtain ⟨b, rfl, -, -, -⟩ := exists_sectionBlock h hc hs
  exact Section.keys_ofBlock b

theorem eraseDups_captured : (Section.captured d.responseSections).eraseDups =
    (d.numberedCaptures.map Prod.snd).eraseDups := by
  have keys : Section.captured d.responseSections =
      (d.responseSections.filter Section.isCaptures).flatMap
        fun s => (s.numberedKeys.map Prod.snd).eraseDups := by
    rw [Section.captured, List.flatMap_def, List.flatMap_def]
    congr 1
    apply List.map_congr_left
    intro s hs
    exact keys_eq_of_mem h (List.mem_filter.mp hs).1
  rw [keys, eraseDups_flatMap_eraseDups, numberedCaptures, List.map_flatMap]

/-- The names known on a line, in the order in which lines above it first capture them. -/
theorem variablesAt_inFirstOrder (line : Nat) :
    InFirstOrder (fun i name => i < line ∧ d.CapturesOn ls i name) (d.variablesAt line) := by
  have all := inFirstOrder_eraseDups (pairwise_numberedCaptures h)
  rw [← eraseDups_captured h] at all
  simp only [mem_numberedCaptures h] at all
  constructor
  · intro name known
    obtain ⟨s, hs, captures, above, key⟩ := mem_variablesAt.mp known
    rw [keys_eq_of_mem h hs, List.mem_eraseDups] at key
    obtain ⟨⟨i, _⟩, mem, rfl⟩ := List.mem_map.mp key
    obtain ⟨has, named⟩ := (section_laidOut h hs).mem_numberedKeys.mp mem
    exact ⟨i, has.2.trans_lt above, s, hs, captures, has, named⟩
  · apply (all.of_front (variablesAt_front h line)).pairwise.imp
    rintro a b before j ⟨above, there⟩
    obtain ⟨i, lt, here⟩ := before j there
    exact ⟨i, lt, lt.trans above, here⟩

end

end Document

end HurlAssist
