import HurlAssist.Proofs.Api.Listed
import HurlAssist.Proofs.Api.Placeholders

/-!
Templates as paths, which is how they are offered. A template is recognised in its own text if its
placeholders can stand for their names (`exists_filling_inside`). A name has letters of all scripts,
and a placeholder stands for ASCII alone, so that this can fail between two other parts of a template
(`fits_of_templateMatches_slashed`).
-/

namespace HurlAssist.Api

open Text

/-- In the template stands a placeholder of that name, with text in front of it and behind it. -/
def HasInside (t name : List Char) : Prop :=
  ∃ front behind, front ≠ [] ∧ behind ≠ [] ∧ t = front ++ (braced name ++ behind)

/-- A placeholder inside a template is one of those that the loop finds, and neither starts the template
nor ends it. -/
theorem Scanned.exists_span {t name : List Char} {stretches : List Stretch} (h : Scanned t stretches)
    (named : name ∈ many isNameChar) (inside : HasInside t name) :
    ∃ start stop, (start, stop) ∈ spans 0 stretches ∧ start ≠ 0 ∧ stop ≠ t.length ∧
      (t.drop start).take (stop - start) = braced name := by
  obtain ⟨front, behind, first, last, rfl⟩ := inside
  have here : PlaceholderAt (front ++ (braced name ++ behind)) front.length
      (front.length + (braced name).length) := ⟨name, named, by simp, rfl⟩
  refine ⟨_, _, h.mem_spans.mpr ⟨_, _, (Nat.zero_add _).symm, (Nat.zero_add _).symm, here⟩, ?_, ?_,
    ?_⟩
  · exact fun none => first (List.eq_nil_of_length_eq_zero none)
  · intro all
    apply last
    apply List.eq_nil_of_length_eq_zero
    simp only [List.length_append] at all
    omega
  · rw [List.drop_left, Nat.add_sub_cancel_left, List.take_left]

theorem braced_inj {name name' : List Char} : braced name = braced name' ↔ name = name' := by
  simp [braced]

section

variable {before f s : List Char} {stretches : List Stretch}
  (hs : s ∈ language (stretches.flatMap Stretch.pieces))

include hs

theorem mem_language_literal :
    before ++ s ∈ language ((Stretch.literal before :: stretches).flatMap Stretch.pieces) := by
  rw [List.flatMap_cons, Stretch.pieces, language_append, language_map_char]
  exact Language.append_mem_mul rfl hs

theorem mem_language_placeholder {name : List Char} (hf : f ∈ oneOrMore isFillChar) :
    f ++ s ∈ language ((Stretch.placeholder name :: stretches).flatMap Stretch.pieces) := by
  rw [List.flatMap_cons, Stretch.pieces, language_append, language_singleton]
  exact Language.append_mem_mul hf hs

end

theorem braced_fills {name : List Char} (h : name ∈ many isFillChar) :
    braced name ∈ oneOrMore isFillChar := by
  refine ⟨List.cons_ne_nil _ _, ?_⟩
  intro c hc
  rcases List.mem_cons.mp hc with rfl | hc
  · decide
  · rcases List.mem_append.mp hc with hc | hc
    · exact h c hc
    · rw [List.mem_singleton.mp hc]
      decide

/-- A placeholder can stand for a single one of its characters. -/
theorem char_fills {c : Char} (h : isFillChar c = true) : [c] ∈ oneOrMore isFillChar :=
  ⟨List.cons_ne_nil _ _, List.forall_mem_singleton.mpr h⟩

/-- What a placeholder can stand for where its name stands: the whole of it, or at the end of the
template its opening brace alone. -/
theorem exists_fill_braced {name rest s : List Char} (fit : rest ≠ [] → name ∈ many isFillChar)
    (hs : s <+: rest) : ∃ f ∈ oneOrMore isFillChar, f ++ s <+: braced name ++ rest := by
  cases rest with
  | nil =>
    obtain rfl := List.prefix_nil.mp hs
    exact ⟨['\x7b'], char_fills (by decide), name ++ ['\x7d'], by simp [braced]⟩
  | cons c rest =>
    exact ⟨braced name, braced_fills (fit (List.cons_ne_nil c rest)),
      (List.prefix_append_right_inj _).mpr hs⟩

section

variable (before : List Char) {rest s : List Char} {stretches : List Stretch}
  (hs : s ∈ language (stretches.flatMap Stretch.pieces)) (front : s <+: rest)

include hs front

theorem exists_front_of_skipped :
    ∃ r ∈ language ((Stretch.literal (before ++ ['\x7b']) :: stretches).flatMap Stretch.pieces),
      r <+: before ++ '\x7b' :: rest := by
  refine ⟨before ++ ['\x7b'] ++ s, mem_language_literal hs, ?_⟩
  rw [List.append_cons before '\x7b' rest]
  exact (List.prefix_append_right_inj _).mpr front

theorem exists_front_of_found {name : List Char} (fit : rest ≠ [] → name ∈ many isFillChar) :
    ∃ r ∈ language
        ((Stretch.literal before :: .placeholder name :: stretches).flatMap Stretch.pieces),
      r <+: before ++ (braced name ++ rest) := by
  obtain ⟨f, hf, here⟩ := exists_fill_braced fit front
  exact ⟨before ++ (f ++ s), mem_language_literal (mem_language_placeholder hs hf),
    (List.prefix_append_right_inj before).mpr here⟩

end

/-- A text starts with something that comes out of it as a template, if placeholders in front of
other text can stand for their names. -/
theorem Scanned.exists_front {t : List Char} {stretches : List Stretch} (h : Scanned t stretches)
    (fit : ∀ name ∈ many isNameChar, ∀ front behind, behind ≠ [] →
      t = front ++ (braced name ++ behind) → name ∈ many isFillChar) :
    ∃ s ∈ language (stretches.flatMap Stretch.pieces), s <+: t := by
  induction h with
  | @done t free =>
    refine ⟨t, ?_, List.prefix_rfl⟩
    rw [List.flatMap_singleton, Stretch.pieces, language_map_char]
    rfl
  | @found before name rest stretches free named more ih =>
    obtain ⟨s, hs, front⟩ := ih fun name' named' front behind ne split =>
      fit name' named' (before ++ (braced name ++ front)) behind ne (by simp [split])
    exact exists_front_of_found before hs front fun ne => fit name named before rest ne rfl
  | @skipped before after stretches free unclosed more ih =>
    obtain ⟨s, hs, front⟩ := ih fun name' named' front behind ne split =>
      fit name' named' (before ++ '\x7b' :: front) behind ne (by simp [split])
    exact exists_front_of_skipped before hs front

theorem templateMatches_iff {template path : String} : templateMatches template path = true ↔
    ∃ s ∈ fillings template.toList, s <:+: path.toList := by
  rw [templateMatches_eq, fitsSomewhere_iff, pieces, ← (scanned_scan _).fillings_eq]

/-- Somewhere in a text stands what comes out of it as a template, if the placeholders that have
text on both sides can stand for their names. -/
theorem exists_filling_inside {t : List Char}
    (fit : ∀ name ∈ many isNameChar, HasInside t name → name ∈ many isFillChar) :
    ∃ s ∈ fillings t, s <:+: t := by
  have scanned := scanned_scan t
  rw [scanned.fillings_eq]
  generalize scan t = stretches at scanned ⊢
  -- Behind the first stretch all placeholders have text in front of them.
  cases scanned with
  | done free =>
    obtain ⟨s, hs, front⟩ := (Scanned.done free).exists_front fun name _ front behind _ split =>
      absurd (by simp [split, braced]) free
    exact ⟨s, hs, front.isInfix⟩
  | @found before name rest stretches free named more =>
    obtain ⟨s, hs, front⟩ := more.exists_front fun name' named' front behind ne split =>
      fit name' named' ⟨before ++ (braced name ++ front), behind, by simp [braced], ne,
        by simp [split]⟩
    by_cases first : before = []
    · subst first
      have brace : ['\x7d'] ∈ oneOrMore isFillChar := char_fills (by decide)
      obtain ⟨behind, rfl⟩ := front
      refine ⟨[] ++ (['\x7d'] ++ s), mem_language_literal (mem_language_placeholder hs brace),
        '\x7b' :: name, behind, ?_⟩
      simp [braced]
    · obtain ⟨r, hr, here⟩ := exists_front_of_found before hs front fun ne =>
        fit name named ⟨before, rest, first, ne, rfl⟩
      exact ⟨r, hr, here.isInfix⟩
  | @skipped before after stretches free unclosed more =>
    obtain ⟨s, hs, front⟩ := more.exists_front fun name' named' front behind ne split =>
      fit name' named' ⟨before ++ '\x7b' :: front, behind, by simp, ne, by simp [split]⟩
    obtain ⟨r, hr, here⟩ := exists_front_of_skipped before hs front
    exact ⟨r, hr, here.isInfix⟩

/-- Between the two slashes of a text with no others stands all the rest of it. -/
theorem eq_of_slashes_inside {f w : List Char} (free : '/' ∉ w)
    (h : '/' :: (f ++ ['/']) <:+: '/' :: (w ++ ['/'])) : f = w := by
  obtain ⟨front, behind, split⟩ := h
  have slashes := congrArg (List.count '/') split
  simp only [List.count_append, List.count_cons_self, List.count_nil,
    List.count_eq_zero_of_not_mem free] at slashes
  have inside : '/' ∉ f := List.count_eq_zero.mp (by omega)
  cases front with
  | nil =>
    have rest : f ++ '/' :: behind = w ++ ['/'] := by simpa using split
    have same := congrArg (List.takeWhile (· != '/')) rest
    rwa [takeWhile_append_mark inside, takeWhile_append_mark free] at same
  | cons c front =>
    -- The text starts with a slash, which would be a third one.
    obtain ⟨rfl, -⟩ := List.cons.inj split
    rw [List.count_cons_self] at slashes
    omega

/-- The template with that placeholder alone, between slashes. -/
def slashed (name : List Char) : String := String.ofList ('/' :: (braced name ++ ['/']))

section slashed

variable {name : List Char} (named : name ∈ many isNameChar)

include named

theorem scanned_slashed :
    Scanned (slashed name).toList [.literal ['/'], .placeholder name, .literal ['/']] := by
  have free : '\x7b' ∉ ['/'] := by decide
  rw [slashed, String.toList_ofList]
  exact .found free named (.done free)

/-- Nothing else is inside. -/
theorem eq_of_inside_slashed {other : List Char} (named' : other ∈ many isNameChar)
    (inside : HasInside (slashed name).toList other) : other = name := by
  obtain ⟨start, stop, here, -, -, text⟩ := (scanned_slashed named).exists_span named' inside
  obtain ⟨rfl, rfl⟩ : start = 1 ∧ stop = 1 + (braced name).length := by simpa [spans] using here
  rw [slashed, String.toList_ofList, List.drop_one, List.tail_cons, Nat.add_sub_cancel_left,
    List.take_left] at text
  exact (braced_inj.mp text).symm

theorem slash_not_mem_braced : '/' ∉ braced name := by
  have slash : isNameChar '/' = false := by decide +kernel
  intro h
  rcases List.mem_cons.mp h with brace | h
  · exact absurd brace (by decide)
  · rcases List.mem_append.mp h with h | brace
    · rw [named _ h] at slash
      cases slash
    · exact absurd brace (by decide)

/-- Between slashes a placeholder whose name it cannot stand for is not recognised. -/
theorem fits_of_templateMatches_slashed
    (fits : templateMatches (slashed name) (slashed name) = true) : name ∈ many isFillChar := by
  obtain ⟨s, hs, inside⟩ := templateMatches_iff.mp fits
  rw [(scanned_slashed named).fillings_eq] at hs
  simp only [List.flatMap_cons, List.flatMap_nil, Stretch.pieces, language_append,
    language_map_char, language_singleton, List.append_nil] at hs
  obtain ⟨_, rfl, _, ⟨f, hf, _, rfl, rfl⟩, rfl⟩ := hs
  rw [slashed, String.toList_ofList] at inside
  have same : f = braced name := eq_of_slashes_inside (slash_not_mem_braced named) inside
  intro c hc
  apply hf.2 c
  rw [same]
  exact List.mem_cons_of_mem _ (List.mem_append_left _ hc)

end slashed

/-- At an item the text for paths without a template comes from the definition's own documentation
alone. -/
theorem PathItem.Answers.documents_of_not_found {item : PathItem} {method : String} {op : Operation}
    (h : item.Answers method op)
    (text : op.detail.description = "Path not found in provided openapi spec") :
    item.Documents method op.detail := by
  have other : "Documentation of is malformed json/yaml" ≠
      "Path not found in provided openapi spec" := by decide
  cases h with
  | noObject _ => exact absurd text other
  | undecodable _ _ _ => exact absurd text other
  | documented object member written =>
    exact ⟨_, _, object, member, Detail.ofJson?_eq_some.mpr written⟩
  | noMember _ _ =>
    have last := congrArg (fun s => s.toList.getLast?) text
    simp only [getLast?_append_point] at last
    exact absurd last (by decide)

namespace Definition

/-- The template's own text is recognised: the template matches it, and a lookup of it takes a template
that is not shorter and does not say that there is none. -/
structure RecognisesOwn (d : Definition) (method template : String) : Prop where
  fits : templateMatches template template = true
  takes : ∃ before item, d.Takes template before item ∧
    template.utf8ByteSize ≤ item.template.utf8ByteSize ∧
    (d.operation method template).path = item.template ∧
    ((d.operation method template).detail.description =
        "Path not found in provided openapi spec" →
      item.Documents method (d.operation method template).detail)

theorem recognisesOwn_of_fits {d : Definition} {template : String} (offered : template ∈ d.paths)
    (fits : templateMatches template template = true) (method : String) :
    d.RecognisesOwn method template := by
  obtain ⟨own, mem, rfl⟩ := List.mem_map.mp offered
  obtain ⟨before, item, taken⟩ := exists_takes mem fits
  refine ⟨fits, before, item, taken, taken.size_le mem fits, taken.path_operation method, ?_⟩
  rw [taken.operation_eq]
  exact (item.answers_operation method).documents_of_not_found

/-- Paths that are offered are recognised, in every definition and for every method, as long as
the names of their placeholders are known to be made of ASCII letters, digits and underscores only. A
placeholder at the very start or end of a template may have any name. Other names do harm: with each of
them there is a template that is not recognised. -/
theorem own_templates_recognised (Known : List Char → Prop) :
    (∀ (d : Definition) (method template : String), template ∈ d.paths →
      (∀ name ∈ many isNameChar, HasInside template.toList name → Known name) →
      d.RecognisesOwn method template) ↔
    ∀ name ∈ many isNameChar, Known name → name ∈ many isFillChar := by
  constructor
  · intro recognised name named known
    have own := recognised ⟨[⟨slashed name, .null⟩]⟩ "GET" (slashed name) List.mem_cons_self ?_
    · exact fits_of_templateMatches_slashed named own.fits
    · intro other named' inside
      rw [eq_of_inside_slashed named named' inside]
      exact known
  · intro fit d method template offered known
    apply recognisesOwn_of_fits offered
    apply templateMatches_iff.mpr
    apply exists_filling_inside
    intro name named inside
    exact fit name named (known name named inside)

/-- A placeholder inside a template, and one at its end with a name that is not ASCII. -/
theorem own_templates_recognised_last :
    let template := "/pet/\x7bid\x7d/\x7bgröße\x7d"
    let d := ofPaths [("/pet/\x7bid\x7d", .null), (template, .null)]
    template ∈ d.paths ∧
      (∀ name ∈ many isNameChar, HasInside template.toList name → name = "id".toList) ∧
      d.RecognisesOwn "GET" template := by
  intro template d
  have offered : template ∈ d.paths := List.mem_cons_of_mem _ List.mem_cons_self
  have places : spans 0 (scan template.toList) = [(5, 9), (10, 17)] := by decide +kernel
  have size : template.toList.length = 17 := by decide +kernel
  have first : (template.toList.drop 5).take 4 = braced "id".toList := by decide +kernel
  have only : ∀ name ∈ many isNameChar, HasInside template.toList name → name = "id".toList := by
    intro name named inside
    obtain ⟨start, stop, here, -, last, text⟩ :=
      (scanned_scan template.toList).exists_span named inside
    simp only [places, List.mem_cons, Prod.mk.injEq, List.not_mem_nil, or_false] at here
    rcases here with ⟨rfl, rfl⟩ | ⟨rfl, rfl⟩
    · exact braced_inj.mp (text.symm.trans first)
    · exact absurd size.symm last
  have fit : ∀ name ∈ many isNameChar, name = "id".toList → name ∈ many isFillChar := by
    rintro name _ rfl
    exact List.all_eq_true.mp (show "id".toList.all isFillChar = true by decide)
  exact ⟨offered, only, (own_templates_recognised (· = "id".toList)).mpr fit d "GET" template
    offered only⟩

/-- The only path of a definition is offered, and is not found when it is looked up. -/
theorem offered_path_not_found :
    let template := "/a/\x7bgröße\x7d/b"
    let d := ofPaths [(template, .object [("get", .object [("summary", .string "Size")])])]
    template ∈ d.paths ∧ "größe".toList ∈ many isNameChar ∧
      scan template.toList =
        [.literal "/a/".toList, .placeholder "größe".toList, .literal "/b".toList] ∧
      templateMatches template template = false ∧
      d.operation "GET" template = ⟨"GET", template,
        ⟨"Operation not documented", "Path not found in provided openapi spec", []⟩⟩ := by
  intro template d
  refine ⟨List.mem_cons_self, ?_, ?_, ?_, ?_⟩
  · exact List.all_eq_true.mp (show "größe".toList.all isNameChar = true by decide +kernel)
  · decide +kernel
  · decide +kernel
  · decide +kernel

end Definition

end HurlAssist.Api
