import Mathlib.Data.List.DropRight
import HurlAssist.Path

/-!
The folder of a path, and what its last name ends in. A name that is joined to a folder lies in that
folder again, less the slashes and dots at the folder's end that name nothing (`Path.parent?_join`).
The ending is read off the last name alone (`Path.extension?_eq_some`).
-/

namespace HurlAssist.Path

/-! The last part of some octets, behind the last separator. -/

theorem rtakeWhile_append {separator : UInt8} {front part : Octets} (whole : separator ∉ part)
    (apart : front = [] ∨ front.getLast? = some separator) :
    (front ++ part).rtakeWhile (· != separator) = part := by
  have own : part.reverse.takeWhile (· != separator) = part.reverse := by
    apply List.takeWhile_eq_self_iff.mpr
    intro b hb
    apply bne_iff_ne.mpr
    rintro rfl
    exact whole (List.mem_reverse.mp hb)
  have none : front.reverse.takeWhile (· != separator) = [] := by
    rcases apart with rfl | last
    · rfl
    · obtain ⟨before, rfl⟩ := List.getLast?_eq_some_iff.mp last
      simp
  rw [List.rtakeWhile, List.reverse_append, List.takeWhile_append, own, if_pos rfl, none,
    List.append_nil, List.reverse_reverse]

theorem exists_lastPart (separator : UInt8) (os : Octets) :
    ∃ front, os = front ++ os.rtakeWhile (· != separator) ∧
      (front = [] ∨ front.getLast? = some separator) := by
  refine ⟨os.rdropWhile (· != separator), List.rdropWhile_append_rtakeWhile.symm, ?_⟩
  by_cases ne : os.rdropWhile (· != separator) = []
  · exact .inl ne
  · have last := List.rdropWhile_last_not (· != separator) os ne
    simp only [bne_iff_ne, ne_eq, Decidable.not_not] at last
    rw [List.getLast?_eq_some_getLast ne, last]
    exact .inr rfl

theorem not_mem_rtakeWhile (separator : UInt8) (os : Octets) :
    separator ∉ os.rtakeWhile (· != separator) := by
  intro mem
  have other := List.mem_rtakeWhile_imp mem
  simp at other

/-- A name that stands for something: it holds no slash and does not end in a dot. -/
structure Names (name : Octets) : Prop where
  whole : slash ∉ name
  ends : ∃ front last, name = front ++ [last] ∧ last ≠ dot

theorem dropEmptyNames_cons {b : UInt8} (noSlash : b ≠ slash) (noDot : b ≠ dot) (os : Octets) :
    dropEmptyNames (b :: os) = b :: os := by
  cases os with
  | nil => rfl
  | cons c os => simp [dropEmptyNames, noSlash, noDot]

theorem trimmed_slash {os : Octets} (ne : os ≠ []) : trimmed (os ++ [slash]) = trimmed os := by
  obtain ⟨b, bs, reversed⟩ := List.exists_cons_of_ne_nil (List.reverse_ne_nil_iff.mpr ne)
  rw [trimmed, trimmed, List.reverse_concat, reversed, dropEmptyNames, if_pos rfl]

theorem trimmed_dot {os : Octets} (ne : os ≠ []) : trimmed (os ++ [slash, dot]) = trimmed os := by
  rw [← trimmed_slash ne, trimmed, trimmed, List.reverse_append, List.reverse_concat]
  show (dropEmptyNames (dot :: slash :: os.reverse)).reverse = _
  rw [dropEmptyNames, if_neg (by decide), if_pos ⟨rfl, rfl⟩]

namespace Names

variable {name : Octets} (h : Names name)

include h

theorem ne_nil : name ≠ [] := by
  obtain ⟨front, last, rfl, _⟩ := h.ends
  simp

theorem getLast?_ne : name.getLast? ≠ some dot := by
  obtain ⟨front, last, rfl, noDot⟩ := h.ends
  rw [List.getLast?_concat]
  exact fun same => noDot (Option.some.inj same)

theorem not_isAbsolute : isAbsolute ⟨name⟩ = false := by
  obtain ⟨b, bs, rfl⟩ := List.exists_cons_of_ne_nil h.ne_nil
  have first : b ≠ slash := fun same => h.whole (same ▸ List.mem_cons_self)
  simp [isAbsolute, first]

theorem trimmed_append (os : Octets) : trimmed (os ++ name) = os ++ name := by
  obtain ⟨front, last, rfl, noDot⟩ := h.ends
  have noSlash : last ≠ slash := by
    rintro rfl
    exact h.whole (List.mem_concat_self)
  rw [trimmed, ← List.append_assoc, List.reverse_concat, dropEmptyNames_cons noSlash noDot,
    List.reverse_cons, List.reverse_reverse]

/-- Behind a slash, or where nothing stands, the name is the last one of a path. -/
theorem splitName_append {os : Octets} (apart : os = [] ∨ os.getLast? = some slash) :
    splitName (os ++ name) = (name, os) := by
  have last : ((os ++ name).reverse.takeWhile (· != slash)).reverse = name :=
    rtakeWhile_append h.whole apart
  simp only [splitName, last, List.length_append, Nat.add_sub_cancel, List.take_left]

end Names

theorem join_eq_ite (folder path : Path) :
    folder.join path = if path.isAbsolute then path else folder.join path := by
  split
  · rename_i absolute
    rw [join, if_pos absolute]
  · rfl

/-- What stands in front of a name that is joined to a folder. -/
theorem join_eq (folder : Path) {name : Octets} (h : Names name) :
    ∃ front, folder.join ⟨name⟩ = ⟨front ++ name⟩ ∧
      (front = [] ∨ front.getLast? = some slash) ∧ trimmed front = trimmed folder.octets := by
  unfold join
  rw [if_neg (by simp [h.not_isAbsolute])]
  split
  · rename_i apart
    refine ⟨folder.octets, rfl, ?_, rfl⟩
    exact apart.imp_left List.isEmpty_iff.mp
  · rename_i open'
    refine ⟨folder.octets ++ [slash], by simp, .inr (by simp), ?_⟩
    apply trimmed_slash
    intro none
    exact open' (.inl (List.isEmpty_iff.mpr none))

/-- A name that is joined to a folder lies in it. -/
theorem parent?_join {folder : Path} {name : Octets} (h : Names name) :
    (folder.join ⟨name⟩).parent? = some ⟨trimmed folder.octets⟩ := by
  obtain ⟨front, joined, apart, same⟩ := join_eq folder h
  have ne : front ++ name ≠ [] := List.append_ne_nil_of_right_ne_nil front h.ne_nil
  have noSlash : front ++ name ≠ [slash] := by
    intro only
    have mem : name ⊆ [slash] := only ▸ List.subset_append_right front name
    obtain ⟨b, bs, rfl⟩ := List.exists_cons_of_ne_nil h.ne_nil
    exact h.whole (List.mem_singleton.mp (mem List.mem_cons_self) ▸ List.mem_cons_self)
  rw [joined, parent?]
  simp only [h.trimmed_append, h.splitName_append apart, same]
  rw [if_neg]
  rintro (none | only)
  · exact ne (List.isEmpty_iff.mp none)
  · exact noSlash only

/-- A folder that was made by joining a name to another one ends in nothing that is left out. -/
theorem trimmed_join {folder : Path} {name : Octets} (h : Names name) :
    trimmed (folder.join ⟨name⟩).octets = (folder.join ⟨name⟩).octets := by
  obtain ⟨front, joined, _⟩ := join_eq folder h
  rw [joined]
  exact h.trimmed_append front

/-- Names that name nothing, each behind a slash: a name is empty or a dot. -/
def NamesNothing (rest : Octets) : Prop :=
  ∃ names : List Octets, (∀ name ∈ names, name = [] ∨ name = [dot]) ∧
    rest = names.flatMap (slash :: ·)

/-- The last name of the path is this one. What stands behind it names nothing. -/
def LeadsToName (p : Path) (name : Octets) : Prop :=
  ∃ front rest, p.octets = front ++ name ++ rest ∧ slash ∉ name ∧
    (front = [] ∨ front.getLast? = some slash) ∧ NamesNothing rest

/-- The last name of the path has this ending, behind its last dot. In front of the dot stands
something. -/
def HasEnding (p : Path) (ending : Octets) : Prop :=
  ∃ stem, stem ≠ [] ∧ dot ∉ ending ∧ p.LeadsToName (stem ++ dot :: ending)

theorem NamesNothing.trimmed_append {os rest : Octets} (h : NamesNothing rest) (ne : os ≠ []) :
    trimmed (os ++ rest) = trimmed os := by
  obtain ⟨names, nothing, rfl⟩ := h
  induction names generalizing os with
  | nil => rw [List.flatMap_nil, List.append_nil]
  | cons name names ih =>
    have more (n : Octets) (hn : n ∈ names) := nothing n (List.mem_cons_of_mem name hn)
    rw [List.flatMap_cons, ← List.append_assoc, ih (List.append_ne_nil_of_left_ne_nil ne _) more]
    rcases nothing name List.mem_cons_self with rfl | rfl
    · exact trimmed_slash ne
    · exact trimmed_dot ne

/-- What trimming takes away names nothing. Of a path without names the root is left. -/
theorem trimmed_cases (os : Octets) :
    trimmed os = [slash] ∨ ∃ rest, NamesNothing rest ∧ os = trimmed os ++ rest := by
  -- A dot goes only with the slash before it, so a slash that is left out last may get a dot.
  have reversed (r : Octets) : dropEmptyNames r = [slash] ∨ ∃ names : List Octets,
      (∀ name ∈ names, name = [] ∨ name = [dot]) ∧
      r.reverse = (dropEmptyNames r).reverse ++ names.flatMap (slash :: ·) ∧
      (r.head? = some slash → ∃ before, names = before ++ [[]]) := by
    fun_induction dropEmptyNames r with
    | case1 => exact .inr ⟨[], by simp, rfl, nofun⟩
    | case2 b =>
      by_cases only : b = slash
      · exact .inl (by rw [only])
      · exact .inr ⟨[], by simp, by simp, fun first => absurd (Option.some.inj first) only⟩
    | case3 b rest ih =>
      rcases ih with root | ⟨names, nothing, split, -⟩
      · exact .inl root
      · refine .inr ⟨names ++ [[]], ?_, ?_, fun _ => ⟨names, rfl⟩⟩
        · intro name mem
          rcases List.mem_append.mp mem with mem | mem
          · exact nothing name mem
          · exact .inl (List.mem_singleton.mp mem)
        · rw [List.reverse_cons, split]
          simp
    | case4 a b rest noSlash both ih =>
      obtain ⟨rfl, rfl⟩ := both
      rcases ih with root | ⟨names, nothing, split, slashed⟩
      · exact .inl root
      · obtain ⟨before, rfl⟩ := slashed rfl
        refine .inr ⟨before ++ [[dot]], ?_, ?_, fun first => absurd (Option.some.inj first) noSlash⟩
        · intro name mem
          rcases List.mem_append.mp mem with mem | mem
          · exact nothing name (List.mem_append_left _ mem)
          · exact .inr (List.mem_singleton.mp mem)
        · rw [List.reverse_cons, split]
          simp
    | case5 a b rest noSlash _ =>
      exact .inr ⟨[], by simp, by simp, fun first => absurd (Option.some.inj first) noSlash⟩
  rcases reversed os.reverse with root | ⟨names, nothing, split, -⟩
  · exact .inl (by rw [trimmed, root]; rfl)
  · rw [List.reverse_reverse] at split
    exact .inr ⟨_, ⟨names, nothing, rfl⟩, split⟩

theorem leadsToName_of_fileName? {p : Path} {name : Octets} (h : p.fileName? = some name) :
    p.LeadsToName name := by
  have last : (splitName (trimmed p.octets)).1 = (trimmed p.octets).rtakeWhile (· != slash) := rfl
  simp only [fileName?, last] at h
  split at h
  · cases h
  · rename_i proper
    rcases trimmed_cases p.octets with root | ⟨rest, nothing, split⟩
    · rw [root] at proper
      exact absurd (.inl rfl) proper
    · obtain ⟨front, parts, apart⟩ := exists_lastPart slash (trimmed p.octets)
      obtain rfl := Option.some.inj h
      exact ⟨front, rest, by rw [← parts, ← split], not_mem_rtakeWhile slash _, apart, nothing⟩

theorem LeadsToName.fileName?_eq {p : Path} {name : Octets} (h : p.LeadsToName name)
    (proper : Names name) : p.fileName? = some name := by
  obtain ⟨front, rest, parts, -, apart, nothing⟩ := h
  have whole : trimmed p.octets = front ++ name := by
    rw [parts, nothing.trimmed_append (List.append_ne_nil_of_right_ne_nil front proper.ne_nil),
      proper.trimmed_append]
  rw [fileName?, whole]
  simp only [proper.splitName_append apart]
  rw [if_neg]
  rintro (none | rfl | rfl)
  · exact proper.ne_nil (List.isEmpty_iff.mp none)
  · exact proper.getLast?_ne rfl
  · exact proper.getLast?_ne rfl

/-- What follows the last dot of the last name, if that is something and something stands in front
of the dot. -/
theorem extension?_eq_some {p : Path} {ending : Octets} (ne : ending ≠ []) :
    p.extension? = some ending ↔ p.HasEnding ending := by
  constructor
  · intro found
    cases named : p.fileName? with
    | none =>
      rw [extension?, named] at found
      cases found
    | some name =>
      rw [extension?, named] at found
      have last : (name.reverse.takeWhile (· != dot)).reverse = name.rtakeWhile (· != dot) := rfl
      simp only [last] at found
      split at found
      · cases found
      · rename_i long
        obtain ⟨front, parts, apart⟩ := exists_lastPart dot name
        obtain rfl := Option.some.inj found
        have length := congrArg List.length parts
        rw [List.length_append] at length
        rcases apart with rfl | dotted
        · rw [List.length_nil] at length
          omega
        · obtain ⟨stem, rfl⟩ := List.getLast?_eq_some_iff.mp dotted
          refine ⟨stem, ?_, not_mem_rtakeWhile dot name, ?_⟩
          · rintro rfl
            simp only [List.nil_append, List.length_singleton] at length
            omega
          · rw [List.append_cons, ← parts]
            exact leadsToName_of_fileName? named
  · rintro ⟨stem, before, noDot, leads⟩
    have last : ((stem ++ dot :: ending).reverse.takeWhile (· != dot)).reverse = ending := by
      rw [List.append_cons]
      exact rtakeWhile_append noDot (.inr List.getLast?_concat)
    have proper : Names (stem ++ dot :: ending) := by
      obtain ⟨_, _, _, whole, _⟩ := leads
      obtain ⟨front, b, rfl⟩ := (List.eq_nil_or_concat' ending).resolve_left ne
      refine ⟨whole, stem ++ dot :: front, b, by simp, ?_⟩
      rintro rfl
      exact noDot List.mem_concat_self
    rw [extension?, leads.fileName?_eq proper]
    simp only [last]
    rw [if_neg]
    simp only [List.length_append, List.length_cons]
    have := List.length_pos_iff.mpr before
    omega

end HurlAssist.Path
