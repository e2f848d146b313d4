import HurlAssist.Filter
import HurlAssist.Proofs.Text.OctetOrder

/-!
Looking up a filter by its name. Halving a list of filters in the order of their names finds the
member of the name that is looked up (`search_eq_some`), and no list in any other order has all its
members found (`ascending_iff`). The catalog is in that order, which is the one of the octets of the
names (`lookup_agrees_with_scan`).
-/

namespace HurlAssist.Filter

/-- The filters stand in the order of their names, no two of them under one name. -/
def Ascending (fs : List Filter) : Prop := fs.Pairwise fun f g => f.name < g.name

namespace Ascending

variable {before after : List Filter} {f g : Filter} (ascending : Ascending (before ++ f :: after))

include ascending

theorem front : Ascending before := (List.pairwise_append.mp ascending).1

theorem behind : Ascending after :=
  (List.pairwise_cons.mp (List.pairwise_append.mp ascending).2.1).2

theorem lt_of_mem_front (hg : g ∈ before) : g.name < f.name :=
  (List.pairwise_append.mp ascending).2.2 g hg f List.mem_cons_self

theorem lt_of_mem_behind (hg : g ∈ after) : f.name < g.name :=
  (List.pairwise_cons.mp (List.pairwise_append.mp ascending).2.1).1 g hg

/-- The name says whether a member stands in front, in the middle or behind. -/
theorem mem_cases (hg : g ∈ before ++ f :: after) :
    g ∈ before ∧ g.name < f.name ∨ g = f ∨ g ∈ after ∧ f.name < g.name := by
  rcases List.mem_append.mp hg with front | behind
  · exact .inl ⟨front, ascending.lt_of_mem_front front⟩
  · rcases List.mem_cons.mp behind with rfl | behind
    · exact .inr (.inl rfl)
    · exact .inr (.inr ⟨behind, ascending.lt_of_mem_behind behind⟩)

theorem mem_front_iff (lt : g.name < f.name) : g ∈ before ++ f :: after ↔ g ∈ before := by
  constructor
  · intro hg
    rcases ascending.mem_cases hg with ⟨front, _⟩ | rfl | ⟨_, gt⟩
    · exact front
    · exact absurd lt (String.lt_irrefl _)
    · exact absurd gt (String.lt_asymm lt)
  · exact List.mem_append_left _

theorem mem_behind_iff (gt : f.name < g.name) : g ∈ before ++ f :: after ↔ g ∈ after := by
  constructor
  · intro hg
    rcases ascending.mem_cases hg with ⟨_, lt⟩ | rfl | ⟨behind, _⟩
    · exact absurd lt (String.lt_asymm gt)
    · exact absurd gt (String.lt_irrefl _)
    · exact behind
  · intro hg
    exact List.mem_append_right _ (List.mem_cons_of_mem _ hg)

theorem eq_of_name_eq (hg : g ∈ before ++ f :: after) (same : g.name = f.name) : g = f := by
  rcases ascending.mem_cases hg with ⟨_, lt⟩ | rfl | ⟨_, gt⟩
  · exact absurd (same ▸ lt) (String.lt_irrefl _)
  · rfl
  · exact absurd (same ▸ gt) (String.lt_irrefl _)

end Ascending

theorem lt_of_not_lt_of_ne {a b : String} (ne : ¬ a = b) (not_lt : ¬ a < b) : b < a := by
  apply Decidable.byContradiction
  intro not_gt
  exact ne (String.le_antisymm (String.not_lt.mp not_gt) (String.not_lt.mp not_lt))

variable {name : String} {fs after : List Filter} {f : Filter}

/-- The two halves of a list around the member in the middle. -/
theorem halves (half : fs.drop (fs.length / 2) = f :: after) :
    fs.take (fs.length / 2) ++ f :: after = fs := by
  rw [← half, List.take_append_drop]

theorem eq_nil_of_half (half : fs.drop (fs.length / 2) = []) : fs = [] := by
  have length := congrArg List.length half
  rw [List.length_drop, List.length_nil] at length
  apply List.eq_nil_of_length_eq_zero
  omega

/-- Halving finds the member of that name, if there is one. -/
theorem search_eq_some (ascending : Ascending fs) :
    search name fs = some f ↔ f ∈ fs ∧ f.name = name := by
  fun_induction search name fs with
  | case1 fs half => simp [eq_nil_of_half half]
  | case2 fs g after half here =>
    rw [← halves half] at ascending ⊢
    constructor
    · rintro ⟨⟩
      exact ⟨List.mem_append_right _ List.mem_cons_self, here.symm⟩
    · rintro ⟨mem, named⟩
      rw [ascending.eq_of_name_eq mem (named.trans here)]
  | case3 fs g after half _ lt ih =>
    have parts := halves half
    rw [← parts] at ascending
    rw [ih ascending.front]
    constructor
    · rintro ⟨mem, rfl⟩
      exact ⟨parts ▸ (ascending.mem_front_iff lt).mpr mem, rfl⟩
    · rintro ⟨mem, rfl⟩
      rw [← parts] at mem
      exact ⟨(ascending.mem_front_iff lt).mp mem, rfl⟩
  | case4 fs g after half other not_lt ih =>
    have gt := lt_of_not_lt_of_ne other not_lt
    have parts := halves half
    rw [← parts] at ascending
    rw [ih ascending.behind]
    constructor
    · rintro ⟨mem, rfl⟩
      exact ⟨parts ▸ (ascending.mem_behind_iff gt).mpr mem, rfl⟩
    · rintro ⟨mem, rfl⟩
      rw [← parts] at mem
      exact ⟨(ascending.mem_behind_iff gt).mp mem, rfl⟩

/-- In a list in the order of the names, going through all members gives what halving finds. -/
theorem filter_eq_toList_search (ascending : Ascending fs) (name : String) :
    fs.filter (fun f => f.name = name) = (search name fs).toList := by
  have nothing {gs : List Filter} (other : ∀ g ∈ gs, g.name ≠ name) :
      gs.filter (fun f => f.name = name) = [] := by
    simpa only [List.filter_eq_nil_iff, decide_eq_true_eq] using other
  cases found : search name fs with
  | none =>
    apply nothing
    intro g hg named
    rw [(search_eq_some ascending).mpr ⟨hg, named⟩] at found
    cases found
  | some f =>
    obtain ⟨mem, rfl⟩ := (search_eq_some ascending).mp found
    obtain ⟨before, after, rfl⟩ := List.append_of_mem mem
    have front := nothing fun g hg => String.ne_of_lt (ascending.lt_of_mem_front hg)
    have behind := nothing fun g hg => (String.ne_of_lt (ascending.lt_of_mem_behind hg)).symm
    rw [List.filter_append, front, List.filter_cons_of_pos (by simp), behind]
    rfl

theorem mem_of_search (found : search name fs = some f) : f ∈ fs := by
  fun_induction search name fs with
  | case1 fs half => cases found
  | case2 fs g after half here =>
    obtain rfl := Option.some.inj found
    exact halves half ▸ List.mem_append_right _ List.mem_cons_self
  | case3 fs g after half _ lt ih => exact List.mem_of_mem_take (ih found)
  | case4 fs g after half other not_lt ih =>
    exact halves half ▸ List.mem_append_right _ (List.mem_cons_of_mem _ (ih found))

theorem search_of_half (half : fs.drop (fs.length / 2) = f :: after) (ne : name ≠ f.name) :
    search name fs =
      if name < f.name then search name (fs.take (fs.length / 2)) else search name after := by
  rw [search]
  split
  · rename_i none
    rw [half] at none
    cases none
  · rename_i g after' half'
    obtain ⟨rfl, rfl⟩ := List.cons.inj (half.symm.trans half')
    rw [if_neg ne]

/-- No two of the filters have one name, and halving finds each of them. -/
structure Reachable (fs : List Filter) : Prop where
  apart : fs.Pairwise fun f g => f.name ≠ g.name
  found : ∀ f ∈ fs, search f.name fs = some f

namespace Reachable

variable (reachable : Reachable fs) (half : fs.drop (fs.length / 2) = f :: after)

include reachable half

/-- Only smaller names are found in front of the middle. -/
theorem front : (∀ g ∈ fs.take (fs.length / 2), g.name < f.name) ∧
    Reachable (fs.take (fs.length / 2)) := by
  have apart := reachable.apart
  rw [← halves half] at apart
  obtain ⟨before, -, cross⟩ := List.pairwise_append.mp apart
  have found (g : Filter) (hg : g ∈ fs.take (fs.length / 2)) :
      g.name < f.name ∧ search g.name (fs.take (fs.length / 2)) = some g := by
    have here := reachable.found g (List.mem_of_mem_take hg)
    rw [search_of_half half (cross g hg f List.mem_cons_self)] at here
    split at here
    · rename_i lt
      exact ⟨lt, here⟩
    · have behind := List.mem_cons_of_mem f (mem_of_search here)
      exact absurd rfl (cross g hg g behind)
  exact ⟨fun g hg => (found g hg).1, before, fun g hg => (found g hg).2⟩

/-- Only greater names are found behind the middle. -/
theorem behind : (∀ g ∈ after, f.name < g.name) ∧ Reachable after := by
  have apart := reachable.apart
  rw [← halves half] at apart
  obtain ⟨-, tail, cross⟩ := List.pairwise_append.mp apart
  obtain ⟨middle, tail⟩ := List.pairwise_cons.mp tail
  have found (g : Filter) (hg : g ∈ after) :
      f.name < g.name ∧ search g.name after = some g := by
    have mem := List.mem_append_right (fs.take (fs.length / 2)) (List.mem_cons_of_mem f hg)
    have here := reachable.found g (halves half ▸ mem)
    have ne := (middle g hg).symm
    rw [search_of_half half ne] at here
    split at here
    · exact absurd rfl (cross g (mem_of_search here) g (List.mem_cons_of_mem f hg))
    · rename_i not_lt
      exact ⟨lt_of_not_lt_of_ne ne not_lt, here⟩
  exact ⟨fun g hg => (found g hg).1, tail, fun g hg => (found g hg).2⟩

end Reachable

theorem Reachable.ascending {fs : List Filter} (reachable : Reachable fs) : Ascending fs := by
  match half : fs.drop (fs.length / 2) with
  | [] =>
    rw [eq_nil_of_half half]
    exact .nil
  | f :: after =>
    obtain ⟨less, front⟩ := reachable.front half
    obtain ⟨greater, behind⟩ := reachable.behind half
    have tail := List.pairwise_cons.mpr ⟨greater, behind.ascending⟩
    rw [← halves half]
    refine List.pairwise_append.mpr ⟨front.ascending, tail, ?_⟩
    intro g hg g' hg'
    rcases List.mem_cons.mp hg' with rfl | hg'
    · exact less g hg
    · exact String.lt_trans (less g hg) (greater g' hg')
termination_by fs.length
decreasing_by
  all_goals
    have length := congrArg List.length half
    rw [List.length_drop, List.length_cons] at length
  · omega
  · rw [List.length_take]
    omega

/-- Halving finds all members of a list, no two of one name, exactly if the list is in the order of
the names. -/
theorem ascending_iff : Ascending fs ↔ Reachable fs := by
  constructor
  · intro ascending
    refine ⟨List.Pairwise.imp ?_ ascending, fun f hf => (search_eq_some ascending).mpr ⟨hf, rfl⟩⟩
    intro f g lt same
    exact String.lt_irrefl _ (same ▸ lt)
  · exact Reachable.ascending

/-- The names are in the order of their octets. -/
theorem ascending_iff_octets :
    Ascending fs ↔ fs.Pairwise fun f g => Octets.ofText f.name < Octets.ofText g.name := by
  simp only [Ascending, Octets.ofText_lt_iff]

theorem ascending_catalog : Ascending catalog := by
  unfold Ascending
  decide +kernel

theorem lookup_eq_some : lookup name = some f ↔ f ∈ catalog ∧ f.name = name :=
  search_eq_some ascending_catalog

theorem lookup_eq_none : lookup name = none ↔ ∀ f ∈ catalog, f.name ≠ name := by
  rw [Option.eq_none_iff_forall_ne_some]
  constructor
  · intro none f hf named
    exact none f (lookup_eq_some.mpr ⟨hf, named⟩)
  · intro other f found
    obtain ⟨hf, named⟩ := lookup_eq_some.mp found
    exact other f hf named

/-- Looking up a name gives what going through the whole catalog gives: the one entry of that name
if there is one, and nothing for any other text. This rests on the order of the catalog, which is
strictly that of the octets of its names, as in the comparisons on the way: halving a list of
filters finds all of them, no two of one name, exactly if the list is in this order. -/
theorem lookup_agrees_with_scan (name : String) :
    lookup name = catalog.find? (fun f => f.name = name) ∧
    (∀ f, lookup name = some f ↔ f ∈ catalog ∧ f.name = name) ∧
    (lookup name = none ↔ ∀ f ∈ catalog, f.name ≠ name) ∧
    catalog.filter (fun f => f.name = name) = (lookup name).toList ∧
    (catalog.Pairwise fun f g => Octets.ofText f.name < Octets.ofText g.name) ∧
    (∀ f : Filter, name < f.name ↔ Octets.ofText name < Octets.ofText f.name) ∧
    ∀ fs : List Filter,
      (fs.Pairwise fun f g => Octets.ofText f.name < Octets.ofText g.name) ↔
        (fs.Pairwise fun f g => f.name ≠ g.name) ∧ ∀ f ∈ fs, search f.name fs = some f := by
  have all := filter_eq_toList_search ascending_catalog name
  refine ⟨?_, fun f => lookup_eq_some, lookup_eq_none, all,
    ascending_iff_octets.mp ascending_catalog, fun f => (Octets.ofText_lt_iff _ _).symm, ?_⟩
  · rw [← List.head?_filter, all, Option.head?_toList]
    rfl
  · intro fs
    rw [← ascending_iff_octets, ascending_iff]
    exact ⟨fun reachable => ⟨reachable.apart, reachable.found⟩, fun h => ⟨h.1, h.2⟩⟩

-- a name that is the front of another one, and the latter in other capitals
example : lookup "replace" = catalog[17]? ∧ lookup "replaceRegex" = catalog[18]? ∧
    lookup "replaceregex" = none := by
  decide +kernel

end HurlAssist.Filter
