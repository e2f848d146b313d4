import Mathlib.Data.List.Induction
import Mathlib.Data.List.Nodup
import HurlAssist.Document.KeyValues

/-!
Names in the order in which they first come. Names may come in several places; a list that is in this
order has no name twice (`InFirstOrder.nodup`). The names of a list of numbered names come into it when
each is kept where it first stands (`inFirstOrder_eraseDups`), and so do the keys of pairs that are put
in one after the other (`Keyed.map_fst_ofList`).
-/

namespace HurlAssist

section eraseDups

theorem eraseDups_concat (xs : List String) (x : String) :
    (xs ++ [x]).eraseDups = if x ∈ xs then xs.eraseDups else xs.eraseDups ++ [x] := by
  rw [List.eraseDups_append]
  split <;> simp_all [List.removeAll, List.eraseDups_cons]

theorem eraseDups_prefix {xs ys : List String} (h : xs <+: ys) :
    xs.eraseDups <+: ys.eraseDups := by
  obtain ⟨more, rfl⟩ := h
  rw [List.eraseDups_append]
  exact List.prefix_append _ _

/-- What is kept does not depend on whether the names behind others were kept once before. -/
theorem eraseDups_append_eraseDups (xs ys : List String) :
    (xs ++ ys.eraseDups).eraseDups = (xs ++ ys).eraseDups := by
  induction ys using List.reverseRecOn with
  | nil => rfl
  | append_singleton ys y ih =>
    rw [eraseDups_concat, ← List.append_assoc, eraseDups_concat]
    by_cases old : y ∈ ys
    · rw [if_pos old, if_pos (List.mem_append_right xs old), ih]
    · rw [if_neg old, ← List.append_assoc, eraseDups_concat, ih]
      simp only [List.mem_append, List.mem_eraseDups]

theorem eraseDups_eraseDups_append (xs ys : List String) :
    (xs.eraseDups ++ ys).eraseDups = (xs ++ ys).eraseDups := by
  induction ys using List.reverseRecOn with
  | nil => simpa using eraseDups_append_eraseDups [] xs
  | append_singleton ys y ih =>
    rw [← List.append_assoc, eraseDups_concat, ← List.append_assoc, eraseDups_concat, ih]
    simp only [List.mem_append, List.mem_eraseDups]

theorem eraseDups_flatMap_eraseDups {α : Type} (names : α → List String) (as : List α) :
    (as.flatMap fun a => (names a).eraseDups).eraseDups = (as.flatMap names).eraseDups := by
  induction as with
  | nil => rfl
  | cons a as ih =>
    rw [List.flatMap_cons, List.flatMap_cons, eraseDups_eraseDups_append,
      ← eraseDups_append_eraseDups, ih, eraseDups_append_eraseDups]

end eraseDups

/-- The first name comes in front of every place where the second one comes. -/
def FirstBefore (comes : Nat → String → Prop) (a b : String) : Prop :=
  ∀ j, comes j b → ∃ i < j, comes i a

theorem FirstBefore.irrefl {comes : Nat → String → Prop} {a : String} {i : Nat} (here : comes i a) :
    ¬ FirstBefore comes a a := by
  intro before
  induction i using Nat.strongRecOn with
  | ind i ih =>
    obtain ⟨earlier, lt, there⟩ := before i here
    exact ih earlier lt there

/-- Names that come somewhere, in the order in which they first do. -/
structure InFirstOrder (comes : Nat → String → Prop) (names : List String) : Prop where
  exists_place : ∀ a ∈ names, ∃ i, comes i a
  pairwise : names.Pairwise (FirstBefore comes)

namespace InFirstOrder

variable {comes : Nat → String → Prop} {names : List String}

theorem nodup (h : InFirstOrder comes names) : names.Nodup := by
  apply h.pairwise.imp_of_mem
  rintro a _ ha _ before rfl
  obtain ⟨i, here⟩ := h.exists_place a ha
  exact before.irrefl here

/-- The names in front are in the order too. -/
theorem of_front {front : List String} (h : InFirstOrder comes names) (le : front <+: names) :
    InFirstOrder comes front :=
  ⟨fun a ha => h.exists_place a (le.subset ha), h.pairwise.sublist le.sublist⟩

/-- A name that comes in front of all others stands first. -/
theorem cons {all : Nat → String → Prop} {a : String} {i : Nat} (h : InFirstOrder comes names)
    (here : all i a) (among : ∀ j b, comes j b → all j b)
    (behind : ∀ b ∈ names, ∀ j, all j b → comes j b ∧ i < j) : InFirstOrder all (a :: names) := by
  constructor
  · intro b hb
    rcases List.mem_cons.mp hb with rfl | hb
    · exact ⟨i, here⟩
    · obtain ⟨j, there⟩ := h.exists_place b hb
      exact ⟨j, among j b there⟩
  · apply List.pairwise_cons.mpr ⟨?_, ?_⟩
    · intro b hb j there
      exact ⟨i, (behind b hb j there).2, here⟩
    · apply h.pairwise.imp_of_mem
      intro b c _ hc before j there
      obtain ⟨k, lt, earlier⟩ := before j (behind c hc j there).1
      exact ⟨k, lt, among k b earlier⟩

end InFirstOrder

/-- Of names with numbers that ascend, each is kept where it first comes. -/
theorem inFirstOrder_eraseDups {xs : List (Nat × String)}
    (ascending : xs.Pairwise fun x y => x.1 < y.1) :
    InFirstOrder (fun i a => (i, a) ∈ xs) (xs.map Prod.snd).eraseDups := by
  induction length : xs.length using Nat.strongRecOn generalizing xs with
  | ind n ih =>
    cases xs with
    | nil =>
      constructor
      · intro a ha
        cases ha
      · exact List.Pairwise.nil
    | cons x xs =>
      obtain ⟨first, behind⟩ := List.pairwise_cons.mp ascending
      -- Behind the first name the others are left, which do not come in front of it.
      let others := xs.filter (·.2 != x.2)
      have names : ((x :: xs).map Prod.snd).eraseDups = x.2 :: (others.map Prod.snd).eraseDups := by
        rw [List.map_cons, List.eraseDups_cons, List.filter_map]
        rfl
      have shorter : others.length < n := by
        rw [← length, List.length_cons]
        exact Nat.lt_succ_of_le (List.length_filter_le _ xs)
      have rest := ih others.length shorter (behind.filter _) rfl
      rw [names]
      refine rest.cons List.mem_cons_self (fun j b there => ?_) (fun b hb j there => ?_)
      · exact List.mem_cons_of_mem x (List.mem_filter.mp there).1
      · obtain ⟨k, left⟩ := rest.exists_place b hb
        have ne := (List.mem_filter.mp left).2
        rcases List.mem_cons.mp there with rfl | there
        · simp at ne
        · exact ⟨List.mem_filter.mpr ⟨there, ne⟩, first _ there⟩

theorem pairwise_zipIdx (n : Nat) (names : List String) :
    (names.zipIdx n).Pairwise fun x y => x.2 < y.2 := by
  rw [List.pairwise_iff_getElem]
  intro i j hi hj lt
  simpa using lt

/-- Each name of a list is kept where it first stands. -/
theorem inFirstOrder_getElem? (names : List String) :
    InFirstOrder (fun i a => names[i]? = some a) names.eraseDups := by
  have numbered := inFirstOrder_eraseDups (List.pairwise_map.mpr (pairwise_zipIdx 0 names) :
    (names.zipIdx.map Prod.swap).Pairwise fun x y => x.1 < y.1)
  simpa [List.map_map, Function.comp_def, List.mk_mem_zipIdx_iff_getElem?] using numbered

theorem nodup_eraseDups (names : List String) : names.eraseDups.Nodup :=
  (inFirstOrder_getElem? names).nodup

/-- The keys of pairs stand where they first came. -/
theorem Keyed.map_fst_ofList {β : Type} (pairs : List (String × β)) :
    (ofList pairs).map Prod.fst = (pairs.map Prod.fst).eraseDups := by
  induction pairs using List.reverseRecOn with
  | nil => rfl
  | append_singleton pairs p ih =>
    rw [List.map_append, List.map_singleton, eraseDups_concat, ← ih, ofList, List.foldl_append,
      ← ofList, List.foldl_cons, List.foldl_nil, map_fst_put, ih]
    simp only [List.mem_eraseDups]

namespace KeyValues

theorem toList_ofList (pairs : List (String × String)) :
    (ofList pairs).toList = Keyed.ofList pairs :=
  (List.foldl_hom toList fun _ _ => rfl).symm

theorem keys_ofList (pairs : List (String × String)) :
    (ofList pairs).keys = (pairs.map Prod.fst).eraseDups := by
  rw [keys, toList_ofList, Keyed.map_fst_ofList]

/-- The keys of pairs are those that the pairs have. -/
theorem mem_keys_ofList {pairs : List (String × String)} {key : String} :
    key ∈ (ofList pairs).keys ↔ key ∈ pairs.map Prod.fst := by
  rw [keys_ofList, List.mem_eraseDups]

end KeyValues

end HurlAssist
