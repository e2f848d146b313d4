import Mathlib.Data.Finset.Card
import HurlAssist.Proofs.FirstPlaces

/-!
Keys and values as a map that keeps its order. Pairs are put in one after the other; each key stands
where it first came and has the value that came last with it (`KeyValues.insertions_kept`). All of
it rests on no key standing twice: `Keyed.nodup_put` keeps that, and from it a pair of the list is
what a lookup of its key finds.
-/

namespace HurlAssist

namespace Keyed

variable {β : Type}

theorem ofList_concat (pairs : List (String × β)) (p : String × β) :
    ofList (pairs ++ [p]) = put p.1 p.2 (ofList pairs) := by
  rw [ofList, List.foldl_append]
  rfl

/-- Putting a pair in never makes a key stand twice. -/
theorem nodup_put {key : String} {value : β} {l : List (String × β)}
    (h : (l.map Prod.fst).Nodup) : ((put key value l).map Prod.fst).Nodup := by
  rw [map_fst_put]
  split
  · exact h
  · rename_i new
    rw [← List.concat_eq_append]
    exact h.concat new

theorem nodup_ofList (pairs : List (String × β)) : ((ofList pairs).map Prod.fst).Nodup := by
  induction pairs using List.reverseRecOn with
  | nil => exact List.nodup_nil
  | append_singleton pairs p ih =>
    rw [ofList_concat]
    exact nodup_put ih

/-- Where no key stands twice, no pair hides another one. -/
theorem lookup_of_mem {l : List (String × β)} (h : (l.map Prod.fst).Nodup) {p : String × β}
    (mem : p ∈ l) : l.lookup p.1 = some p.2 := by
  induction l with
  | nil => cases mem
  | cons q l ih =>
    obtain ⟨absent, rest⟩ := List.nodup_cons.mp h
    rcases List.mem_cons.mp mem with rfl | behind
    · rw [List.lookup_cons_self]
    · have other : (p.1 == q.1) = false := by
        apply beq_false_of_ne
        intro same
        exact absent (same ▸ List.mem_map_of_mem behind)
      rw [List.lookup_cons, other]
      exact ih rest behind

/-- Of the pairs that are put in, a lookup finds the last one with its key. -/
theorem lookup_ofList (pairs : List (String × β)) (key : String) :
    (ofList pairs).lookup key = pairs.reverse.lookup key := by
  induction pairs using List.reverseRecOn with
  | nil => rfl
  | append_singleton pairs p ih =>
    rw [ofList_concat, lookup_put, List.reverse_concat, List.lookup_cons, ih]
    by_cases here : key = p.1
    · rw [if_pos here, beq_of_eq here]
    · rw [if_neg here, beq_false_of_ne here]

theorem lookup_reverse_eq_some {pairs : List (String × β)} {key : String} {value : β} :
    pairs.reverse.lookup key = some value ↔
      ∃ before after, pairs = before ++ (key, value) :: after ∧ key ∉ after.map Prod.fst := by
  rw [List.lookup_eq_some_iff]
  constructor
  · rintro ⟨later, earlier, same, none⟩
    refine ⟨earlier.reverse, later.reverse, ?_, ?_⟩
    · rw [← List.reverse_reverse pairs, same]
      simp
    · intro again
      obtain ⟨p, hp, rfl⟩ := List.mem_map.mp again
      simpa using none p (List.mem_reverse.mp hp)
  · rintro ⟨before, after, rfl, none⟩
    refine ⟨after.reverse, before.reverse, by simp, ?_⟩
    intro p hp
    apply bne_iff_ne.mpr
    rintro rfl
    exact none (List.mem_map_of_mem (List.mem_reverse.mp hp))

/-- New values for two keys that are there go to two places, in whichever order they come. -/
theorem put_comm {a b : String} (ne : a ≠ b) {l : List (String × β)} (ha : a ∈ l.map Prod.fst)
    (hb : b ∈ l.map Prod.fst) (x y : β) : put b y (put a x l) = put a x (put b y l) := by
  induction l with
  | nil => cases ha
  | cons p l ih =>
    obtain ⟨key, value⟩ := p
    rw [List.map_cons, List.mem_cons] at ha hb
    by_cases first : key = a
    · subst first
      simp [put, ne]
    · by_cases second : key = b
      · subst second
        simp [put, first]
      · have ha := ha.resolve_left (Ne.symm first)
        have hb := hb.resolve_left (Ne.symm second)
        simp [put, first, second, ih ha hb]

end Keyed

namespace KeyValues

variable (pairs : List (String × String))

theorem get?_ofList (key : String) : (ofList pairs).get? key = pairs.reverse.lookup key := by
  rw [get?, toList_ofList, Keyed.lookup_ofList]

theorem get?_ofList_eq_none (key : String) :
    (ofList pairs).get? key = none ↔ key ∉ pairs.map Prod.fst := by
  rw [get?_ofList, List.lookup_eq_none_iff]
  constructor
  · intro none came
    obtain ⟨p, hp, rfl⟩ := List.mem_map.mp came
    simpa using none p (List.mem_reverse.mpr hp)
  · intro never p hp
    apply bne_iff_ne.mpr
    rintro rfl
    exact never (List.mem_map_of_mem (List.mem_reverse.mp hp))

theorem nodup_keys_ofList : (ofList pairs).keys.Nodup := by
  rw [keys, toList_ofList]
  exact Keyed.nodup_ofList pairs

/-- There are as many pairs as different keys came. -/
theorem size_ofList : (ofList pairs).size = (pairs.map Prod.fst).toFinset.card := by
  have distinct : (ofList pairs).keys.toFinset = (pairs.map Prod.fst).toFinset := by
    ext key
    rw [List.mem_toFinset, List.mem_toFinset, mem_keys_ofList]
  have length : (ofList pairs).size = (ofList pairs).keys.length := by
    rw [size, keys, List.length_map]
  rw [length, ← distinct, List.toFinset_card_of_nodup (nodup_keys_ofList pairs)]

theorem map_toList_ofList :
    ((ofList pairs).toList.map fun p => (p.1, some p.2)) =
      (ofList pairs).keys.map fun key => (key, (ofList pairs).get? key) := by
  have nodup := nodup_keys_ofList pairs
  rw [keys, List.map_map]
  apply List.map_congr_left
  intro p hp
  rw [Function.comp_apply, get?, Keyed.lookup_of_mem nodup hp]

/-- Whatever pairs are put in, one after the other: the keys are those that came, each where it
first did, so none stands twice and there are as many as different ones came; a key has the value
that came last with it, and none if it never came; and going through the pairs gives each key with
its value. New values for two keys that are there may come in either order. -/
theorem insertions_kept :
    (ofList pairs).keys = (pairs.map Prod.fst).eraseDups ∧ (ofList pairs).keys.Nodup ∧
    (ofList pairs).size = (pairs.map Prod.fst).toFinset.card ∧
    (∀ key value, (ofList pairs).get? key = some value ↔
      ∃ before after, pairs = before ++ (key, value) :: after ∧ key ∉ after.map Prod.fst) ∧
    (∀ key, (ofList pairs).get? key = none ↔ key ∉ pairs.map Prod.fst) ∧
    ((ofList pairs).toList.map fun p => (p.1, some p.2)) =
      ((ofList pairs).keys.map fun key => (key, (ofList pairs).get? key)) ∧
    ∀ a ∈ (ofList pairs).keys, ∀ b ∈ (ofList pairs).keys, a ≠ b → ∀ x y,
      ((ofList pairs).insert a x).insert b y = ((ofList pairs).insert b y).insert a x := by
  refine ⟨keys_ofList pairs, nodup_keys_ofList pairs, size_ofList pairs, ?_,
    get?_ofList_eq_none pairs, map_toList_ofList pairs, ?_⟩
  · intro key value
    rw [get?_ofList, Keyed.lookup_reverse_eq_some]
  · intro a ha b hb ne x y
    exact congrArg KeyValues.mk (Keyed.put_comm ne ha hb x y)

/-- A key that comes again in between, and new values for both keys. -/
theorem insertions_kept_again :
    let kvs := ofList [("id", "1"), ("name", "2"), ("id", "3")]
    kvs.keys = ["id", "name"] ∧ kvs.get? "id" = some "3" ∧ kvs.get? "x" = none ∧
      (kvs.insert "id" "4").insert "name" "5" = (kvs.insert "name" "5").insert "id" "4" := by
  intro kvs
  obtain ⟨keys, -, -, last, never, -, either⟩ :=
    insertions_kept [("id", "1"), ("name", "2"), ("id", "3")]
  have order : kvs.keys = ["id", "name"] := keys.trans (by decide)
  refine ⟨order, (last "id" "3").mpr ?_, (never "x").mpr (by decide), ?_⟩
  · exact ⟨[("id", "1"), ("name", "2")], [], rfl, List.not_mem_nil⟩
  · apply either "id" _ "name" _ (by decide) "4" "5"
    · rw [order]
      decide
    · rw [order]
      decide

end KeyValues

end HurlAssist
