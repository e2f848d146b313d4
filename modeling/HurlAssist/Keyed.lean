/-!
Lists of pairs of a key and a value in which each key stands once, in the order in which the keys
first came. A later value for a key takes the place of the earlier one and leaves the key where
it was.

Main statements: `map_fst_put` says which keys there are after a pair has been put in, and
`lookup_put` which values they have.
-/

namespace HurlAssist.Keyed

variable {β : Type}

/-- The pairs with the value of `key` replaced, or with a new pair at the end. -/
def put (key : String) (value : β) : List (String × β) → List (String × β)
  | [] => [(key, value)]
  | (k, v) :: rest => if k = key then (k, value) :: rest else (k, v) :: put key value rest

/-- The pairs of a list, put in one after the other. -/
def ofList (pairs : List (String × β)) : List (String × β) :=
  pairs.foldl (fun acc p => put p.1 p.2 acc) []

theorem map_fst_put (key : String) (value : β) (l : List (String × β)) :
    (put key value l).map Prod.fst =
      if key ∈ l.map Prod.fst then l.map Prod.fst else l.map Prod.fst ++ [key] := by
  induction l with
  | nil => simp [put]
  | cons p l ih =>
    obtain ⟨k, v⟩ := p
    by_cases h : k = key
    · simp [put, h]
    · have h' : ¬ key = k := fun e => h e.symm
      simp only [put, h, if_false, List.map_cons, ih, List.mem_cons, h', false_or]
      split <;> simp

theorem lookup_put (key : String) (value : β) (l : List (String × β)) (k : String) :
    (put key value l).lookup k = if k = key then some value else l.lookup k := by
  induction l with
  | nil =>
    by_cases h : k = key
    · simp [put, h]
    · have hb : (k == key) = false := by simpa using h
      simp [put, h, List.lookup_cons, hb]
  | cons p l ih =>
    obtain ⟨k', v⟩ := p
    by_cases h : k' = key
    · subst h
      by_cases hk : k = k'
      · simp [put, hk]
      · have hb : (k == k') = false := by simpa using hk
        simp [put, hk, List.lookup_cons, hb]
    · by_cases hk : k = k'
      · subst hk; simp [put, h]
      · have hb : (k == k') = false := by simpa using hk
        simp [put, h, List.lookup_cons, hb, ih]

end HurlAssist.Keyed
