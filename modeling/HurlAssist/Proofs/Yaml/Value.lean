import HurlAssist.Yaml.Value

/-!
Reading nodes as values. Only a mapping is read as an object, entry by entry. How many aliases may be
followed decides only whether a value is read, never which: what is read with some is read with
more, and the others are left.
-/

namespace HurlAssist.Yaml

section scalar

variable {members : List (String × Json)}

theorem decimal?_ne_object (cs : List Char) : decimal? cs ≠ some (.object members) := by
  unfold decimal?
  intro h
  split at h
  · cases h
  · split at h
    · cases h
    · dsimp only at h
      split at h <;> cases h

theorem floating?_ne_object (cs : List Char) : floating? cs ≠ some (.object members) := by
  unfold floating?
  intro h
  dsimp only at h
  split at h
  · cases h
  · split at h
    · cases h
    · exact decimal?_ne_object cs h

theorem wholeNumber?_ne_object (i : Int) : wholeNumber? i ≠ some (.object members) := by
  unfold wholeNumber?
  intro h
  split at h <;> cases h

theorem plainValue?_ne_object (cs : List Char) : plainValue? cs ≠ some (.object members) := by
  have fraction : some ((floating? cs).getD (.string (String.ofList cs))) ≠
      some (.object members) := by
    cases made : floating? cs with
    | none =>
      intro h
      cases h
    | some j => exact made ▸ floating?_ne_object cs
  unfold plainValue?
  intro h
  dsimp only at h
  split at h
  · cases h
  · split at h
    · cases h
    · split at h
      · exact wholeNumber?_ne_object _ h
      · exact fraction h
    · split at h
      · cases h
      · exact fraction h

theorem scalarValue?_ne_object (p : Properties) (text : List Char) (plain : Bool) :
    scalarValue? p text plain ≠ some (.object members) := by
  unfold scalarValue?
  intro h
  split at h
  · split at h
    · exact plainValue?_ne_object text h
    · cases h
  · obtain ⟨b, _, h⟩ := Option.map_eq_some_iff.mp h
    cases h
  · obtain ⟨i, _, h⟩ := Option.bind_eq_some_iff.mp h
    exact wholeNumber?_ne_object i h
  · exact floating?_ne_object text h
  · split at h <;> cases h
  · cases h
  · cases h

end scalar

namespace Resolve

variable {α β : Type}

/-- A success leaves no more aliases than there were, and comes of more aliases as well, which it
leaves. -/
def Steady (x : Resolve α) : Prop :=
  ∀ (jumps left : Nat) (a : α), x jumps = some (a, left) →
    left ≤ jumps ∧ ∀ more, x (jumps + more) = some (a, left + more)

theorem bind_eq_some {x : Resolve α} {f : α → Resolve β} {jumps left : Nat} {b : β} :
    (x >>= f) jumps = some (b, left) ↔
      ∃ a mid, x jumps = some (a, mid) ∧ f a mid = some (b, left) := by
  show (x jumps).bind (fun p => f p.1 p.2) = some (b, left) ↔ _
  rw [Option.bind_eq_some_iff]
  constructor
  · rintro ⟨⟨a, mid⟩, first, second⟩
    exact ⟨a, mid, first, second⟩
  · rintro ⟨a, mid, first, second⟩
    exact ⟨(a, mid), first, second⟩

theorem bind_of_eq_some {x : Resolve α} {f : α → Resolve β} {jumps mid : Nat} {a : α}
    (h : x jumps = some (a, mid)) : (x >>= f) jumps = f a mid := by
  show (x jumps).bind (fun p => f p.1 p.2) = _
  rw [h, Option.bind_some]

theorem pure_eq_some {a b : α} {jumps left : Nat} :
    (pure a : Resolve α) jumps = some (b, left) ↔ a = b ∧ jumps = left := by
  show some (a, jumps) = some (b, left) ↔ _
  rw [Option.some.injEq, Prod.mk.injEq]

theorem steady_fail : Steady (fail : Resolve α) := by
  intro jumps left a h
  cases h

theorem steady_ofOption (o : Option α) : Steady (ofOption o) := by
  intro jumps left a h
  obtain ⟨b, rfl, h⟩ := Option.map_eq_some_iff.mp h
  cases h
  exact ⟨Nat.le_refl _, fun _ => rfl⟩

theorem steady_pure (a : α) : Steady (pure a) := steady_ofOption (some a)

theorem Steady.bind {x : Resolve α} {f : α → Resolve β} (hx : Steady x)
    (hf : ∀ a, Steady (f a)) : Steady (x >>= f) := by
  intro jumps left b h
  obtain ⟨a, mid, first, second⟩ := bind_eq_some.mp h
  obtain ⟨le, firstMore⟩ := hx _ _ _ first
  obtain ⟨le', secondMore⟩ := hf a _ _ _ second
  refine ⟨Nat.le_trans le' le, ?_⟩
  intro more
  exact bind_eq_some.mpr ⟨a, mid + more, firstMore more, secondMore more⟩

theorem steady_mapM {f : α → Resolve β} (hf : ∀ a, Steady (f a)) (as : List α) :
    Steady (as.mapM f) := by
  induction as with
  | nil =>
    rw [List.mapM_nil]
    exact steady_pure []
  | cons a as ih =>
    rw [List.mapM_cons]
    exact (hf a).bind fun b => ih.bind fun bs => steady_pure (b :: bs)

variable (anchored : List (Nat × Node))

theorem steady_target (n : Node) : Steady (target anchored n) := by
  match n with
  | .alias name =>
    intro jumps left a h
    simp only [target] at h
    split at h
    · cases h
    · rename_i positive
      obtain ⟨node, found, h⟩ := Option.map_eq_some_iff.mp h
      cases h
      refine ⟨Nat.sub_le _ _, ?_⟩
      intro more
      simp only [target]
      rw [if_neg (by omega), found, Option.map_some, Nat.sub_add_comm (by omega)]
  | .scalar .. => exact steady_pure _
  | .sequence .. => exact steady_pure _
  | .mapping .. => exact steady_pure _

theorem steady_key (n : Node) : Steady (key anchored n) := by
  apply (steady_target anchored n).bind
  intro t
  cases t with
  | scalar p text plain => exact steady_pure _
  | _ => exact steady_fail

/-- A key and its value. -/
def member (room : Nat) (e : Node × Node) : Resolve (String × Json) := do
  let k ← key anchored e.1
  return (k, ← value anchored room e.2)

theorem value_eq (room : Nat) (n : Node) : value anchored room n = do
    match ← target anchored n with
    | .scalar p text plain => ofOption (scalarValue? p text plain)
    | .alias _ => fail
    | .sequence p items =>
      match room with
      | 0 => fail
      | room + 1 =>
        if isLocal p then fail else return .array (← items.mapM (value anchored room))
    | .mapping p entries =>
      match room with
      | 0 => fail
      | room + 1 =>
        if isLocal p then fail
        else return .object (Keyed.ofList (← entries.mapM (member anchored room))) := by
  unfold value
  rfl

theorem steady_value (room : Nat) (n : Node) : Steady (value anchored room n) := by
  -- An alias may lead to any other node, so that it is the room that gets less, not the node.
  induction room generalizing n with
  | zero =>
    rw [value_eq]
    apply (steady_target anchored n).bind
    intro t
    cases t with
    | scalar p text plain => exact steady_ofOption _
    | _ => exact steady_fail
  | succ room ih =>
    rw [value_eq]
    apply (steady_target anchored n).bind
    intro t
    match t with
    | .scalar .. => exact steady_ofOption _
    | .alias _ => exact steady_fail
    | .sequence p items =>
      dsimp only
      split
      · exact steady_fail
      · exact (steady_mapM ih items).bind fun js => steady_pure (Json.array js)
    | .mapping p entries =>
      dsimp only
      split
      · exact steady_fail
      · have each (e : Node × Node) : Steady (member anchored room e) :=
          (steady_key anchored e.1).bind fun k => (ih e.2).bind fun j => steady_pure (k, j)
        exact (steady_mapM each entries).bind fun ms => steady_pure (Json.object (Keyed.ofList ms))

variable {anchored}

theorem target_of_alias_none {name jumps : Nat} (h : Node.target? anchored name = none) :
    target anchored (.alias name) jumps = none := by
  simp only [target, h, Option.map_none, ite_self]

/-- Entries are read one after the other, and of each first the key. -/
theorem mapM_member_cons {room jumps left : Nat} {e : Node × Node} {entries : List (Node × Node)}
    {fields : List (String × Json)}
    (h : ((e :: entries).mapM (member anchored room)) jumps = some (fields, left)) :
    ∃ k behindKey j behindValue rest, key anchored e.1 jumps = some (k, behindKey) ∧
      value anchored room e.2 behindKey = some (j, behindValue) ∧
      (entries.mapM (member anchored room)) behindValue = some (rest, left) ∧
      fields = (k, j) :: rest := by
  rw [List.mapM_cons] at h
  obtain ⟨_, behindValue, first, h⟩ := bind_eq_some.mp h
  obtain ⟨k, behindKey, hk, first⟩ := bind_eq_some.mp first
  obtain ⟨j, _, hj, first⟩ := bind_eq_some.mp first
  obtain ⟨rfl, rfl⟩ := pure_eq_some.mp first
  obtain ⟨rest, _, more, h⟩ := bind_eq_some.mp h
  obtain ⟨rfl, rfl⟩ := pure_eq_some.mp h
  exact ⟨k, behindKey, j, _, rest, hk, hj, more, rfl⟩

/-- What is read as an object is a mapping whose entries are read. -/
theorem value_eq_object {room jumps left : Nat} {n : Node} {members : List (String × Json)}
    (h : value anchored (room + 1) n jumps = some (.object members, left)) :
    ∃ p entries mid fields, target anchored n jumps = some (.mapping p entries, mid) ∧
      (entries.mapM (member anchored room)) mid = some (fields, left) ∧
      Keyed.ofList fields = members := by
  rw [value_eq] at h
  obtain ⟨t, mid, found, h⟩ := bind_eq_some.mp h
  match t with
  | .scalar p text plain =>
    obtain ⟨j, made, h⟩ := Option.map_eq_some_iff.mp h
    cases h
    exact absurd made (scalarValue?_ne_object p text plain)
  | .alias _ => cases h
  | .sequence p items =>
    dsimp only at h
    split at h
    · cases h
    · obtain ⟨js, _, _, h⟩ := bind_eq_some.mp h
      cases h
  | .mapping p entries =>
    dsimp only at h
    split at h
    · cases h
    · obtain ⟨fields, _, read, h⟩ := bind_eq_some.mp h
      cases h
      exact ⟨p, entries, mid, fields, found, read, rfl⟩

end Resolve

end HurlAssist.Yaml
