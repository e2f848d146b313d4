import Mathlib.Data.List.Forall2
import HurlAssist.Api.Source
import HurlAssist.Proofs.Yaml.Value

/-!
What makes a text a definition. Once all values in it can be read, all that matters is that it
has paths at most once and that these are an object, not what stands in them.
-/

namespace HurlAssist

namespace Json

/-- What is read as an object is written as one, and its members are read one by one. -/
theorem ofSyntax?_eq_object {room : Nat} {s : Syntax} {members : List (String × Json)}
    (h : ofSyntax? room s = some (.object members)) :
    ∃ written fields, s = .object written ∧
      membersOfSyntax? (room - 1) written = some fields ∧ Keyed.ofList fields = members := by
  cases s with
  | object written =>
    rw [ofSyntax?] at h
    split at h
    · cases h
    · obtain ⟨fields, read, h⟩ := Option.map_eq_some_iff.mp h
      cases h
      exact ⟨written, fields, rfl, read, rfl⟩
  | array items =>
    rw [ofSyntax?] at h
    split at h
    · cases h
    · obtain ⟨js, _, h⟩ := Option.map_eq_some_iff.mp h
      cases h
  | number n =>
    rw [ofSyntax?] at h
    obtain ⟨v, _, h⟩ := Option.map_eq_some_iff.mp h
    cases h
  | string t =>
    rw [ofSyntax?] at h
    obtain ⟨v, _, h⟩ := Option.map_eq_some_iff.mp h
    cases h
  | null => rw [ofSyntax?] at h; cases h
  | bool b => rw [ofSyntax?] at h; cases h

/-- Members that are read have keys that are text, and each value is read by itself. -/
theorem named_of_members {room : Nat} {written : List (List Element × Syntax)}
    {fields : List (String × Json)} (h : membersOfSyntax? room written = some fields) :
    ∃ named, (written.mapM fun m => (text? m.1).map fun key => (key, m.2)) = some named ∧
      List.Forall₂ (fun m f => m.1 = f.1 ∧ ofSyntax? room m.2 = some f.2) named fields := by
  induction written generalizing fields with
  | nil =>
    rw [membersOfSyntax?] at h
    cases h
    exact ⟨[], rfl, .nil⟩
  | cons m written ih =>
    rw [membersOfSyntax?] at h
    split at h
    · rename_i key j rest hkey hj hrest
      cases h
      obtain ⟨named, found, same⟩ := ih hrest
      refine ⟨(key, m.2) :: named, ?_, .cons ⟨rfl, hj⟩ same⟩
      rw [List.mapM_cons, hkey, found]
      rfl
    · cases h

end Json

namespace Api.Definition

open Json (Syntax)
open Yaml (Node Resolve)

/-- The value that a text writes. -/
def value? : Format → String → Option Json
  | .json, text => Json.ofText? text
  | .yaml, text => (Node.ofText? text).join.bind fun n =>
    ((Resolve.value n.anchored depthLimit n).run (100 * n.size)).map Prod.fst

/-- The text names these fields of a definition, one by one as they are written, and all values
in them can be read. JSON may leave the names out, and a YAML document may be empty. -/
inductive Fields : Format → String → List (String × Json) → Prop
  | jsonObject {text : String} {written fields} (wrote : Syntax.ofText? text = some (.object written))
      (read : Json.membersOfSyntax? (Json.depthLimit - 1) written = some fields) :
      Fields .json text fields
  | jsonArray {text : String} {paths value} (wrote : Syntax.ofText? text = some (.array [paths]))
      (read : Json.ofSyntax? (Json.depthLimit - 1) paths = some value) :
      Fields .json text [("paths", value)]
  | jsonEmpty {text : String} (wrote : Syntax.ofText? text = some (.array [])) :
      Fields .json text []
  | yamlMapping {text : String} {p entries fields left}
      (wrote : Node.ofText? text = some (some (.mapping p entries)))
      (read : (entries.mapM (Resolve.member (Node.mapping p entries).anchored (depthLimit - 1))).run
        (100 * (Node.mapping p entries).size) = some (fields, left)) :
      Fields .yaml text fields
  | yamlEmpty {text : String} (wrote : Node.ofText? text = some none) : Fields .yaml text []

/-- The members of an object as they are written. -/
def written? : Syntax → Option (List (List Json.Element × Syntax))
  | .object members => some members
  | _ => none

theorem fields_of_written {text : String} {fields : List (String × Json)}
    (h : ((Syntax.ofText? text).bind written?).bind
      (Json.membersOfSyntax? (Json.depthLimit - 1)) = some fields) : Fields .json text fields := by
  obtain ⟨members, h, read⟩ := Option.bind_eq_some_iff.mp h
  obtain ⟨s, wrote, h⟩ := Option.bind_eq_some_iff.mp h
  unfold written? at h
  split at h
  · cases h
    exact .jsonObject wrote read
  · cases h

theorem exists_fields {format : Format} {text : String} {members : List (String × Json)}
    (h : value? format text = some (.object members)) :
    ∃ fields, Fields format text fields ∧ Keyed.ofList fields = members := by
  cases format with
  | json =>
    obtain ⟨s, wrote, h⟩ := Option.bind_eq_some_iff.mp h
    obtain ⟨written, fields, rfl, read, same⟩ := Json.ofSyntax?_eq_object h
    exact ⟨fields, .jsonObject wrote read, same⟩
  | yaml =>
    obtain ⟨n, wrote, h⟩ := Option.bind_eq_some_iff.mp h
    obtain ⟨⟨_, left⟩, h, rfl⟩ := Option.map_eq_some_iff.mp h
    obtain ⟨p, entries, mid, fields, found, read, same⟩ := Resolve.value_eq_object h
    have wrote := Option.join_eq_some_iff.mp wrote
    match n with
    | .mapping _ _ =>
      cases found
      exact ⟨fields, .yamlMapping wrote read, same⟩
    | .alias _ =>
      rw [Resolve.target_of_alias_none rfl] at found
      cases found
    | .scalar .. => cases found
    | .sequence .. => cases found

/-- An object as a definition. -/
theorem ofSyntax?_object {written : List (List Json.Element × Syntax)}
    {fields : List (String × Json)}
    (read : Json.membersOfSyntax? (Json.depthLimit - 1) written = some fields) :
    (∀ items, fields.filter (·.1 == "paths") = [("paths", .object items)] →
      ofSyntax? (.object written) = some (ofPaths items)) ∧
    (fields.filter (·.1 == "paths") = [] → ofSyntax? (.object written) = some empty) := by
  obtain ⟨named, found, same⟩ := Json.named_of_members read
  have same := List.rel_filter (p := fun m => m.1 == "paths") (q := fun f => f.1 == "paths")
    (fun m f h => by simp only [h.1]) same
  constructor
  · intro items once
    rw [once] at same
    obtain ⟨m, _, ⟨-, value⟩, none, only⟩ := List.forall₂_cons_right_iff.mp same
    obtain rfl := List.forall₂_nil_right_iff.mp none
    simp only [ofSyntax?, Json.onlyField?, found, only, ofPathsSyntax?, value]
  · intro none
    rw [none] at same
    have none := List.forall₂_nil_right_iff.mp same
    simp only [ofSyntax?, Json.onlyField?, found, none]

/-- Whatever stands under a path, an object of paths can be read as the paths of a definition. -/
theorem ofPathsNode_of_value {anchored : List (Nat × Node)} {n : Node} {jumps left : Nat}
    {items : List (String × Json)}
    (h : Resolve.value anchored (depthLimit - 1) n jumps = some (.object items, left)) :
    ofPathsNode anchored n jumps = some (ofPaths items, left) := by
  obtain ⟨p, entries, mid, fields, found, read, rfl⟩ := Resolve.value_eq_object h
  apply Resolve.bind_eq_some.mpr ⟨_, mid, found, ?_⟩
  exact Resolve.bind_eq_some.mpr ⟨fields, left, read, rfl⟩

section entries

variable {anchored : List (Nat × Node)} {e : Node × Node} {entries : List (Node × Node)}
  {found : Option Definition} {jumps behindKey left : Nat} {fields : List (String × Json)}

theorem ofEntries_other {k : String} (key : Resolve.key anchored e.1 jumps = some (k, behindKey))
    (other : k ≠ "paths") :
    ofEntries anchored found (e :: entries) jumps = ofEntries anchored found entries behindKey := by
  rw [ofEntries, Resolve.bind_of_eq_some key, if_neg (by simpa using other)]

theorem ofEntries_paths {d : Definition} {behindValue : Nat}
    (key : Resolve.key anchored e.1 jumps = some ("paths", behindKey))
    (paths : ofPathsNode anchored e.2 behindKey = some (d, behindValue)) :
    ofEntries anchored none (e :: entries) jumps =
      ofEntries anchored (some d) entries behindValue := by
  rw [ofEntries, Resolve.bind_of_eq_some key, if_pos (beq_self_eq_true _), if_neg (by simp)]
  exact Resolve.bind_of_eq_some paths

/-- Entries other than `paths` change nothing. Their values are not looked at, so that more aliases
may be left than if they were. -/
theorem ofEntries_of_no_paths (found : Option Definition) (more : Nat)
    (read : (entries.mapM (Resolve.member anchored (depthLimit - 1))) jumps = some (fields, left))
    (none : fields.filter (·.1 == "paths") = []) :
    ∃ left', ofEntries anchored found entries (jumps + more) =
      some (found.getD empty, left') := by
  induction entries generalizing jumps more fields with
  | nil => exact ⟨jumps + more, rfl⟩
  | cons e entries ih =>
    obtain ⟨k, behindKey, j, behindValue, rest, hk, hj, hrest, rfl⟩ :=
      Resolve.mapM_member_cons read
    have other : ¬ (k == "paths") = true :=
      List.filter_eq_nil_iff.mp none (k, j) List.mem_cons_self
    rw [List.filter_cons_of_neg (by exact other)] at none
    have hk := (Resolve.steady_key anchored e.1 _ _ _ hk).2 more
    have le := (Resolve.steady_value anchored _ e.2 _ _ _ hj).1
    -- The value is passed over: the aliases that it would have taken are left for the rest.
    obtain ⟨skipped, rfl⟩ := Nat.exists_eq_add_of_le le
    rw [ofEntries_other hk (by simpa using other), Nat.add_assoc]
    exact ih (skipped + more) hrest none

/-- Where `paths` stands once and is an object, the paths are those of the object. -/
theorem ofEntries_of_paths {items : List (String × Json)} (more : Nat)
    (read : (entries.mapM (Resolve.member anchored (depthLimit - 1))) jumps = some (fields, left))
    (once : fields.filter (·.1 == "paths") = [("paths", .object items)]) :
    ∃ left', ofEntries anchored none entries (jumps + more) = some (ofPaths items, left') := by
  induction entries generalizing jumps more fields with
  | nil =>
    obtain ⟨rfl, -⟩ := Resolve.pure_eq_some.mp read
    cases once
  | cons e entries ih =>
    obtain ⟨k, behindKey, j, behindValue, rest, hk, hj, hrest, rfl⟩ :=
      Resolve.mapM_member_cons read
    have hk := (Resolve.steady_key anchored e.1 _ _ _ hk).2 more
    obtain ⟨le, hjMore⟩ := Resolve.steady_value anchored _ e.2 _ _ _ hj
    by_cases here : k = "paths"
    · subst here
      rw [List.filter_cons_of_pos (by rfl)] at once
      obtain ⟨same, none⟩ := List.cons.inj once
      obtain rfl := congrArg Prod.snd same
      rw [ofEntries_paths hk (ofPathsNode_of_value (hjMore more))]
      exact ofEntries_of_no_paths (some (ofPaths items)) more hrest none
    · rw [List.filter_cons_of_neg (by simpa using here)] at once
      obtain ⟨skipped, rfl⟩ := Nat.exists_eq_add_of_le le
      rw [ofEntries_other hk here, Nat.add_assoc]
      exact ih (skipped + more) hrest once

end entries

/-- A text with paths that are an object is a definition, whatever stands under the paths; one
without paths is the definition of nothing. -/
theorem ofText_of_fields {format : Format} {text : String} {fields : List (String × Json)}
    (h : Fields format text fields) :
    (∀ items, fields.filter (·.1 == "paths") = [("paths", .object items)] →
      ofText format text = .ok (ofPaths items)) ∧
    (fields.filter (·.1 == "paths") = [] → ofText format text = .ok empty) := by
  cases h with
  | jsonObject wrote read =>
    obtain ⟨once, never⟩ := ofSyntax?_object read
    constructor
    · intro items h
      simp only [ofText, ofJsonText?, wrote, Option.bind_some, once items h]
    · intro h
      simp only [ofText, ofJsonText?, wrote, Option.bind_some, never h]
  | jsonArray wrote read =>
    constructor
    · intro items h
      rw [List.filter_cons_of_pos rfl] at h
      obtain rfl := congrArg Prod.snd (List.cons.inj h).1
      simp only [ofText, ofJsonText?, wrote, Option.bind_some, ofSyntax?, Json.onlyField?,
        ofPathsSyntax?, read]
    · intro h
      rw [List.filter_cons_of_pos rfl] at h
      cases h
  | jsonEmpty wrote =>
    constructor
    · intro items h
      cases h
    · intro _
      simp only [ofText, ofJsonText?, wrote, Option.bind_some, ofSyntax?, Json.onlyField?]
  | yamlMapping wrote read =>
    constructor
    · intro items h
      obtain ⟨left', whole⟩ := ofEntries_of_paths 0 read h
      simp only [ofText, ofYamlText?, wrote, ofNode?, StateT.run, Nat.add_zero] at whole ⊢
      rw [whole]
      rfl
    · intro h
      obtain ⟨left', whole⟩ := ofEntries_of_no_paths none 0 read h
      simp only [ofText, ofYamlText?, wrote, ofNode?, StateT.run, Nat.add_zero] at whole ⊢
      rw [whole]
      rfl
  | yamlEmpty wrote =>
    constructor
    · intro items h
      cases h
    · intro _
      simp only [ofText, ofYamlText?, wrote]

end Api.Definition

end HurlAssist
