import HurlAssist.Proofs.Api.Loading
import HurlAssist.Proofs.FirstPlaces

/-!
The path templates that a definition writes, and in which order. Whatever stands under them, a text that
is a definition has the templates that it writes at `paths`, each once, where it first stands
(`Api.Definition.exists_writtenPaths`).
-/

namespace HurlAssist

namespace Json

/-- The keys of members that are read are text. -/
theorem keys_of_members {room : Nat} {written : List (List Element × Syntax)}
    {fields : List (String × Json)} (h : membersOfSyntax? room written = some fields) :
    List.Forall₂ (fun m key => text? m.1 = some key) written (fields.map Prod.fst) := by
  induction written generalizing fields with
  | nil =>
    rw [membersOfSyntax?] at h
    cases h
    exact .nil
  | cons m written ih =>
    rw [membersOfSyntax?] at h
    split at h
    · rename_i key j rest hkey _ hrest
      cases h
      exact .cons hkey (ih hrest)
    · cases h

end Json

namespace Yaml

variable {anchored : List (Nat × Node)}

/-- What a node is read as: itself, or the node that it is an alias for. -/
inductive Node.Means (anchored : List (Nat × Node)) : Node → Node → Prop
  | itself (n : Node) : Means anchored n n
  | target {name : Nat} {n : Node} (found : Node.target? anchored name = some n) :
      Means anchored (.alias name) n

/-- A node is read as a scalar of that text. -/
def Node.Spells (anchored : List (Nat × Node)) (n : Node) (key : String) : Prop :=
  ∃ p text plain, n.Means anchored (.scalar p text plain) ∧ String.ofList text = key

/-- A node is read as one key only. -/
theorem Node.Spells.unique {n : Node} {key key' : String} (h : n.Spells anchored key)
    (h' : n.Spells anchored key') : key = key' := by
  obtain ⟨_, _, _, means, rfl⟩ := h
  obtain ⟨_, _, _, means', rfl⟩ := h'
  cases means with
  | itself => cases means'; rfl
  | target found =>
    cases means' with
    | target found' =>
      rw [found] at found'
      cases found'
      rfl

namespace Resolve

theorem means_of_target {n t : Node} {jumps left : Nat}
    (h : target anchored n jumps = some (t, left)) : n.Means anchored t := by
  match n with
  | .alias name =>
    simp only [target] at h
    split at h
    · cases h
    · obtain ⟨_, found, h⟩ := Option.map_eq_some_iff.mp h
      cases h
      exact .target found
  | .scalar .. => cases h; exact .itself _
  | .sequence .. => cases h; exact .itself _
  | .mapping .. => cases h; exact .itself _

theorem spells_of_key {n : Node} {k : String} {jumps left : Nat}
    (h : key anchored n jumps = some (k, left)) : n.Spells anchored k := by
  obtain ⟨t, mid, found, h⟩ := bind_eq_some.mp h
  match t with
  | .scalar p text plain =>
    obtain ⟨rfl, -⟩ := pure_eq_some.mp h
    exact ⟨p, text, plain, means_of_target found, rfl⟩
  | .alias _ => cases h
  | .sequence .. => cases h
  | .mapping .. => cases h

theorem keys_of_mapM_member {room jumps left : Nat} {entries : List (Node × Node)}
    {fields : List (String × Json)}
    (h : (entries.mapM (member anchored room)) jumps = some (fields, left)) :
    List.Forall₂ (fun e k => e.1.Spells anchored k) entries (fields.map Prod.fst) := by
  induction entries generalizing jumps fields with
  | nil =>
    obtain ⟨rfl, -⟩ := pure_eq_some.mp h
    exact .nil
  | cons e entries ih =>
    obtain ⟨k, _, _, _, rest, hk, _, hrest, rfl⟩ := mapM_member_cons h
    exact .cons (spells_of_key hk) (ih hrest)

end Resolve

end Yaml

namespace Api.Definition

open Json (Syntax)
open Yaml (Node Resolve)

/-- What stands at `paths` of a YAML document: a mapping with these keys, or nothing. -/
inductive PathKeys (anchored : List (Nat × Node)) (n : Node) : List String → Prop
  | mapping {p entries keys} (means : n.Means anchored (.mapping p entries))
      (spelled : List.Forall₂ (fun e key => e.1.Spells anchored key) entries keys) :
      PathKeys anchored n keys
  | missing {t} (means : n.Means anchored t) (missing : t.isMissing = true) :
      PathKeys anchored n []

/-- The text writes these path templates, one after the other. Where it has nothing at `paths` these
are none. -/
inductive WritesPaths : Format → String → List String → Prop
  | json {text s members keys} (wrote : Syntax.ofText? text = some s)
      (field : Json.onlyField? "paths" s = some (some (.object members)))
      (spelled : List.Forall₂ (fun m key => Json.text? m.1 = some key) members keys) :
      WritesPaths .json text keys
  | jsonWithout {text s} (wrote : Syntax.ofText? text = some s)
      (field : Json.onlyField? "paths" s = some none) : WritesPaths .json text []
  | yaml {text p before e after anchored keys}
      (wrote : Node.ofText? text = some (some (.mapping p (before ++ e :: after))))
      (anchors : (Node.mapping p (before ++ e :: after)).anchored = anchored)
      (field : e.1.Spells anchored "paths")
      (only : ∀ other ∈ before ++ after, ¬ other.1.Spells anchored "paths")
      (value : PathKeys anchored e.2 keys) : WritesPaths .yaml text keys
  | yamlWithout {text p entries} (wrote : Node.ofText? text = some (some (.mapping p entries)))
      (without : ∀ e ∈ entries, ¬ e.1.Spells (Node.mapping p entries).anchored "paths") :
      WritesPaths .yaml text []
  | yamlMissing {text n} (wrote : Node.ofText? text = some (some n)) (missing : n.isMissing = true) :
      WritesPaths .yaml text []
  | yamlEmpty {text} (wrote : Node.ofText? text = some none) : WritesPaths .yaml text []

theorem paths_ofPaths (items : List (String × Json)) :
    (ofPaths items).paths = items.map Prod.fst := by
  rw [paths, ofPaths, List.map_map]
  rfl

variable {d : Definition}

theorem exists_pathKeys {anchored : List (Nat × Node)} {n : Node} {jumps left : Nat}
    (h : ofPathsNode anchored n jumps = some (d, left)) :
    ∃ keys, PathKeys anchored n keys ∧ d.paths = keys.eraseDups := by
  obtain ⟨t, mid, found, h⟩ := Resolve.bind_eq_some.mp h
  have means := Resolve.means_of_target found
  have empty (missing : t.isMissing = true) (same : Definition.empty = d) :
      ∃ keys, PathKeys anchored n keys ∧ d.paths = keys.eraseDups :=
    ⟨[], .missing means missing, same ▸ rfl⟩
  match t with
  | .mapping p entries =>
    obtain ⟨fields, _, read, h⟩ := Resolve.bind_eq_some.mp h
    obtain ⟨rfl, -⟩ := Resolve.pure_eq_some.mp h
    refine ⟨fields.map Prod.fst, .mapping means (Resolve.keys_of_mapM_member read), ?_⟩
    rw [paths_ofPaths, Keyed.map_fst_ofList]
  | .scalar p text plain =>
    dsimp only at h
    split at h
    · rename_i missing
      exact empty missing (Resolve.pure_eq_some.mp h).1
    · cases h
  | .alias _ => cases h
  | .sequence .. => cases h

section entries

variable {anchored : List (Nat × Node)} {entries : List (Node × Node)} {jumps left : Nat}

/-- Once the paths have come, no other entry has their key. -/
theorem ofEntries_some {found : Definition}
    (h : ofEntries anchored (some found) entries jumps = some (d, left)) :
    d = found ∧ ∀ e ∈ entries, ¬ e.1.Spells anchored "paths" := by
  induction entries generalizing jumps with
  | nil =>
    obtain ⟨rfl, -⟩ := Resolve.pure_eq_some.mp h
    exact ⟨rfl, List.forall_mem_nil _⟩
  | cons e entries ih =>
    rw [ofEntries] at h
    obtain ⟨k, behindKey, key, h⟩ := Resolve.bind_eq_some.mp h
    by_cases here : k = "paths"
    · rw [if_pos (by simpa using here)] at h
      cases h
    · rw [if_neg (by simpa using here)] at h
      obtain ⟨same, others⟩ := ih h
      refine ⟨same, ?_⟩
      intro other mem spells
      rcases List.mem_cons.mp mem with rfl | mem
      · exact here ((Resolve.spells_of_key key).unique spells)
      · exact others other mem spells

/-- The paths come from the only entry with their key, or there is no such entry. -/
theorem ofEntries_none (h : ofEntries anchored none entries jumps = some (d, left)) :
    ((∀ e ∈ entries, ¬ e.1.Spells anchored "paths") ∧ d = empty) ∨
    ∃ before e after, entries = before ++ e :: after ∧ e.1.Spells anchored "paths" ∧
      (∀ other ∈ before ++ after, ¬ other.1.Spells anchored "paths") ∧
      ∃ behindKey behindValue, ofPathsNode anchored e.2 behindKey = some (d, behindValue) := by
  induction entries generalizing jumps with
  | nil =>
    obtain ⟨rfl, -⟩ := Resolve.pure_eq_some.mp h
    exact .inl ⟨List.forall_mem_nil _, rfl⟩
  | cons e entries ih =>
    rw [ofEntries] at h
    obtain ⟨k, behindKey, key, h⟩ := Resolve.bind_eq_some.mp h
    have spells := Resolve.spells_of_key key
    by_cases here : k = "paths"
    · rw [if_pos (by simpa using here), if_neg (by simp)] at h
      obtain ⟨found, behindValue, value, h⟩ := Resolve.bind_eq_some.mp h
      obtain ⟨rfl, others⟩ := ofEntries_some h
      exact .inr ⟨[], e, entries, rfl, here ▸ spells, others, behindKey, behindValue, value⟩
    · rw [if_neg (by simpa using here)] at h
      have other : ¬ e.1.Spells anchored "paths" := fun paths => here (spells.unique paths)
      rcases ih h with ⟨none, same⟩ | ⟨before, paths, after, rfl, spelled, only, value⟩
      · exact .inl ⟨List.forall_mem_cons.mpr ⟨other, none⟩, same⟩
      · exact .inr ⟨e :: before, paths, after, rfl, spelled,
          List.forall_mem_cons.mpr ⟨other, only⟩, value⟩

end entries

theorem exists_jsonPaths {text : String} (h : ofJsonText? text = some d) :
    ∃ written, WritesPaths .json text written ∧ d.paths = written.eraseDups := by
  obtain ⟨s, wrote, h⟩ := Option.bind_eq_some_iff.mp h
  rw [ofSyntax?] at h
  split at h
  · cases h
  · rename_i field
    cases h
    exact ⟨[], .jsonWithout wrote field, rfl⟩
  · rename_i paths field
    rw [ofPathsSyntax?] at h
    split at h
    · rename_i items value
      cases h
      obtain ⟨members, fields, rfl, read, rfl⟩ := Json.ofSyntax?_eq_object value
      refine ⟨fields.map Prod.fst, .json wrote field (Json.keys_of_members read), ?_⟩
      rw [paths_ofPaths, Keyed.map_fst_ofList]
    · cases h

theorem exists_yamlPaths {text : String} (h : ofYamlText? text = some d) :
    ∃ written, WritesPaths .yaml text written ∧ d.paths = written.eraseDups := by
  rw [ofYamlText?] at h
  split at h
  · cases h
  · rename_i wrote
    cases h
    exact ⟨[], .yamlEmpty wrote, rfl⟩
  · rename_i n wrote
    unfold ofNode? at h
    split at h
    · rename_i p entries
      obtain ⟨⟨_, left⟩, read, rfl⟩ := Option.map_eq_some_iff.mp h
      rcases ofEntries_none read with ⟨without, rfl⟩ | ⟨before, e, after, rfl, field, only, value⟩
      · exact ⟨[], .yamlWithout wrote without, rfl⟩
      · obtain ⟨_, _, value⟩ := value
        obtain ⟨keys, value, same⟩ := exists_pathKeys value
        exact ⟨keys, .yaml wrote rfl field only value, same⟩
    · split at h
      · rename_i missing
        cases h
        exact ⟨[], .yamlMissing wrote missing, rfl⟩
      · cases h

/-- A definition has the templates that its text writes, each where it first stands. -/
theorem exists_writtenPaths {format : Format} {text : String} (h : ofText format text = .ok d) :
    ∃ written, WritesPaths format text written ∧ d.paths = written.eraseDups := by
  unfold ofText at h
  cases format with
  | json =>
    dsimp only at h
    split at h
    · rename_i read
      cases h
      exact exists_jsonPaths read
    · cases h
  | yaml =>
    dsimp only at h
    split at h
    · rename_i read
      cases h
      exact exists_yamlPaths read
    · cases h

end Api.Definition

end HurlAssist
