import HurlAssist.Api.Definition
import HurlAssist.Proofs.Api.Decoding

/-!
Which template a lookup takes and what it answers. At each turn the loop over the items holds the
first of the longest that match among those it has seen (`Best.choose`), so it ends with the first
of the longest that match at all (`Definition.best_find?`). The answer follows from what is written
under that item (`PathItem.answers_operation`).
-/

namespace HurlAssist.Api

/-- The item is the one for the path among those before it, itself and those after it: it matches,
and of those that match the ones before it are shorter and the ones after it are not longer, counted
in bytes. -/
structure FirstLongest (path : String) (before : List PathItem) (item : PathItem)
    (after : List PathItem) : Prop where
  fits : templateMatches item.template path = true
  shorter : ∀ other ∈ before, templateMatches other.template path = true →
    other.template.utf8ByteSize < item.template.utf8ByteSize
  notLonger : ∀ other ∈ after, templateMatches other.template path = true →
    other.template.utf8ByteSize ≤ item.template.utf8ByteSize

/-- What the loop knows of the items that it has seen. -/
inductive Best (path : String) (items : List PathItem) : Option PathItem → Prop
  | nothing (unfit : ∀ item ∈ items, templateMatches item.template path = false) :
      Best path items none
  | taken {before after : List PathItem} {item : PathItem} (parts : items = before ++ item :: after)
      (first : FirstLongest path before item after) : Best path items (some item)

theorem FirstLongest.concat {path : String} {before after : List PathItem} {item next : PathItem}
    (first : FirstLongest path before item after)
    (notLonger : templateMatches next.template path = true →
      next.template.utf8ByteSize ≤ item.template.utf8ByteSize) :
    FirstLongest path before item (after ++ [next]) where
  fits := first.fits
  shorter := first.shorter
  notLonger := by
    intro other inAfter fits
    rcases List.mem_append.mp inAfter with inAfter | isNext
    · exact first.notLonger other inAfter fits
    · rw [List.mem_singleton.mp isNext] at fits ⊢
      exact notLonger fits

/-- None of the items that the loop has seen is longer than the one it has taken. -/
theorem FirstLongest.le {path : String} {before after : List PathItem} {item other : PathItem}
    (first : FirstLongest path before item after) (seen : other ∈ before ++ item :: after)
    (fits : templateMatches other.template path = true) :
    other.template.utf8ByteSize ≤ item.template.utf8ByteSize := by
  rcases List.mem_append.mp seen with inBefore | seen
  · exact Nat.le_of_lt (first.shorter other inBefore fits)
  · rcases List.mem_cons.mp seen with rfl | inAfter
    · exact Nat.le_refl _
    · exact first.notLonger other inAfter fits

/-- One turn of the loop. -/
theorem Best.choose {path : String} {seen : List PathItem} {best : Option PathItem}
    (h : Best path seen best) (next : PathItem) :
    Best path (seen ++ [next]) (Definition.choose path best next) := by
  cases h with
  | nothing unfit =>
    simp only [Definition.choose, Bool.true_and]
    split
    · rename_i fits
      refine .taken rfl ⟨fits, fun other inSeen fits' => ?_, by simp⟩
      rw [unfit other inSeen] at fits'
      cases fits'
    · rename_i misfit
      refine .nothing fun item inSeen => ?_
      rcases List.mem_append.mp inSeen with inSeen | isNext
      · exact unfit item inSeen
      · rw [List.mem_singleton.mp isNext]
        exact Bool.eq_false_iff.mpr misfit
  | @taken before after item parts first =>
    subst parts
    simp only [Definition.choose, Bool.and_eq_true, decide_eq_true_eq]
    split
    · rename_i better
      refine .taken rfl ⟨better.2, fun other inSeen fits => ?_, by simp⟩
      exact Nat.lt_of_le_of_lt (first.le inSeen fits) better.1
    · rename_i notBetter
      have parts : before ++ item :: after ++ [next] = before ++ item :: (after ++ [next]) := by
        simp
      refine .taken parts (first.concat fun fits => ?_)
      exact Nat.le_of_not_lt fun longer => notBetter ⟨longer, fits⟩

/-- The turns of the loop over the items that are left. -/
theorem Best.foldl_choose {path : String} {seen : List PathItem} {best : Option PathItem}
    (h : Best path seen best) (items : List PathItem) :
    Best path (seen ++ items) (items.foldl (Definition.choose path) best) := by
  induction items generalizing seen best with
  | nil => rwa [List.append_nil]
  | cons next items ih =>
    have whole := ih (h.choose next)
    rwa [List.append_assoc, List.singleton_append] at whole

theorem Definition.best_find? (d : Definition) (path : String) :
    Best path d.items (d.find? path) := by
  have start : Best path [] none := .nothing (by simp)
  exact start.foldl_choose d.items

/-- The lookup of a path takes the item, behind those items of the definition. -/
structure Definition.Takes (d : Definition) (path : String) (before : List PathItem)
    (item : PathItem) : Prop where
  found : d.find? path = some item
  place : ∃ after, d.items = before ++ item :: after ∧ FirstLongest path before item after

namespace Definition

variable {d : Definition} {path : String} {before : List PathItem} {item other : PathItem}

theorem exists_takes (mem : other ∈ d.items) (fits : templateMatches other.template path = true) :
    ∃ before item, d.Takes path before item := by
  have best := d.best_find? path
  cases found : d.find? path with
  | none =>
    rw [found] at best
    cases best with
    | nothing unfit =>
      rw [unfit other mem] at fits
      cases fits
  | some item =>
    rw [found] at best
    cases best with
    | taken parts first => exact ⟨_, item, found, _, parts, first⟩

namespace Takes

variable (taken : d.Takes path before item)

include taken

theorem mem : item ∈ d.items := by
  obtain ⟨after, parts, _⟩ := taken.place
  rw [parts]
  exact List.mem_append_right before List.mem_cons_self

/-- No item that matches is longer than the one that is taken. -/
theorem size_le (mem : other ∈ d.items) (fits : templateMatches other.template path = true) :
    other.template.utf8ByteSize ≤ item.template.utf8ByteSize := by
  obtain ⟨after, parts, first⟩ := taken.place
  rw [parts] at mem
  exact first.le mem fits

theorem operation_eq (method : String) : d.operation method path = item.operation method := by
  rw [operation, taken.found]

end Takes

end Definition

/-- The answer at an item, by what stands under it: the detail that is written under the method in
lower case, or why there is none. Where nothing is written for the method, the answer lists the
members that are operations. -/
inductive PathItem.Answers (item : PathItem) (method : String) : Operation → Prop
  | noObject (other : ∀ members, item.content ≠ .object members) :
      Answers item method ⟨method, item.template,
        ⟨"Operation not documented", "Documentation of is malformed json/yaml", []⟩⟩
  | undecodable {members : List (String × Json)} {raw : Json}
      (object : item.content = .object members)
      (member : members.lookup (Text.toLower method) = some raw)
      (bad : ∀ detail, ¬ WritesDetail raw detail) :
      Answers item method ⟨method, item.template,
        ⟨"Operation not documented", "Documentation of is malformed json/yaml", []⟩⟩
  | documented {members : List (String × Json)} {raw : Json} {detail : Detail}
      (object : item.content = .object members)
      (member : members.lookup (Text.toLower method) = some raw)
      (written : WritesDetail raw detail) :
      Answers item method ⟨method, item.template, detail⟩
  | noMember {members : List (String × Json)} (object : item.content = .object members)
      (absent : members.lookup (Text.toLower method) = none) :
      Answers item method ⟨method, item.template,
        ⟨"Operation not documented",
          item.template ++ ": undocumented method " ++ Text.toUpper method ++
            ". The following methods are documented for this path " ++
            ",".intercalate (((members.map Prod.fst).filter ["get", "put", "post", "delete",
              "options", "head", "patch", "trace", "connect"].contains).map Text.toUpper) ++ ".",
          []⟩⟩

theorem PathItem.answers_operation (item : PathItem) (method : String) :
    item.Answers method (item.operation method) := by
  unfold operation
  split
  · rename_i members object
    split
    · rename_i absent
      exact .noMember object absent
    · rename_i raw member
      split
      · rename_i detail decoded
        exact .documented object member (Detail.ofJson?_eq_some.mp decoded)
      · rename_i bad
        exact .undecodable object member (Detail.ofJson?_eq_none.mp bad)
  · rename_i other
    exact .noObject other

/-- The answer is about the method that was asked for. -/
theorem PathItem.Answers.method_eq {item : PathItem} {method : String} {op : Operation}
    (h : item.Answers method op) : op.method = method := by
  cases h with
  | noObject _ => rfl
  | undecodable _ _ _ => rfl
  | documented _ _ _ => rfl
  | noMember _ _ => rfl

theorem PathItem.Answers.path_eq {item : PathItem} {method : String} {op : Operation}
    (h : item.Answers method op) : op.path = item.template := by
  cases h with
  | noObject _ => rfl
  | undecodable _ _ _ => rfl
  | documented _ _ _ => rfl
  | noMember _ _ => rfl

theorem Definition.Takes.path_operation {d : Definition} {path : String} {before : List PathItem}
    {item : PathItem} (taken : d.Takes path before item) (method : String) :
    (d.operation method path).path = item.template := by
  rw [taken.operation_eq]
  exact (item.answers_operation method).path_eq

theorem Definition.method_operation (d : Definition) (method path : String) :
    (d.operation method path).method = method := by
  unfold operation
  split
  · rfl
  · rename_i item _
    exact (item.answers_operation method).method_eq

/-- A lookup answers at the longest template that matches the path, counted in bytes, and at the
first of those that are equally long. If none matches, it says so of the path that was asked for. -/
theorem Definition.answers_at_first_longest (d : Definition) (method path : String) :
    ((∀ item ∈ d.items, templateMatches item.template path = false) ∧
      d.operation method path = ⟨method, path,
        ⟨"Operation not documented", "Path not found in provided openapi spec", []⟩⟩) ∨
    ∃ before item after, d.items = before ++ item :: after ∧ FirstLongest path before item after ∧
      item.Answers method (d.operation method path) := by
  have best := d.best_find? path
  unfold operation
  cases found : d.find? path with
  | none =>
    rw [found] at best
    cases best with
    | nothing unfit => exact .inl ⟨unfit, rfl⟩
  | some item =>
    rw [found] at best
    cases best with
    | taken parts first => exact .inr ⟨_, item, _, parts, first, item.answers_operation method⟩

/-- Of three templates that match the path two are equally long, and the first of them is taken. It
documents a method, with one parameter by names and one by places; another method cannot be read,
since its summary is no text; and one that is not there is answered with the two. -/
theorem Definition.answers_at_first_longest_pets :
    let found : Json := .object [("tags", .null), ("summary", .string "Finds a pet"),
      ("parameters", .array
        [.object [("in", .string "path"), ("name", .string "id")], .array [.string "kind"]])]
    let pet : PathItem := ⟨"/pet", .null⟩
    let byId : PathItem := ⟨"/pet/\x7bid\x7d",
      .object [("x-note", .null), ("put", .object [("summary", .null)]), ("get", found)]⟩
    let byNo : PathItem := ⟨"/pet/\x7bno\x7d", .null⟩
    let d : Definition := ⟨[pet, byId, byNo]⟩
    FirstLongest "/pet/12" [pet] byId [byNo] ∧
    byId.Answers "Get" (d.operation "Get" "/pet/12") ∧
    d.operation "Get" "/pet/12" = ⟨"Get", "/pet/\x7bid\x7d",
      ⟨"Finds a pet", "", [⟨"id", "path", ""⟩, ⟨"kind", "", ""⟩]⟩⟩ ∧
    d.operation "PUT" "/pet/12" = ⟨"PUT", "/pet/\x7bid\x7d",
      ⟨"Operation not documented", "Documentation of is malformed json/yaml", []⟩⟩ ∧
    d.operation "post" "/pet/12" = ⟨"post", "/pet/\x7bid\x7d", ⟨"Operation not documented",
      "/pet/\x7bid\x7d: undocumented method POST. The following methods are documented for this " ++
        "path PUT,GET.", []⟩⟩ ∧
    d.operation "get" "/shop" = ⟨"get", "/shop",
      ⟨"Operation not documented", "Path not found in provided openapi spec", []⟩⟩ := by
  intro found pet byId byNo d
  have fits : templateMatches byId.template "/pet/12" = true := by decide +kernel
  rcases answers_at_first_longest d "Get" "/pet/12" with
    ⟨unfit, -⟩ | ⟨before, item, after, parts, first, answers⟩
  · rw [unfit byId (by simp [d])] at fits
    cases fits
  · have place : before = [pet] ∧ item = byId ∧ after = [byNo] := by
      match before with
      | [] =>
        cases parts
        exact absurd (first.notLonger byId (by simp) fits) (by decide)
      | [_] =>
        cases parts
        exact ⟨rfl, rfl, rfl⟩
      | [_, _] =>
        cases parts
        exact absurd (first.shorter byId (by simp) fits) (by decide)
      | _ :: _ :: _ :: more => simp [d] at parts
    obtain ⟨rfl, rfl, rfl⟩ := place
    exact ⟨first, answers, by decide +kernel, by decide +kernel, by decide +kernel,
      by decide +kernel⟩

end HurlAssist.Api
