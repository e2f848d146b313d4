import HurlAssist.Proofs.Api.Loading

/-!
How far a mistake in a definition reaches. Which template is taken for a path is decided by the
templates alone, and of what stands under it a lookup sees the keys and the one value it asks for.
-/

namespace HurlAssist.Api

/-- Two contents of a path that are the same to a lookup of the method: objects with the same keys
and with the same value at the method, if any, or both of them something else. -/
inductive SameFor (method : String) : Json → Json → Prop
  | objects {members members' : List (String × Json)}
      (keys : members.map Prod.fst = members'.map Prod.fst)
      (value : members.lookup (Text.toLower method) = members'.lookup (Text.toLower method)) :
      SameFor method (.object members) (.object members')
  | others {content content' : Json} (other : ∀ members, content ≠ .object members)
      (other' : ∀ members, content' ≠ .object members) : SameFor method content content'

theorem PathItem.operation_of_other {item : PathItem} (method : String)
    (other : ∀ members, item.content ≠ .object members) :
    item.operation method = .undocumented method item.template .malformed := by
  unfold operation
  split
  · rename_i members object
    exact absurd object (other members)
  · rfl

theorem PathItem.operation_congr {item item' : PathItem} {method : String}
    (template : item.template = item'.template) (same : SameFor method item.content item'.content) :
    item.operation method = item'.operation method := by
  obtain ⟨t, content⟩ := item
  obtain ⟨t', content'⟩ := item'
  obtain rfl : t = t' := template
  cases same with
  | objects keys value => simp only [operation, keys, value]
  | others other other' => rw [operation_of_other method other, operation_of_other method other']

namespace Definition

/-- The better of two templates for a path: the second only if it is longer and matches. -/
def chooseTemplate (path : String) (best : Option String) (template : String) : Option String :=
  if best.all (·.utf8ByteSize < template.utf8ByteSize) && templateMatches template path then
    some template
  else best

theorem template_choose (path : String) (best : Option PathItem) (item : PathItem) :
    (choose path best item).map PathItem.template =
      chooseTemplate path (best.map PathItem.template) item.template := by
  unfold choose chooseTemplate
  rw [apply_ite (Option.map PathItem.template)]
  cases best with
  | none => rfl
  | some b => rfl

/-- The template that is taken is chosen among the templates, whatever stands under them. -/
theorem template_find? (d : Definition) (path : String) :
    (d.find? path).map PathItem.template = d.paths.foldl (chooseTemplate path) none := by
  rw [paths, List.foldl_map]
  refine (List.foldl_hom (Option.map PathItem.template) ?_).symm
  intro best item
  exact (template_choose path best item).symm

theorem operation_congr {d d' : Definition} (same : d.paths = d'.paths) {method path : String}
    (contents : ∀ item item', d.find? path = some item → d'.find? path = some item' →
      SameFor method item.content item'.content) :
    d.operation method path = d'.operation method path := by
  have template := template_find? d path
  rw [same, ← template_find? d' path] at template
  unfold operation
  cases found : d.find? path with
  | none =>
    rw [found] at template
    rw [Option.map_eq_none_iff.mp template.symm]
  | some item =>
    rw [found] at template
    obtain ⟨item', found', template⟩ := Option.map_eq_some_iff.mp template.symm
    rw [found']
    exact PathItem.operation_congr template.symm (contents item item' found found')

/-- A mistake in a definition stays where it is. Two definitions with the same templates take the
same one for a path, and if what stands under it is the same to the method, a lookup of the method
has the same answer in both, whatever else they hold. And nothing that stands under a path keeps a
text from being a definition: each text with a value that is an object names the fields of one, and
if `paths` is among them once and is an object, or not at all, it is a definition with these paths,
or with none. -/
theorem mistakes_stay_local :
    (∀ (d d' : Definition) (method path : String), d.paths = d'.paths →
      (d.find? path).map PathItem.template = (d'.find? path).map PathItem.template ∧
      ((∀ item item', d.find? path = some item → d'.find? path = some item' →
        SameFor method item.content item'.content) →
        d.operation method path = d'.operation method path)) ∧
    (∀ format text members, value? format text = some (.object members) →
      ∃ fields, Fields format text fields ∧ Keyed.ofList fields = members) ∧
    ∀ format text fields, Fields format text fields →
      (∀ items, fields.filter (·.1 == "paths") = [("paths", .object items)] →
        ofText format text = .ok (ofPaths items)) ∧
      (fields.filter (·.1 == "paths") = [] → ofText format text = .ok empty) := by
  refine ⟨?_, ?_, ?_⟩
  · intro d d' method path same
    refine ⟨?_, operation_congr same⟩
    rw [template_find?, template_find?, same]
  · intro format text members h
    exact exists_fields h
  · intro format text fields h
    exact ofText_of_fields h

/-- Other paths and other methods of the wrong type, and definitions with a path that has no
methods, in both formats. -/
theorem mistakes_stay_local_here :
    (ofPaths [("/a", .null), ("/b", .object [("get", .null), ("post", .object [])])]).operation
        "POST" "/b" =
      (ofPaths [("/a", .bool true),
        ("/b", .object [("get", .string "?"), ("post", .object [])])]).operation "POST" "/b" ∧
    (∃ fields, Fields .yaml "paths:\n  /a: 12\n  /b: []\ninfo:\n" fields ∧
      Keyed.ofList fields =
        [("paths", .object [("/a", .ofNat 12), ("/b", .array [])]), ("info", .null)]) ∧
    ofText .json "\x7b\"paths\": \x7b\"/a\": null\x7d\x7d" =
      .ok (ofPaths [("/a", .null)]) := by
  obtain ⟨lookups, texts, loads⟩ := mistakes_stay_local
  refine ⟨?_, texts .yaml _ _ (by decide +kernel), ?_⟩
  · refine (lookups _ _ "POST" "/b" ?_).2 ?_
    · rfl
    · intro item item' found found'
      have here : (ofPaths [("/a", .null),
          ("/b", .object [("get", .null), ("post", .object [])])]).find? "/b" =
          some ⟨"/b", .object [("get", .null), ("post", .object [])]⟩ := by decide +kernel
      have here' : (ofPaths [("/a", .bool true),
          ("/b", .object [("get", .string "?"), ("post", .object [])])]).find? "/b" =
          some ⟨"/b", .object [("get", .string "?"), ("post", .object [])]⟩ := by decide +kernel
      obtain rfl := Option.some.inj (found.symm.trans here)
      obtain rfl := Option.some.inj (found'.symm.trans here')
      exact .objects rfl (by decide +kernel)
  · have fields : Fields .json "\x7b\"paths\": \x7b\"/a\": null\x7d\x7d"
        [("paths", .object [("/a", .null)])] := fields_of_written (by decide +kernel)
    exact (loads .json _ _ fields).1 _ rfl

end Definition

end HurlAssist.Api
