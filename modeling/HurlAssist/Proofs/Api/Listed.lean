import HurlAssist.Proofs.Api.Choice
import HurlAssist.Proofs.Text.Case

/-!
The methods that are listed at a template, and those that a lookup takes. The listing goes by the
names of operations, a lookup by the members that stand under the template. The two go together for
every method but those under whose name, in lower case, stands a member that is no operation.
-/

namespace HurlAssist.Api

theorem getLast?_append_point (text : String) : (text ++ ".").toList.getLast? = some '.' := by
  have point : ".".toList = ['.'] := rfl
  rw [String.toList_append, point, List.getLast?_concat]

/-- A key has a value if it is one of the keys. -/
theorem exists_lookup_iff {members : List (String × Json)} {key : String} :
    (∃ raw, members.lookup key = some raw) ↔ key ∈ members.map Prod.fst := by
  induction members with
  | nil => simp
  | cons member members ih =>
    obtain ⟨name, value⟩ := member
    by_cases same : key = name
    · simp [same]
    · have other : (key == name) = false := by simpa using same
      simp [List.lookup_cons, same, other, ih]

namespace PathItem

/-- The methods that the answer for an undocumented method lists. -/
def listed (item : PathItem) : List String :=
  match item.content with
  | .object members => ((members.map Prod.fst).filter operationKeys.contains).map Text.toUpper
  | _ => []

/-- What can be read under the name of the method is this detail. -/
def Documents (item : PathItem) (method : String) (detail : Detail) : Prop :=
  ∃ members raw, item.content = .object members ∧
    members.lookup (Text.toLower method) = some raw ∧ Detail.ofJson? raw = some detail

theorem Documents.operation_eq {item : PathItem} {method : String} {detail : Detail}
    (h : item.Documents method detail) : item.operation method = ⟨method, item.template, detail⟩ := by
  obtain ⟨members, raw, object, member, decoded⟩ := h
  simp only [operation, object, member, decoded]

variable {item : PathItem} {members : List (String × Json)}
  (object : item.content = .object members) {method : String}

include object

theorem listed_eq : item.listed =
    ((members.map Prod.fst).filter operationKeys.contains).map Text.toUpper := by
  rw [listed, object]

theorem operation_of_undecodable {raw : Json}
    (member : members.lookup (Text.toLower method) = some raw) (bad : Detail.ofJson? raw = none) :
    item.operation method = .undocumented method item.template .malformed := by
  simp only [operation, object, member, bad]

section capitals

variable (capitals : ∀ c ∈ method.toList, Line.isUpper c = true)

include capitals

theorem mem_listed : method ∈ item.listed ↔
    Text.toLower method ∈ operationKeys ∧ Text.toLower method ∈ members.map Prod.fst := by
  have back : ∀ key ∈ operationKeys, Text.toLower (Text.toUpper key) = key := by decide +kernel
  rw [listed_eq object, List.mem_map]
  constructor
  · rintro ⟨key, mem, rfl⟩
    obtain ⟨mem, isKey⟩ := List.mem_filter.mp mem
    rw [List.contains_iff_mem] at isKey
    rw [back key isKey]
    exact ⟨isKey, mem⟩
  · rintro ⟨isKey, mem⟩
    refine ⟨Text.toLower method, List.mem_filter.mpr ⟨mem, ?_⟩, Text.toUpper_toLower capitals⟩
    exact List.contains_iff_mem.mpr isKey

theorem operation_of_absent (absent : Text.toLower method ∉ members.map Prod.fst) :
    item.operation method = ⟨method, item.template, ⟨"Operation not documented",
      item.template ++ ": undocumented method " ++ method ++
        ". The following methods are documented for this path " ++
        ",".intercalate item.listed ++ ".", []⟩⟩ := by
  have none : members.lookup (Text.toLower method) = none := by
    apply Option.eq_none_iff_forall_ne_some.mpr
    intro raw member
    exact absent (exists_lookup_iff.mp ⟨raw, member⟩)
  rw [listed_eq object]
  simp only [operation, object, none, Operation.undocumented, Operation.undocumentedSummary,
    Undocumented.message, Text.toUpper_of_capitals capitals]

end capitals

end PathItem

namespace Definition

variable {d : Definition} {path method : String} {before : List PathItem} {item : PathItem}
  {members : List (String × Json)}

/-- Under the name of the method stands a member of the item, and it is no operation. -/
def Stray (members : List (String × Json)) (method : String) : Prop :=
  Text.toLower method ∈ members.map Prod.fst ∧ Text.toLower method ∉ operationKeys

/-- At the item that the lookup of a path takes, documentation is shown where a method has some. A
method is listed if it is the name of an operation and has a member. So a lookup shows documentation
for listed methods only and answers with the list for all others, unless there is a member under the
name of the method that is no operation. That member is then taken for one. -/
theorem lookup_agrees_with_listing_iff (taken : d.Takes path before item)
    (object : item.content = .object members)
    (capitals : ∀ c ∈ method.toList, Line.isUpper c = true) :
    (∀ detail, item.Documents method detail →
      d.operation method path = ⟨method, item.template, detail⟩) ∧
    (method ∈ item.listed ↔
      Text.toLower method ∈ operationKeys ∧ Text.toLower method ∈ members.map Prod.fst) ∧
    ((∀ detail, item.Documents method detail → method ∈ item.listed) ∧
      (method ∉ item.listed → d.operation method path = ⟨method, item.template,
        ⟨"Operation not documented", item.template ++ ": undocumented method " ++ method ++
          ". The following methods are documented for this path " ++
          ",".intercalate item.listed ++ ".", []⟩⟩) ↔
    ¬ Stray members method) := by
  have mem_listed := PathItem.mem_listed object capitals
  rw [taken.operation_eq]
  refine ⟨fun detail h => h.operation_eq, mem_listed, ?_⟩
  constructor
  · rintro ⟨shown, others⟩ ⟨mem, noOperation⟩
    have unlisted : method ∉ item.listed := fun h => noOperation (mem_listed.mp h).1
    obtain ⟨raw, member⟩ := exists_lookup_iff.mpr mem
    -- The stray member is shown if it can be read, and is malformed if not.
    cases decoded : Detail.ofJson? raw with
    | some detail => exact unlisted (shown detail ⟨members, raw, object, member, decoded⟩)
    | none =>
      have list := others unlisted
      rw [PathItem.operation_of_undecodable object member decoded] at list
      have last := congrArg (fun op => op.detail.description.toList.getLast?) list
      simp only [Operation.undocumented, getLast?_append_point] at last
      exact absurd last (by decide)
  · intro noStray
    have isKey (mem : Text.toLower method ∈ members.map Prod.fst) :
        Text.toLower method ∈ operationKeys :=
      Decidable.not_not.mp fun noOperation => noStray ⟨mem, noOperation⟩
    constructor
    · rintro detail ⟨_, raw, object', member, _⟩
      cases object.symm.trans object'
      have mem := exists_lookup_iff.mp ⟨raw, member⟩
      exact mem_listed.mpr ⟨isKey mem, mem⟩
    · intro unlisted
      apply PathItem.operation_of_absent object capitals
      intro mem
      exact unlisted (mem_listed.mpr ⟨isKey mem, mem⟩)

/-- A method that is the name of an operation, next to members that are none. -/
theorem lookup_agrees_with_listing_iff_get :
    let item : PathItem := ⟨"/a", .object [("parameters", .array []), ("get", .object [])]⟩
    (∃ before, (⟨[item]⟩ : Definition).Takes "/a" before item) ∧ "GET" ∈ item.listed ∧
      (⟨[item]⟩ : Definition).operation "GET" "/a" = ⟨"GET", "/a", ⟨"", "", []⟩⟩ := by
  intro item
  have fits : templateMatches item.template "/a" = true := by decide +kernel
  obtain ⟨before, other, taken⟩ := exists_takes (d := ⟨[item]⟩) List.mem_cons_self fits
  obtain rfl := List.mem_singleton.mp taken.mem
  have member : (Text.toLower "GET") = "get" := by decide +kernel
  obtain ⟨shown, listed, agree⟩ := lookup_agrees_with_listing_iff taken rfl
    (List.all_eq_true.mp (show "GET".toList.all Line.isUpper = true by decide))
  have documents : item.Documents "GET" ⟨"", "", []⟩ :=
    ⟨_, .object [], rfl, by rw [member]; rfl, rfl⟩
  have noStray : ¬ Stray [("parameters", .array []), ("get", .object [])] "GET" := by
    rintro ⟨_, noOperation⟩
    rw [member] at noOperation
    exact noOperation (by decide)
  exact ⟨⟨before, taken⟩, (agree.mpr noStray).1 _ documents, shown _ documents⟩

/-- The parameters that all operations of a path share are shown as if they were an operation of
their own, which no list has. -/
theorem parameters_shown_as_operation :
    let item : PathItem := ⟨"/a", .object [("parameters", .array []), ("get", .object [])]⟩
    item.listed = ["GET"] ∧ item.Documents "PARAMETERS" ⟨"", "", []⟩ ∧
      (⟨[item]⟩ : Definition).operation "PARAMETERS" "/a" =
        ⟨"PARAMETERS", "/a", ⟨"", "", []⟩⟩ ∧
      Stray [("parameters", .array []), ("get", .object [])] "PARAMETERS" := by
  intro item
  have member : (Text.toLower "PARAMETERS") = "parameters" := by decide +kernel
  refine ⟨by decide +kernel, ⟨_, .array [], rfl, by rw [member]; rfl, rfl⟩,
    by decide +kernel, ?_, ?_⟩
  · rw [member]
    exact List.mem_cons_self
  · rw [member]
    decide

end Definition

end HurlAssist.Api
