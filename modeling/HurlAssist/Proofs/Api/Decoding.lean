import Mathlib.Data.List.Forall2
import HurlAssist.Api.Operation

/-!
What JSON writes of an operation. A record is an object, in which the fields stand under their
names, or an array, in which they stand in order and the last ones can be left out. A text that is
left out is empty, parameters that are left out are none, and a field of another type writes
nothing. Main statement: what a record writes is what is decoded of it (`Detail.ofJson?_eq_some`).
-/

namespace HurlAssist.Api

/-- What stands at each of the three fields of a record, if anything does. -/
inductive Fields (first second third : String) :
    Json → Option Json → Option Json → Option Json → Prop
  | object (members : List (String × Json)) : Fields first second third (.object members)
      (members.lookup first) (members.lookup second) (members.lookup third)
  | array {items : List Json} (atMost : items.length ≤ 3) :
      Fields first second third (.array items) items[0]? items[1]? items[2]?

inductive WritesText : Option Json → String → Prop
  | missing : WritesText none ""
  | string (s : String) : WritesText (some (.string s)) s

inductive WritesParameter : Json → Parameter → Prop
  | record {j : Json} {first second third : Option Json} {p : Parameter}
      (fields : Fields "name" "in" "description" j first second third)
      (name : WritesText first p.name) (location : WritesText second p.location)
      (description : WritesText third p.description) : WritesParameter j p

inductive WritesParameters : Option Json → List Parameter → Prop
  | missing : WritesParameters none []
  | array {items : List Json} {ps : List Parameter} (each : List.Forall₂ WritesParameter items ps) :
      WritesParameters (some (.array items)) ps

inductive WritesDetail : Json → Detail → Prop
  | record {j : Json} {first second third : Option Json} {d : Detail}
      (fields : Fields "summary" "description" "parameters" j first second third)
      (summary : WritesText first d.summary) (description : WritesText second d.description)
      (parameters : WritesParameters third d.parameters) : WritesDetail j d

theorem members?_eq_some {first second third : String} {j : Json} {a b c : Option Json} :
    members? [first, second, third] j = some [a, b, c] ↔ Fields first second third j a b c := by
  constructor
  · intro found
    unfold members? at found
    split at found
    · cases found
      exact .object _
    · split at found
      · cases found
      · rename_i atMost
        cases found
        exact .array (Nat.le_of_not_lt atMost)
    · cases found
  · rintro (members | ⟨atMost⟩)
    · rfl
    · exact if_neg (Nat.not_lt_of_le atMost)

theorem memberText?_eq_some {value : Option Json} {s : String} :
    memberText? value = some s ↔ WritesText value s := by
  constructor
  · intro found
    unfold memberText? at found
    split at found
    · cases found
      exact .missing
    · cases found
      exact .string _
    · cases found
  · rintro (_ | s) <;> rfl

namespace Parameter

theorem ofJson?_eq_some {j : Json} {p : Parameter} : ofJson? j = some p ↔ WritesParameter j p := by
  constructor
  · intro decoded
    unfold ofJson? at decoded
    split at decoded
    · rename_i fields
      split at decoded
      · rename_i name location description
        cases decoded
        exact .record (members?_eq_some.mp fields) (memberText?_eq_some.mp name)
          (memberText?_eq_some.mp location) (memberText?_eq_some.mp description)
      · cases decoded
    · cases decoded
  · rintro ⟨fields, name, location, description⟩
    simp only [ofJson?, members?_eq_some.mpr fields, memberText?_eq_some.mpr name,
      memberText?_eq_some.mpr location, memberText?_eq_some.mpr description]

theorem mapM_ofJson?_eq_some {items : List Json} {ps : List Parameter} :
    items.mapM ofJson? = some ps ↔ List.Forall₂ WritesParameter items ps := by
  induction items generalizing ps with
  | nil =>
    constructor
    · rintro ⟨⟩
      exact .nil
    · rintro ⟨⟩
      rfl
  | cons j items ih =>
    rw [List.mapM_cons]
    constructor
    · intro decoded
      obtain ⟨p, first, decoded⟩ := Option.bind_eq_some_iff.mp decoded
      obtain ⟨ps, others, decoded⟩ := Option.bind_eq_some_iff.mp decoded
      cases decoded
      exact .cons (ofJson?_eq_some.mp first) (ih.mp others)
    · rintro (_ | ⟨first, others⟩)
      rw [ofJson?_eq_some.mpr first, ih.mpr others]
      rfl

theorem listOfJson?_eq_some {value : Option Json} {ps : List Parameter} :
    listOfJson? value = some ps ↔ WritesParameters value ps := by
  constructor
  · intro decoded
    unfold listOfJson? at decoded
    split at decoded
    · cases decoded
      exact .missing
    · exact .array (mapM_ofJson?_eq_some.mp decoded)
    · cases decoded
  · rintro (_ | ⟨each⟩)
    · rfl
    · exact mapM_ofJson?_eq_some.mpr each

end Parameter

theorem Detail.ofJson?_eq_some {j : Json} {d : Detail} : ofJson? j = some d ↔ WritesDetail j d := by
  constructor
  · intro decoded
    unfold ofJson? at decoded
    split at decoded
    · rename_i fields
      split at decoded
      · rename_i summary description parameters
        cases decoded
        exact .record (members?_eq_some.mp fields) (memberText?_eq_some.mp summary)
          (memberText?_eq_some.mp description) (Parameter.listOfJson?_eq_some.mp parameters)
      · cases decoded
    · cases decoded
  · rintro ⟨fields, summary, description, parameters⟩
    simp only [ofJson?, members?_eq_some.mpr fields, memberText?_eq_some.mpr summary,
      memberText?_eq_some.mpr description, Parameter.listOfJson?_eq_some.mpr parameters]

theorem Detail.ofJson?_eq_none {j : Json} : ofJson? j = none ↔ ∀ d, ¬ WritesDetail j d := by
  simp only [← ofJson?_eq_some, Option.eq_none_iff_forall_ne_some, ne_eq]

end HurlAssist.Api
